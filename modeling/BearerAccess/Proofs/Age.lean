import BearerAccess.Proofs.Change

/-!
# The order of creation

Rows are listed by the stamp of their creation, and those of one stamp by the bytes of their ids. That
is a linear order of stamps and ids, so a listing depends on which rows are stored, and not on the order
in which they are.
-/

namespace BearerAccess

namespace Tables

lemma utf8Bytes_injective {a b : String} (h : utf8Bytes a = utf8Bytes b) : a = b := by
  have hbytes : a.toUTF8 = b.toUTF8 := ByteArray.ext (Array.toList_inj.mp h)
  exact String.toByteArray_inj.mp hbytes

lemma bytesAtMost_iff {a b : String} : bytesAtMost a b = true ↔ utf8Bytes a ≤ utf8Bytes b := by
  have hbytes : (fun x y : UInt8 => decide (x.toNat < y.toNat) = true) = fun x y => x < y := by
    funext x y
    rw [decide_eq_true_eq, UInt8.lt_iff_toNat_lt]
  rw [bytesAtMost, Bool.not_eq_true', ← Bool.not_eq_true, List.lex_eq_true_iff_lex, hbytes]
  exact List.not_lt

variable {a b c : Stamp × String}

lemma createdBefore_iff : createdBefore a b = true ↔
    a.1.text < b.1.text ∨ a.1.text = b.1.text ∧ utf8Bytes a.2 ≤ utf8Bytes b.2 := by
  rw [createdBefore, Bool.or_eq_true, Bool.and_eq_true, decide_eq_true_eq, decide_eq_true_eq,
    bytesAtMost_iff]

lemma createdBefore_trans (hab : createdBefore a b = true) (hbc : createdBefore b c = true) :
    createdBefore a c = true := by
  rw [createdBefore_iff] at *
  obtain hlt | ⟨heq, hle⟩ := hab
  · obtain hlt' | ⟨heq', -⟩ := hbc
    · exact .inl (String.lt_trans hlt hlt')
    · exact .inl (heq' ▸ hlt)
  · obtain hlt' | ⟨heq', hle'⟩ := hbc
    · exact .inl (heq ▸ hlt')
    · exact .inr ⟨heq.trans heq', List.le_trans hle hle'⟩

lemma createdBefore_total (a b : Stamp × String) :
    createdBefore a b = true ∨ createdBefore b a = true := by
  rw [createdBefore_iff, createdBefore_iff]
  by_cases hlt : a.1.text < b.1.text
  · exact .inl (.inl hlt)
  by_cases hgt : b.1.text < a.1.text
  · exact .inr (.inl hgt)
  have heq : a.1.text = b.1.text :=
    String.le_antisymm (String.not_lt.mp hgt) (String.not_lt.mp hlt)
  exact (List.le_total _ _).imp (fun h => .inr ⟨heq, h⟩) fun h => .inr ⟨heq.symm, h⟩

lemma createdBefore_antisymm (hab : createdBefore a b = true) (hba : createdBefore b a = true) :
    a = b := by
  rw [createdBefore_iff] at hab hba
  obtain hlt | ⟨heq, hle⟩ := hab
  · obtain hlt' | ⟨heq', -⟩ := hba
    · exact absurd hlt' (String.lt_asymm hlt)
    · exact absurd (heq' ▸ hlt) (String.lt_irrefl _)
  · obtain hlt' | ⟨-, hle'⟩ := hba
    · exact absurd (heq ▸ hlt') (String.lt_irrefl _)
    · obtain ⟨⟨text⟩, id⟩ := a
      obtain ⟨⟨text'⟩, id'⟩ := b
      obtain rfl : text = text' := heq
      obtain rfl : id = id' := utf8Bytes_injective (List.le_antisymm hle hle')
      rfl

/-- A linear order of keys. -/
structure Linear {κ : Type} (le : κ → κ → Bool) : Prop where
  trans {a b c : κ} : le a b = true → le b c = true → le a c = true
  total (a b : κ) : le a b = true ∨ le b a = true
  antisymm {a b : κ} : le a b = true → le b a = true → a = b

lemma createdBefore_linear : Linear createdBefore :=
  ⟨createdBefore_trans, createdBefore_total, createdBefore_antisymm⟩

namespace Linear

variable {ι κ : Type} {le : κ → κ → Bool} {key : ι → κ} {rows rows' : List ι}

lemma flip (h : Linear le) : Linear fun a b => le b a :=
  ⟨fun hab hbc => h.trans hbc hab, fun a b => h.total b a, fun hab hba => h.antisymm hba hab⟩

lemma pairwise_mergeSort (h : Linear le) (rows : List ι) :
    (rows.mergeSort fun a b => le (key a) (key b)).Pairwise fun a b => le (key a) (key b) = true := by
  have htrans (a b c : ι) (hab : le (key a) (key b) = true) (hbc : le (key b) (key c) = true) :
      le (key a) (key c) = true := h.trans hab hbc
  have htotal (a b : ι) : (le (key a) (key b) || le (key b) (key a)) = true := by
    rw [Bool.or_eq_true]
    exact h.total _ _
  exact List.pairwise_mergeSort htrans htotal rows

/-- Rows that are sorted by keys in which they differ come out the same, in whatever order they were
stored. -/
lemma mergeSort_eq_of_mem (hle : Linear le) (hkeys : (rows.map key).Nodup)
    (hkeys' : (rows'.map key).Nodup) (h : ∀ x, x ∈ rows ↔ x ∈ rows') :
    (rows.mergeSort fun a b => le (key a) (key b)) =
      rows'.mergeSort fun a b => le (key a) (key b) := by
  have hperm : rows.Perm rows' :=
    (List.perm_ext_iff_of_nodup hkeys.of_map hkeys'.of_map).mpr h
  refine List.Perm.eq_of_pairwise (fun a b ha hb hab hba => ?_) (hle.pairwise_mergeSort rows)
    (hle.pairwise_mergeSort rows')
    ((List.mergeSort_perm _ _).trans (hperm.trans (List.mergeSort_perm _ _).symm))
  have hb' : b ∈ rows := (h b).mpr (List.mem_mergeSort.mp hb)
  exact List.inj_on_of_nodup_map hkeys (List.mem_mergeSort.mp ha) hb' (hle.antisymm hab hba)

/-- Rows that are sorted already are reversed when they are sorted the other way round. -/
lemma mergeSort_flip_of_pairwise (hle : Linear le) (hkeys : (rows.map key).Nodup)
    (h : rows.Pairwise fun a b => le (key a) (key b) = true) :
    (rows.mergeSort fun a b => le (key b) (key a)) = rows.reverse := by
  have hreversed : (rows.reverse.map key).Nodup := by
    rw [List.map_reverse]
    exact List.nodup_reverse.mpr hkeys
  refine (hle.flip.mergeSort_eq_of_mem hkeys hreversed fun x => List.mem_reverse.symm).trans ?_
  exact List.mergeSort_of_pairwise (List.pairwise_reverse.mpr h)

end Linear

/-- Ids and what goes with them differ if the ids do. -/
lemma nodup_keys {ι κ : Type} {stamp : ι → κ} {id : ι → String} {rows : List ι}
    (h : (rows.map id).Nodup) : (rows.map fun x => (stamp x, id x)).Nodup := by
  refine List.Nodup.of_map Prod.snd ?_
  rw [List.map_map]
  exact h

/-- Consistent rows with the same users list them in the same order. -/
lemma usersByAge_eq_of_mem {t t' : Tables} (ht : t.Consistent) (ht' : t'.Consistent)
    (h : ∀ u, u ∈ t.users ↔ u ∈ t'.users) : t.usersByAge = t'.usersByAge :=
  createdBefore_linear.mergeSort_eq_of_mem (nodup_keys ht.userIds) (nodup_keys ht'.userIds) h

end Tables

end BearerAccess
