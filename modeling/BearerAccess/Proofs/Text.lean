import BearerAccess.Store.Database
import Mathlib.Tactic.Common

/-!
# Texts and strings

The texts that the database takes are those of strings, and it gives back the same texts.
-/

namespace BearerAccess

namespace CodePoint

lemma isSurrogate_ofChar (c : Char) : (ofChar c).isSurrogate = false := by
  have hvalid : c.toNat < 0xD800 ∨ (0xDFFF < c.toNat ∧ c.toNat < 0x110000) := c.valid
  change (decide (0xD800 ≤ c.toNat) && decide (c.toNat < 0xE000)) = false
  rw [Bool.eq_false_iff, ne_eq, Bool.and_eq_true, decide_eq_true_eq, decide_eq_true_eq]
  omega

lemma toChar?_ofChar (c : Char) : (ofChar c).toChar? = some c := by
  rw [toChar?, isSurrogate_ofChar, if_neg Bool.false_ne_true]
  exact congrArg some (Char.ofNat_toNat c)

lemma ofChar_toChar? {p : CodePoint} {c : Char} (h : p.toChar? = some c) : ofChar c = p := by
  unfold toChar? at h
  split at h
  · cases h
  · rename_i hs
    have hp : p.val < 0xD800 ∨ (0xDFFF < p.val ∧ p.val < 0x110000) := by
      have hlt := p.isLt
      simp only [isSurrogate, Bool.and_eq_true, decide_eq_true_eq, not_and] at hs
      omega
    cases h
    have hchar : Char.ofNat p.val = Char.ofNatAux p.val hp := dif_pos hp
    apply Fin.ext
    change (Char.ofNat p.val).toNat = p.val
    rw [hchar]
    rfl

end CodePoint

namespace Text

lemma isSurrogate_of_mem_ofString {s : String} {p : CodePoint} (h : p ∈ ofString s) :
    p.isSurrogate = false := by
  obtain ⟨c, -, rfl⟩ := List.mem_map.mp h
  exact CodePoint.isSurrogate_ofChar c

@[simp] lemma toString?_ofString (s : String) : (ofString s).toString? = some s := by
  have hchars : ∀ cs : List Char, (cs.map CodePoint.ofChar).mapM CodePoint.toChar? = some cs := by
    intro cs
    induction cs with
    | nil => rfl
    | cons c cs ih => simp [List.mapM_cons, CodePoint.toChar?_ofChar, ih]
  rw [toString?, ofString, hchars, Option.map_some, String.ofList_toList]

lemma ofString_toString? {t : Text} {s : String} (h : t.toString? = some s) : ofString s = t := by
  have hchars : ∀ (t : Text) (cs : List Char), t.mapM CodePoint.toChar? = some cs →
      cs.map CodePoint.ofChar = t := by
    intro t
    induction t with
    | nil =>
      intro cs h
      cases h
      rfl
    | cons p t ih =>
      intro cs h
      simp only [List.mapM_cons, bind, Option.bind_eq_some_iff, pure, Option.some.injEq] at h
      obtain ⟨c, hc, rest, hrest, rfl⟩ := h
      rw [List.map_cons, CodePoint.ofChar_toChar? hc, ih rest hrest]
  obtain ⟨cs, hcs, rfl⟩ := Option.map_eq_some_iff.mp h
  rw [ofString, String.toList_ofList, hchars t cs hcs]

lemma toString?_isSome {t : Text} (h : ∀ p ∈ t, p.isSurrogate = false) :
    t.toString?.isSome = true := by
  rw [toString?, Option.isSome_map]
  induction t with
  | nil => rfl
  | cons p t ih =>
    obtain ⟨hp, ht⟩ := List.forall_mem_cons.mp h
    obtain ⟨cs, hcs⟩ := Option.isSome_iff_exists.mp (ih ht)
    have hchar : p.toChar? = some (Char.ofNat p.val) := by
      rw [CodePoint.toChar?, if_neg (by simp [hp])]
    rw [List.mapM_cons, hchar, hcs]
    rfl

lemma ofString_injective : Function.Injective ofString := by
  intro a b h
  have hs := congrArg toString? h
  rw [toString?_ofString, toString?_ofString] at hs
  exact Option.some.inj hs

end Text

@[simp] lemma stored?_ofString (s : String) : stored? (some (Text.ofString s)) = some s :=
  Text.toString?_ofString s

lemma ofString_of_stored {t : Text} {s : String} (h : stored? (some t) = some s) :
    Text.ofString s = t :=
  Text.ofString_toString? h

lemma stored?_injective {a b : Option Text} {s : String} (ha : stored? a = some s)
    (hb : stored? b = some s) : a = b := by
  cases a with
  | none => cases ha
  | some a =>
    cases b with
    | none => cases hb
    | some b => rw [← ofString_of_stored ha, ← ofString_of_stored hb]

end BearerAccess
