import BearerAccess.Json.Encoded
import BearerAccess.Proofs.Change

/-!
# Documents that are nested too deep

The reader of documents gives up where arrays or objects are nested deeper than its limit. What begins
with a bracket is no object, whatever the limit.
-/

namespace BearerAccess

/-- A value that opens one array more than may be nested is given up. -/
lemma Json.Reader.value_nested (depth extra : Nat) (rest : Chars) :
    value (2 * depth + 1 + extra) depth (List.replicate (depth + 1) (CodePoint.ofChar '[') ++ rest) =
      .error .tooDeep := by
  induction depth generalizing extra with
  | zero =>
    rw [show 2 * 0 + 1 + extra = extra + 1 by omega]
    rfl
  | succ depth ih =>
    have hinner := ih extra
    rw [List.replicate_succ, List.cons_append] at hinner ⊢
    rw [show 2 * (depth + 1) + 1 + extra = 2 * depth + 1 + extra + 1 + 1 by omega]
    rw [List.replicate_succ, List.cons_append]
    have hitems : items (2 * depth + 1 + extra + 1) depth
        (CodePoint.ofChar '[' :: (List.replicate depth (CodePoint.ofChar '[') ++ rest)) =
          .error .tooDeep := by
      rw [items, hinner]
      rfl
    change (items (2 * depth + 1 + extra + 1) depth
      (CodePoint.ofChar '[' :: (List.replicate depth (CodePoint.ofChar '[') ++ rest))).map
        (fun r => (Json.array r.1, r.2)) = _
    rw [hitems]
    rfl

/-- A number of arrays, each in the one before. -/
def nestedBody (n : Nat) : List UInt8 := List.replicate n 0x5B ++ List.replicate n 0x5D

namespace Utf8

/-- A byte that is a character by itself is read as this character. -/
lemma readFrom_cons {b : UInt8} {n : Nat} {p : CodePoint} (hb : lead? true b = some (.whole n))
    (hp : CodePoint.ofNat? n = some p) (rest : List UInt8) :
    readFrom none (b :: rest) = (readFrom none rest).map (p :: ·) := by
  rw [readFrom, hb]
  dsimp only
  rw [hp]
  cases readFrom none rest <;> rfl

lemma readFrom_replicate {b : UInt8} {n : Nat} {p : CodePoint} (hb : lead? true b = some (.whole n))
    (hp : CodePoint.ofNat? n = some p) (count : Nat) (rest : List UInt8) :
    readFrom none (List.replicate count b ++ rest) =
      (readFrom none rest).map (List.replicate count p ++ ·) := by
  induction count with
  | zero => cases h : readFrom none rest <;> simp [h]
  | succ count ih =>
    rw [List.replicate_succ, List.cons_append, readFrom_cons hb hp, ih, Option.map_map]
    rfl

lemma read_brackets (m n : Nat) : read (List.replicate m 0x5B ++ List.replicate n 0x5D) =
    some (List.replicate m (CodePoint.ofChar '[') ++ List.replicate n (CodePoint.ofChar ']')) := by
  have hclosing := readFrom_replicate (b := 0x5D) (p := CodePoint.ofChar ']') rfl rfl n []
  rw [List.append_nil] at hclosing
  unfold read
  rw [readFrom_replicate (b := 0x5B) (p := CodePoint.ofChar '[') rfl rfl, hclosing, readFrom,
    Option.map_some, Option.map_some, List.append_nil]

end Utf8

lemma documentEncoding_nested {n : Nat} (hn : 4 ≤ n) :
    documentEncoding (nestedBody n) = (.utf8, nestedBody n) := by
  obtain ⟨m, rfl⟩ := Nat.exists_eq_add_of_le' hn
  unfold nestedBody
  simp only [List.replicate_succ, List.cons_append]
  rfl

/-- Arrays that are nested deeper than the limit are given up. -/
lemma Json.ofBytes_nested {limit n : Nat} (hn : 4 ≤ n) (h : limit < n) :
    Json.ofBytes limit (nestedBody n) = .error .tooDeep := by
  obtain ⟨more, hmore⟩ := Nat.exists_eq_add_of_lt h
  unfold ofBytes
  rw [documentEncoding_nested hn]
  dsimp only
  rw [nestedBody, Encoding.read, Utf8.read_brackets]
  dsimp only
  unfold ofText
  have hskip : Reader.skipSpace (List.replicate n (CodePoint.ofChar '[') ++
      List.replicate n (CodePoint.ofChar ']')) = List.replicate n (CodePoint.ofChar '[') ++
      List.replicate n (CodePoint.ofChar ']') := by
    rw [hmore]
    rfl
  rw [hskip]
  have hlength : ∃ extra, 2 * (List.replicate n (CodePoint.ofChar '[') ++
      List.replicate n (CodePoint.ofChar ']')).length + 2 = 2 * limit + 1 + extra := by
    rw [List.length_append, List.length_replicate, List.length_replicate]
    exact ⟨4 * n + 2 - (2 * limit + 1), by omega⟩
  obtain ⟨extra, hextra⟩ := hlength
  rw [hextra, show n = limit + 1 + more by omega, List.replicate_add, List.append_assoc,
    Reader.value_nested]
  rfl

/-- What begins with a bracket is read as an array, if at all. -/
lemma Json.Reader.value_array {fuel depth : Nat} {rest left : Chars} {j : Json}
    (h : value (fuel + 1) depth (CodePoint.ofChar '[' :: rest) = .ok (j, left)) :
    ∃ list, j = .array list := by
  have hquote : is (CodePoint.ofChar '[') '"' = false := rfl
  have hbracket : is (CodePoint.ofChar '[') '[' = true := rfl
  unfold value at h
  rw [hquote, hbracket, if_neg Bool.false_ne_true, if_pos rfl] at h
  cases depth with
  | zero => cases h
  | succ depth =>
    cases hrest : skipSpace rest with
    | nil =>
      rw [hrest] at h
      cases h
    | cons q more =>
      rw [hrest] at h
      dsimp only at h
      split at h
      · cases h
        exact ⟨_, rfl⟩
      · cases hitems : items fuel depth (q :: more) with
        | error problem =>
          rw [hitems] at h
          cases h
        | ok r =>
          rw [hitems] at h
          cases h
          exact ⟨_, rfl⟩

/-- Arrays are no object, however deep they may be nested. -/
lemma Json.ofBytes_not_object {n : Nat} (hn : 4 ≤ n) (limit : Nat) (fields : List (Text × Json)) :
    Json.ofBytes limit (nestedBody n) ≠ .ok (.object fields) := by
  obtain ⟨m, rfl⟩ := Nat.exists_eq_add_of_le' hn
  intro h
  unfold ofBytes at h
  rw [documentEncoding_nested hn] at h
  dsimp only at h
  rw [nestedBody, Encoding.read, Utf8.read_brackets] at h
  dsimp only at h
  obtain ⟨⟨j, left⟩, hread, h⟩ := Tables.bind_ok h
  obtain ⟨list, rfl⟩ := Reader.value_array hread
  dsimp only at h
  split at h
  · cases h
  · cases h

end BearerAccess
