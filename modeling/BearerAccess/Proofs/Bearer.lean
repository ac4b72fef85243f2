import BearerAccess.Bearer
import BearerAccess.Proofs.Text

/-!
# Bearer headers

The words of a text, and the headers that present a secret.
-/

namespace BearerAccess

/-! ### Words -/

namespace Text

/-- A text that is empty or begins with white space. -/
def Parted (t : Text) : Prop := ∀ p ∈ t.head?, p.isBlank = true

/-- A text that may stand as a word: it is not empty and has no white space. -/
def IsWord (t : Text) : Prop := t ≠ [] ∧ ∀ p ∈ t, p.isBlank = false

variable {t w rest before : Text}

lemma isBlank_cons {p : CodePoint} :
    isBlank (p :: t) = true ↔ p.isBlank = true ∧ t.isBlank = true := by
  rw [isBlank, List.all_cons, Bool.and_eq_true]
  rfl

lemma words_cons_blank {p : CodePoint} (hp : p.isBlank = true) : words (p :: t) = words t := by
  cases t with
  | nil => simp [words, hp]
  | cons q t => rw [words, if_pos hp]

lemma words_blank_append (h : before.isBlank = true) : words (before ++ t) = words t := by
  induction before with
  | nil => rfl
  | cons p before ih =>
    obtain ⟨hp, hbefore⟩ := isBlank_cons.mp h
    rw [List.cons_append, words_cons_blank hp, ih hbefore]

lemma words_of_blank (h : t.isBlank = true) : words t = [] := by
  have happend := words_blank_append (t := []) h
  rwa [List.append_nil] at happend

lemma words_cons_parted {p : CodePoint} (hp : p.isBlank = false) (h : t.Parted) :
    words (p :: t) = [p] :: words t := by
  cases t with
  | nil => simp [words, hp]
  | cons q t =>
    have hq : q.isBlank = true := h q rfl
    rw [words, if_neg (by simp [hp]), if_pos hq]

lemma words_cons_word {p q : CodePoint} {w : Text} {ws : List Text} (hp : p.isBlank = false)
    (hq : q.isBlank = false) (h : words (q :: t) = w :: ws) :
    words (p :: q :: t) = (p :: w) :: ws := by
  rw [words, if_neg (by simp [hp]), if_neg (by simp [hq]), h]

lemma words_word_append (hw : w.IsWord) (hrest : rest.Parted) :
    words (w ++ rest) = w :: words rest := by
  obtain ⟨hne, hall⟩ := hw
  induction w with
  | nil => exact absurd rfl hne
  | cons p w ih =>
    obtain ⟨hp, hw⟩ := List.forall_mem_cons.mp hall
    cases w with
    | nil => exact words_cons_parted hp hrest
    | cons q w => exact words_cons_word hp (hw q List.mem_cons_self) (ih (by simp) hw)

lemma parted_of_blank (h : before.isBlank = true) (hrest : before = [] → rest.Parted) :
    (before ++ rest : Text).Parted := by
  cases before with
  | nil => exact hrest rfl
  | cons p before =>
    intro q hq
    cases hq
    exact (isBlank_cons.mp h).1

lemma exists_word {p : CodePoint} (hp : p.isBlank = false) (t : Text) :
    ∃ w rest : Text, p :: t = w ++ rest ∧ w.IsWord ∧ rest.Parted := by
  refine ⟨(p :: t).takeWhile (!·.isBlank), (p :: t).dropWhile (!·.isBlank),
    List.takeWhile_append_dropWhile.symm, ⟨?_, ?_⟩, ?_⟩
  · rw [List.takeWhile_cons, hp]
    exact List.cons_ne_nil _ _
  · intro q hq
    simpa using List.all_eq_true.mp List.all_takeWhile q hq
  · intro q hq
    have hhead := List.head?_dropWhile_not (!·.isBlank) (p :: t)
    rw [hq] at hhead
    simpa using hhead

lemma blank_of_words (h : words t = []) : t.isBlank = true := by
  induction t with
  | nil => rfl
  | cons p t ih =>
    cases hp : p.isBlank with
    | true =>
      rw [words_cons_blank hp] at h
      exact isBlank_cons.mpr ⟨hp, ih h⟩
    | false =>
      obtain ⟨w, rest, heq, hword, hrest⟩ := exists_word hp t
      rw [heq, words_word_append hword hrest] at h
      cases h

lemma words_cons_cases {ws : List Text} (h : words t = w :: ws) :
    ∃ before rest : Text, t = before ++ (w ++ rest) ∧ before.isBlank = true ∧ w.IsWord ∧ rest.Parted ∧
      words rest = ws := by
  induction t generalizing w with
  | nil => cases h
  | cons p t ih =>
    cases hp : p.isBlank with
    | true =>
      rw [words_cons_blank hp] at h
      obtain ⟨before, rest, rfl, hbefore, hword, hrest, hws⟩ := ih h
      exact ⟨p :: before, rest, rfl, isBlank_cons.mpr ⟨hp, hbefore⟩, hword, hrest, hws⟩
    | false =>
      obtain ⟨v, rest, heq, hword, hrest⟩ := exists_word hp t
      rw [heq, words_word_append hword hrest] at h
      obtain ⟨rfl, hws⟩ := List.cons.inj h
      exact ⟨[], rest, heq, rfl, hword, hrest, hws⟩

end Text

/-! ### Headers -/

/-- The name of the bearer scheme, in letters of either case. -/
def NamesBearer (scheme : Text) : Prop :=
  ∃ letters : List Char, scheme = letters.map CodePoint.ofChar ∧
    letters.map Char.toLower = bearerScheme

/-- A header presents a secret: it has the name of the scheme and the secret, with white space
between the two and at most white space around them. -/
def Presents (header secret : Text) : Prop :=
  ∃ before scheme between after : Text,
    header = before ++ (scheme ++ (between ++ (secret ++ after))) ∧ NamesBearer scheme ∧
      secret.IsWord ∧ before.isBlank = true ∧ (between ≠ [] ∧ between.isBlank = true) ∧
      after.isBlank = true

lemma Presents.isWord {header secret : Text} (h : Presents header secret) : secret.IsWord := by
  obtain ⟨_, _, _, _, _, _, hsecret, _⟩ := h
  exact hsecret

lemma namesBearer_of_legible {scheme : Text}
    (h : scheme.legible.map Char.toLower = bearerScheme) : NamesBearer scheme := by
  refine ⟨scheme.legible, ?_, h⟩
  have hletter : ∀ p ∈ scheme, CodePoint.ofChar (p.toChar?.getD '\uFFFD') = p := by
    intro p hp
    cases hchar : p.toChar? with
    | some c => exact CodePoint.ofChar_toChar? hchar
    | none =>
      have hmem : Char.toLower '\uFFFD' ∈ bearerScheme := by
        rw [← h]
        exact List.mem_map.mpr ⟨_, List.mem_map.mpr ⟨p, hp, by rw [hchar]; rfl⟩, rfl⟩
      exact absurd hmem (by decide)
  have hsame : scheme.map (CodePoint.ofChar ∘ fun p => p.toChar?.getD '\uFFFD') = scheme.map id :=
    List.map_congr_left hletter
  rw [Text.legible, List.map_map, hsame, List.map_id]

lemma legible_letters (letters : List Char) :
    Text.legible (letters.map CodePoint.ofChar) = letters := by
  have hsame : letters.map ((fun p => p.toChar?.getD '\uFFFD') ∘ CodePoint.ofChar) =
      letters.map id := by
    refine List.map_congr_left fun c _ => ?_
    rw [Function.comp_apply, CodePoint.toChar?_ofChar, Option.getD_some, id]
  rw [Text.legible, List.map_map, hsame, List.map_id]

lemma toLower_of_blank {c : Char} (h : (CodePoint.ofChar c).isBlank = true) : c.toLower = c := by
  have hcode : c.toNat < 0x41 ∨ 0x5A < c.toNat := by
    have hrange : blanks.holds c.toNat = true := h
    simp only [CodeRanges.holds, blanks, List.any_cons, List.any_nil, Bool.or_eq_true,
      Bool.and_eq_true, decide_eq_true_eq, Bool.false_eq_true, or_false] at hrange
    omega
  unfold Char.toLower
  rw [dif_neg]
  rintro ⟨hlow, hhigh⟩
  have hlow' : 0x41 ≤ c.toNat := hlow
  have hhigh' : c.toNat ≤ 0x5A := hhigh
  omega

lemma isWord_letters {letters : List Char} (h : letters.map Char.toLower = bearerScheme) :
    Text.IsWord (letters.map CodePoint.ofChar) := by
  refine ⟨?_, fun p hp => ?_⟩
  · rintro hnil
    rw [List.map_eq_nil_iff.mp hnil] at h
    cases h
  · obtain ⟨c, hc, rfl⟩ := List.mem_map.mp hp
    cases hblank : (CodePoint.ofChar c).isBlank with
    | false => rfl
    | true =>
      have hmem : c ∈ bearerScheme := by
        rw [← h, ← toLower_of_blank hblank]
        exact List.mem_map_of_mem hc
      have hnone : bearerScheme.any (fun c => (CodePoint.ofChar c).isBlank) = false := by decide
      exact absurd hblank (List.any_eq_false.mp hnone c hmem)

lemma words_of_presented {letters : List Char} {before between secret after : Text}
    (hletters : letters.map Char.toLower = bearerScheme) (hsecret : secret.IsWord)
    (hbefore : before.isBlank = true) (hbetween : between ≠ [] ∧ between.isBlank = true)
    (hafter : after.isBlank = true) :
    Text.words (before ++ (letters.map CodePoint.ofChar ++ (between ++ (secret ++ after)))) =
      [letters.map CodePoint.ofChar, secret] := by
  have hparted : Text.Parted (between ++ (secret ++ after)) :=
    Text.parted_of_blank hbetween.2 fun hnil => absurd hnil hbetween.1
  have hend : after.Parted := by
    have happend : Text.Parted (after ++ []) :=
      Text.parted_of_blank hafter fun _ p hp => by cases hp
    rwa [List.append_nil] at happend
  rw [Text.words_blank_append hbefore, Text.words_word_append (isWord_letters hletters) hparted,
    Text.words_blank_append hbetween.2, Text.words_word_append hsecret hend,
    Text.words_of_blank hafter]

lemma presents_of_words {header scheme secret : Text}
    (hscheme : scheme.legible.map Char.toLower = bearerScheme) (h : header.words = [scheme, secret]) :
    Presents header secret := by
  obtain ⟨before, rest, rfl, hbefore, -, hparted, hrest⟩ := Text.words_cons_cases h
  obtain ⟨between, after, rfl, hbetween, hsecret, -, hafter⟩ := Text.words_cons_cases hrest
  refine ⟨before, scheme, between, after, rfl, namesBearer_of_legible hscheme, hsecret, hbefore,
    ⟨?_, hbetween⟩, Text.blank_of_words hafter⟩
  -- Without white space between them, the two would be one word.
  rintro rfl
  obtain ⟨hne, hall⟩ := hsecret
  obtain ⟨p, secret, rfl⟩ := List.exists_cons_of_ne_nil hne
  have hblank : p.isBlank = true := hparted p rfl
  rw [hall p List.mem_cons_self] at hblank
  cases hblank

/-- A secret is taken from a header just if the header presents it. -/
lemma bearerSecret_iff {header secret : Text} :
    bearerSecret (some header) = .ok secret ↔ Presents header secret := by
  unfold bearerSecret
  constructor
  · intro h
    cases header with
    | nil => cases h
    | cons p header =>
      simp only [List.isEmpty_cons] at h
      cases hwords : Text.words (p :: header) with
      | nil =>
        rw [hwords] at h
        cases h
      | cons scheme rest =>
        rw [hwords] at h
        by_cases hscheme : scheme.legible.map Char.toLower = bearerScheme
        · simp only [hscheme] at h
          obtain _ | ⟨s, _ | ⟨more, rest⟩⟩ := rest
          · cases h
          · cases h
            exact presents_of_words hscheme hwords
          · cases h
        · simp [hscheme] at h
  · rintro ⟨before, scheme, between, after, rfl, ⟨letters, rfl, hletters⟩, hsecret, hbefore,
      hbetween, hafter⟩
    have hwords := words_of_presented hletters hsecret hbefore hbetween hafter
    generalize before ++ (letters.map CodePoint.ofChar ++ (between ++ (secret ++ after))) = header
      at hwords ⊢
    cases header with
    | nil => cases hwords
    | cons p header => simp [hwords, legible_letters, hletters]

end BearerAccess
