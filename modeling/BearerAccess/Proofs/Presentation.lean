import BearerAccess.Proofs.Disturbance
import BearerAccess.Proofs.Ownership

/-!
# Presented secrets

Which headers present a secret, and which secrets can be presented: those that are words, among them
all that are drawn at random.
-/

namespace BearerAccess

variable {store : Store} {r : Request} {w w' : World}

/-! ### Headers that are refused -/

/-- A header that presents nothing is refused, but never for an empty secret. -/
lemma bearerSecret_error {header : Option Text} (h : ∀ secret, bearerSecret header ≠ .ok secret) :
    ∃ problem, bearerSecret header = .error problem ∧ problem ≠ .emptySecret := by
  cases header with
  | none => exact ⟨.noHeader, rfl, nofun⟩
  | some header =>
    unfold bearerSecret at h ⊢
    dsimp only at h ⊢
    split at h
    · exact ⟨.noHeader, if_pos ‹_›, nofun⟩
    rw [if_neg ‹_›]
    cases hwords : header.words with
    | nil => exact ⟨.otherScheme, rfl, nofun⟩
    | cons scheme rest =>
      rw [hwords] at h
      by_cases hscheme : scheme.legible.map Char.toLower ≠ bearerScheme
      · exact ⟨.otherScheme, if_pos hscheme, nofun⟩
      simp only [if_neg hscheme] at h ⊢
      obtain _ | ⟨secret, _ | ⟨more, rest⟩⟩ := rest
      · exact ⟨.malformed, rfl, nofun⟩
      · exact absurd rfl (h secret)
      · exact ⟨.malformed, rfl, nofun⟩

lemma Presents.unique {header secret other : Text} (h : Presents header secret)
    (h' : Presents header other) : secret = other :=
  Except.ok.inj ((bearerSecret_iff.mpr h).symm.trans (bearerSecret_iff.mpr h'))

namespace Service

lemma look_error {header : Text} {f : Failure} (h : look store header w = (.error f, w')) :
    f.cause ≠ .credential .emptySecret := by
  cases hsecret : bearerSecret (some header) with
  | error problem =>
    have hrefused : ∀ secret, bearerSecret (some header) ≠ .ok secret := by
      intro secret h
      rw [hsecret] at h
      cases h
    obtain ⟨problem', hproblem, hne⟩ := bearerSecret_error hrefused
    rw [look, hproblem] at h
    cases h
    rintro ⟨⟩
    exact hne rfl
  | ok secret =>
    rw [look_of_presented hsecret] at h
    obtain ⟨e, hlookup, he⟩ | ⟨found, w₁, -, hrest⟩ := Action.bind_cases h
    · cases he
      by_cases hdisturbed : w.stamp? = none ∨ secret.toString? = none ∨
          Store.Unreadable (store.faults w.tasks) w.database
      · obtain ⟨e, v, hfails, hstatus⟩ := userByToken_of_disturbed hdisturbed
        rw [hlookup] at hfails
        cases hfails
        -- An internal error is no refusal.
        intro hcause
        rw [hcause] at hstatus
        cases hstatus
      · simp only [not_or] at hdisturbed
        obtain ⟨hclock, hstring, hstore⟩ := hdisturbed
        obtain ⟨s, hs⟩ := Option.ne_none_iff_exists'.mp hstring
        obtain ⟨found, v, hfound⟩ := userByToken_of_undisturbed hclock hs hstore
        rw [hlookup] at hfound
        cases hfound
    · cases found with
      | some identity => cases hrest
      | none =>
        cases hrest
        intro hcause
        cases hcause

/-- The caller of a request is never refused for an empty secret. -/
lemma findCaller_refusal {caller : Caller} (h : findCaller store r w = (.ok caller, w')) :
    ∀ f ∈ caller.refusal, f.cause ≠ .credential .emptySecret := by
  intro f hf
  unfold findCaller at h
  cases hheader : r.authorization with
  | none =>
    rw [hheader] at h
    cases h
    cases hf
  | some header =>
    rw [hheader] at h
    obtain ⟨e, -, he⟩ | ⟨found, w₁, hfound, hrest⟩ := Action.bind_cases h
    · cases he
    obtain ⟨hlook, rfl⟩ : Except.ok (look store header w).1 = Except.ok found ∧
        (look store header w).2 = w₁ := Prod.mk.inj hfound
    rcases hresult : look store header w with ⟨failure | known, w₂⟩
    · have hcause := look_error hresult
      rw [hresult] at hlook
      cases hlook
      obtain ⟨cause, noted⟩ := failure
      cases cause <;> cases hrest
      all_goals
        cases hf
        exact hcause
    · rw [hresult] at hlook
      cases hlook
      cases hrest
      cases hf

end Service

/-! ### Secrets drawn at random -/

lemma not_isBlank_of_isLowerHex {c : Char} (h : isLowerHex c = true) :
    (CodePoint.ofChar c).isBlank = false := by
  simp only [isLowerHex, Bool.or_eq_true, Bool.and_eq_true, decide_eq_true_eq] at h
  have hcode : 0x30 ≤ c.toNat ∧ c.toNat ≤ 0x39 ∨ 0x61 ≤ c.toNat ∧ c.toNat ≤ 0x66 := h
  change blanks.holds c.toNat = false
  simp only [CodeRanges.holds, blanks, List.any_cons, List.any_nil, Bool.or_eq_false_iff,
    Bool.and_eq_false_iff, decide_eq_false_iff_not, and_true]
  omega

/-- The header under which a secret is sent. -/
def headerOf (secret : String) : Text := Text.ofString ("Bearer " ++ secret)

lemma presents_headerOf {secret : String} (h : (Text.ofString secret).IsWord) :
    Presents (headerOf secret) (Text.ofString secret) := by
  refine ⟨[], Text.ofString "Bearer", Text.ofString " ", [], ?_, ⟨_, rfl, by decide⟩, h, rfl,
    by decide, rfl⟩
  rw [headerOf, Text.ofString, String.toList_append, List.map_append, List.append_nil]
  rfl

lemma isWord_hexText {bytes : List UInt8} (h : bytes ≠ []) :
    (Text.ofString (String.ofList (hexText bytes))).IsWord := by
  rw [Text.ofString, String.toList_ofList]
  refine ⟨fun hnil => ?_, fun p hp => ?_⟩
  · have hlength := length_hexText bytes
    rw [List.map_eq_nil_iff.mp hnil, List.length_nil] at hlength
    have hpos := List.length_pos_iff.mpr h
    omega
  · obtain ⟨c, hc, rfl⟩ := List.mem_map.mp hp
    exact not_isBlank_of_isLowerHex (isLowerHex_hexText bytes c hc)

/-! ### The grammar of headers -/

/-- A secret is taken from a header just if the header presents it, and one that presents nothing is
refused, as is a request without a header. So a header presents no more than one secret, and no request
is refused for an empty one; a secret of some bytes that has been drawn comes through a header as it
is, and one with white space never does. -/
theorem bearerSecret_grammar :
    (∀ header secret, bearerSecret (some header) = .ok secret ↔ Presents header secret) ∧
    (∀ header, (∀ secret, ¬Presents header secret) →
      ∃ problem, bearerSecret (some header) = .error problem) ∧
    (∃ problem, bearerSecret none = .error problem) ∧
    (∀ header secret other, Presents header secret → Presents header other → secret = other) ∧
    (∀ (r : Request) secret, bearerSecret r.authorization = .ok secret → secret ≠ []) ∧
    (∀ (store : Store) (r : Request) (w w' : World) (caller : Caller),
      Service.findCaller store r w = (.ok caller, w') →
        ∀ f ∈ caller.refusal, f.cause ≠ .credential .emptySecret) ∧
    (∀ (size : Nat) (w w' : World) (secret : String),
      (∀ bytes, w.spelling bytes = String.ofList (hexText bytes)) →
        newSecret size w = (.ok secret, w') → size ≠ 0 →
          bearerSecret (some (headerOf secret)) = .ok (Text.ofString secret)) ∧
    ∀ (secret : String) (header : Option Text) (presented : Text),
      (∃ c ∈ secret.toList, isBlank c = true) → bearerSecret header = .ok presented →
        stored? (some presented) ≠ some secret := by
  have hword : ∀ (header : Option Text) secret, bearerSecret header = .ok secret →
      secret.IsWord := by
    intro header secret h
    cases header with
    | none => cases h
    | some header => exact (bearerSecret_iff.mp h).isWord
  refine ⟨fun _ _ => bearerSecret_iff, fun header h => ?_, ⟨_, rfl⟩, fun _ _ _ => Presents.unique,
    fun r secret h => (hword _ _ h).1, fun _ _ _ _ _ => Service.findCaller_refusal,
    fun size w w' secret hspelling h hsize => ?_, fun secret header presented hblank h hstored => ?_⟩
  · obtain ⟨problem, hproblem, -⟩ :=
      bearerSecret_error fun secret hs => h secret (bearerSecret_iff.mp hs)
    exact ⟨problem, hproblem⟩
  · obtain ⟨bytes, hlength, rfl⟩ := (newSecret_cases h).2 secret rfl
    rw [hspelling]
    refine bearerSecret_iff.mpr (presents_headerOf (isWord_hexText ?_))
    rintro rfl
    exact hsize hlength.symm
  · obtain ⟨c, hc, hblank⟩ := hblank
    obtain rfl := ofString_of_stored hstored
    have hnot := (hword _ _ h).2 _ (List.mem_map_of_mem hc)
    rw [show (CodePoint.ofChar c).isBlank = isBlank c from rfl, hblank] at hnot
    cases hnot

/-- The first secret of two bytes comes through a header. -/
theorem bearerSecret_grammar_drawn :
    (newSecret 2 {}).1 = .ok "0001" ∧
      bearerSecret (some (headerOf "0001")) = .ok (Text.ofString "0001") := by
  obtain ⟨-, -, -, -, -, -, hdrawn, -⟩ := bearerSecret_grammar
  have h : newSecret 2 {} = (.ok "0001", (newSecret 2 {}).2) := by rfl
  exact ⟨congrArg Prod.fst h, hdrawn 2 {} _ "0001" (fun _ => rfl) h (by decide)⟩

/-- A secret of no bytes is empty, and a header that is to present it is refused. So not every secret
that is drawn comes through. -/
theorem bearerSecret_of_no_bytes :
    ((newSecret 0 {}).1 = .ok "" ∧ bearerSecret (some (headerOf "")) = .error .malformed) ∧
      ¬∀ (size : Nat) (secret : String), (newSecret size {}).1 = .ok secret →
        bearerSecret (some (headerOf secret)) = .ok (Text.ofString secret) := by
  have hdrawn : (newSecret 0 {}).1 = .ok "" := by rfl
  have hrefused : bearerSecret (some (headerOf "")) = .error .malformed := by rfl
  refine ⟨⟨hdrawn, hrefused⟩, fun h => ?_⟩
  have hthrough := h 0 "" hdrawn
  rw [hrefused] at hthrough
  cases hthrough

end BearerAccess
