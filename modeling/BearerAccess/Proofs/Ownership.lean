import BearerAccess.Proofs.History
import Mathlib.Data.List.Count

/-!
# Users and their tokens

Where users and tokens are only made together, and only removed together, no user is ever without its
token, and no token without its user.
-/

namespace BearerAccess

/-! ### Routine events -/

/-- A call that makes no user or token alone, and removes no token alone. -/
def Call.Routine : Call → Prop
  | insertUser _ _ _ | insertToken _ _ _ _ _ | deleteToken _ => False
  | _ => True

/-- An event at which no user or token is made alone, and no token removed alone. -/
def Event.Routine : Event → Prop
  | call c => c.Routine
  | block _ => False
  | _ => True

section

variable {w w' : World} {mishaps : Mishaps}

lemma paired_removed {spelling : List UInt8 → String} {now : Option Stamp} (id : Option Text) :
    Paired spelling now ((stored? id).toList.map .removeUser) := by
  cases stored? id with
  | none => exact .nothing
  | some id => exact .removed id

lemma paired_of_credentials {a : Action Credentials} {r : Except Failure Answer}
    {changes : Except Failure Answer → List Change} {expiresAt : Option DateTime}
    (h : (Answer.credentials <$> a) w = (r, w'))
    (hok : ∀ c, changes (.ok (.credentials c)) = c.added w.stamp? expiresAt)
    (herror : ∀ e, changes (.error e) = [])
    (ha : ∀ x w₁, a w = (x, w₁) → ∀ c, x = .ok c → c.Sound w.spelling) :
    Paired w.spelling w.stamp? (changes r) := by
  rw [Action.map_apply] at h
  cases h
  have hsound := ha _ _ (rfl : a w = ((a w).1, (a w).2))
  cases hx : (a w).1 with
  | error e =>
    rw [Except.map, herror]
    exact .nothing
  | ok c =>
    rw [Except.map, hok]
    exact .added (hsound c hx)

lemma Call.perform_paired {store : Store} {call : Call} {r : Except Failure Answer}
    (hroutine : call.Routine) (h : call.perform store w = (r, w')) :
    Paired w.spelling w.stamp? (call.changes w.stamp? r) := by
  cases call with
  | insertUser id username isStaff => exact hroutine.elim
  | insertToken id userId secret name expiresAt => exact hroutine.elim
  | deleteToken id => exact hroutine.elim
  | deleteUser id =>
    cases r with
    | error e => exact .nothing
    | ok a => exact paired_removed id
  | dropTables =>
    cases r with
    | error e => exact .nothing
    | ok a => exact .cleared
  | issue actor username isStaff tokenName expiresAt =>
    exact paired_of_credentials h (fun _ => rfl) (fun _ => rfl) fun _ _ hx c hc =>
      ((issueUser_commits hx).2 c hc).1
  | bootstrap username tokenName =>
    exact paired_of_credentials h (fun _ => rfl) (fun _ => rfl) fun _ _ hx c hc =>
      (bootstrapStaffUser_commits hx).2 c hc
  | _ => exact .nothing

lemma Event.occur_paired {e : Event} {reaction : Reaction} (hroutine : e.Routine)
    (h : e.occur mishaps w = (reaction, w')) :
    Paired w.spelling w.stamp? (e.changes mishaps w reaction) := by
  cases e with
  | call c =>
    cases h
    exact Call.perform_paired hroutine rfl
  | block script => exact hroutine.elim
  | request draft =>
    obtain ⟨r, hserve, hchanges⟩ := occur_request h
    rw [hchanges]
    exact (Application.serve_commits hserve).2.1
  | command words env =>
    obtain ⟨report, hrun, rfl⟩ := occur_command h
    exact (CommandLine.run_follows hrun).2
  | install b => exact .nothing
  | tick milliseconds => exact .nothing
  | entropy draws => exact .nothing
  | lock taken => exact .nothing

end

/-! ### What routine changes keep -/

/-- The tokens are those of the users, one for each; their secrets spell random bytes, and the
usernames are those that a user may have. -/
structure Tables.Matched (spelling : List UInt8 → String) (t : Tables) : Prop where
  owners : t.tokens.map (·.userId) = t.users.map (·.id)
  secrets : ∀ k ∈ t.tokens, ∃ bytes, bytes.length = secretSize ∧ k.secret = spelling bytes
  usernames : ∀ u ∈ t.users, ∃ name, checkedUsername (some name) = .ok name ∧
    stored? (some name) = some u.username

namespace Tables.Matched

variable {spelling : List UInt8 → String} {t : Tables}

lemma empty : ({} : Tables).Matched spelling where
  owners := rfl
  secrets _ h := nomatch h
  usernames _ h := nomatch h

lemma added (h : t.Matched spelling) {c : Credentials} (hc : c.Sound spelling) (now : Option Stamp)
    (expiresAt : Option DateTime) : (t.after (c.added now expiresAt)).Matched spelling := by
  cases now with
  | none => exact h
  | some stamp =>
    constructor
    · change (t.tokens ++ [_]).map _ = (t.users ++ [_]).map _
      rw [List.map_append, List.map_append, h.owners, List.map_singleton, List.map_singleton,
        hc.owner]
    · intro k hk
      obtain hk | hk := List.mem_append.mp hk
      · exact h.secrets k hk
      · rw [List.mem_singleton.mp hk]
        exact hc.secret
    · intro u hu
      obtain hu | hu := List.mem_append.mp hu
      · exact h.usernames u hu
      · rw [List.mem_singleton.mp hu]
        exact hc.username

lemma map_filter_ne {ι : Type} (f : ι → String) (list : List ι) (id : String) :
    (list.filter fun x => f x ≠ id).map f = (list.map f).filter (· ≠ id) := by
  rw [List.filter_map]
  rfl

lemma removed (h : t.Matched spelling) (id : String) : (t.deleteUser id).Matched spelling where
  owners := by
    rw [deleteUser, map_filter_ne TokenRow.userId, map_filter_ne UserRow.id, h.owners]
  secrets k hk := h.secrets k (List.mem_of_mem_filter hk)
  usernames u hu := h.usernames u (List.mem_of_mem_filter hu)

lemma after (h : t.Matched spelling) {now : Option Stamp} {changes : List Change}
    (hpaired : Paired spelling now changes) : (t.after changes).Matched spelling := by
  cases hpaired with
  | nothing => exact h
  | added hc => exact h.added hc now _
  | removed id => exact h.removed id
  | cleared => exact empty

lemma one_token (h : t.Matched spelling) (hconsistent : t.Consistent) {u : UserRow}
    (hu : u ∈ t.users) : (t.tokens.filter (·.userId = u.id)).length = 1 := by
  have hcount : (t.tokens.map (·.userId)).count u.id = 1 := by
    rw [h.owners]
    exact List.count_eq_one_of_mem hconsistent.userIds (List.mem_map.mpr ⟨u, hu, rfl⟩)
  rw [List.count, List.countP_map] at hcount
  rw [← List.countP_eq_length_filter, ← hcount]
  rfl

lemma length_tokens (h : t.Matched spelling) : t.tokens.length = t.users.length := by
  have hlength := congrArg List.length h.owners
  rwa [List.length_map, List.length_map] at hlength

end Tables.Matched

/-! ### Secrets and usernames -/

/-- The lowercase hexadecimal digits. -/
def isLowerHex (c : Char) : Bool := '0' ≤ c && c ≤ '9' || 'a' ≤ c && c ≤ 'f'

lemma isLowerHex_hexDigit {n : Nat} (h : n < 16) : isLowerHex (hexDigit n) = true := by
  have hall : ∀ n < 16, isLowerHex (hexDigit n) = true := by decide
  exact hall n h

lemma hexText_cons (b : UInt8) (bytes : List UInt8) :
    hexText (b :: bytes) = hexDigit (b.toNat / 16) :: hexDigit (b.toNat % 16) :: hexText bytes := rfl

lemma length_hexText (bytes : List UInt8) : (hexText bytes).length = 2 * bytes.length := by
  induction bytes with
  | nil => rfl
  | cons b bytes ih =>
    rw [hexText_cons, List.length_cons, List.length_cons, List.length_cons, ih]
    omega

lemma isLowerHex_hexText (bytes : List UInt8) : ∀ c ∈ hexText bytes, isLowerHex c = true := by
  induction bytes with
  | nil =>
    intro c hc
    cases hc
  | cons b bytes ih =>
    have hb := b.toNat_lt
    intro c hc
    rw [hexText_cons] at hc
    obtain rfl | hc := List.mem_cons.mp hc
    · exact isLowerHex_hexDigit (by omega)
    · obtain rfl | hc := List.mem_cons.mp hc
      · exact isLowerHex_hexDigit (by omega)
      · exact ih c hc

lemma not_mem_hexText {c : Char} (h : isLowerHex c = false) (bytes : List UInt8) :
    c ∉ hexText bytes := by
  intro hc
  rw [isLowerHex_hexText bytes c hc] at h
  cases h

lemma username_of_checked {name : Text} {username : String}
    (h : checkedUsername (some name) = .ok name) (hs : stored? (some name) = some username) :
    username.length ≤ usernameLimit ∧ ∃ c ∈ username.toList, isBlank c = false := by
  obtain rfl := ofString_of_stored hs
  unfold checkedUsername at h
  by_cases hblank : (Text.ofString username).isBlank
  · simp [hblank] at h
  · by_cases hlong : usernameLimit < (Text.ofString username).length
    · simp [hblank, hlong] at h
    · rw [Text.ofString, List.length_map, String.length_toList, Nat.not_lt] at hlong
      refine ⟨hlong, ?_⟩
      rw [Text.isBlank, Text.ofString, List.all_map, List.all_eq_true] at hblank
      push Not at hblank
      obtain ⟨c, hc, hne⟩ := hblank
      exact ⟨c, hc, Bool.not_eq_true _ ▸ hne⟩

namespace Event

lemma run_matched {events : List (Mishaps × Event)} {w : World}
    (hroutine : ∀ e ∈ events, e.2.Routine) (h : w.stored.Matched w.spelling) :
    (run events w).2.stored.Matched w.spelling := by
  induction events generalizing w with
  | nil => exact h
  | cons head rest ih =>
    obtain ⟨mishaps, e⟩ := head
    obtain ⟨he, hrest⟩ := List.forall_mem_cons.mp hroutine
    rcases hhappen : e.happen mishaps w with ⟨reaction, w₁⟩
    obtain ⟨hspelling, -, hstored⟩ := happen_follows hhappen
    have hpaired : Paired w.spelling w.stamp? (e.changes mishaps w.anew reaction) :=
      occur_paired he hhappen
    have hnext : w₁.stored.Matched w₁.spelling := by
      rw [hstored, hspelling]
      exact h.after hpaired
    rw [run_cons, hhappen, ← hspelling]
    exact ih hrest hnext

/-- A user is never stored without its token. Whatever routine events have happened since there was
nobody, and wherever they failed, every stored user owns one stored token, and every stored token
belongs to a stored user. Each secret has 64 lowercase hexadecimal digits, and no username is blank or
longer than 100 characters. -/
theorem run_user_with_token {events : List (Mishaps × Event)} {w : World} (hempty : w.stored = {})
    (hspelling : ∀ bytes, w.spelling bytes = String.ofList (hexText bytes))
    (hroutine : ∀ e ∈ events, e.2.Routine) :
    let rows := (run events w).2.stored
    (∀ u ∈ rows.users, (rows.tokens.filter (·.userId = u.id)).length = 1) ∧
      (∀ k ∈ rows.tokens, ∃ u ∈ rows.users, u.id = k.userId) ∧
      rows.tokens.length = rows.users.length ∧
      (∀ k ∈ rows.tokens, k.secret.length = 64 ∧ ∀ c ∈ k.secret.toList, isLowerHex c = true) ∧
      ∀ u ∈ rows.users, u.username.length ≤ 100 ∧ ∃ c ∈ u.username.toList, isBlank c = false := by
  have hconsistent : (run events w).2.stored.Consistent := run_consistent hempty
  have hmatched := run_matched hroutine (hempty ▸ Tables.Matched.empty)
  refine ⟨fun u hu => hmatched.one_token hconsistent hu, hconsistent.owned, hmatched.length_tokens,
    fun k hk => ?_, fun u hu => ?_⟩
  · obtain ⟨bytes, hlength, hsecret⟩ := hmatched.secrets k hk
    rw [hsecret, hspelling, ← String.length_toList, String.toList_ofList, length_hexText, hlength]
    exact ⟨rfl, isLowerHex_hexText bytes⟩
  · obtain ⟨name, hchecked, hstored⟩ := hmatched.usernames u hu
    exact username_of_checked hchecked hstored

/-- A staff user called b is made where there was nobody. -/
def founding : List (Mishaps × Event) :=
  [({}, .call (.bootstrap (some "b") (.text "e"))), ({}, .tick 1)]

theorem run_user_with_token_founding :
    (({} : World).stored = {} ∧
      (∀ bytes, ({} : World).spelling bytes = String.ofList (hexText bytes)) ∧
      ∀ e ∈ founding, e.2.Routine) ∧
    (run founding {}).2.stored.users.length = 1 ∧ (run founding {}).2.stored.tokens.length = 1 := by
  have hroutine : ∀ e ∈ founding, e.2.Routine := by
    intro e he
    obtain rfl | he := List.mem_cons.mp he
    · trivial
    · rw [List.mem_singleton.mp he]
      trivial
  have husers : (run founding {}).2.stored.users.length = 1 := by decide +kernel
  have hall := run_user_with_token (w := {}) rfl (fun _ => rfl) hroutine
  exact ⟨⟨rfl, fun _ => rfl, hroutine⟩, husers, hall.2.2.1.trans husers⟩

end Event

end BearerAccess
