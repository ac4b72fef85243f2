import BearerAccess.Store.Tables
import Mathlib.Data.List.Nodup
import Mathlib.Tactic.Common

/-!
# Changes of the rows

Everything that is ever done to the stored rows, as data: rows are added and removed, and never
altered. A list of changes is a history; what is stored is what its history has left.
-/

namespace BearerAccess

/-- A change of the stored rows. -/
inductive Change where
  | addUser (row : UserRow)
  | addToken (row : TokenRow)
  /-- A user goes with all its tokens. -/
  | removeUser (id : String)
  | removeToken (id : String)
  /-- All rows go with their tables. -/
  | clear
  deriving DecidableEq, Repr

namespace Change

def apply (t : Tables) : Change → Tables
  | addUser row => { t with users := t.users ++ [row] }
  | addToken row => { t with tokens := t.tokens ++ [row] }
  | removeUser id => t.deleteUser id
  | removeToken id => t.deleteToken id
  | clear => {}

/-- A new row breaks no constraint. -/
def Fits (t : Tables) : Change → Prop
  | addUser row => ∀ u ∈ t.users, u.username ≠ row.username ∧ u.id ≠ row.id
  | addToken row =>
    (∀ k ∈ t.tokens, k.secret ≠ row.secret ∧ k.id ≠ row.id) ∧ ∃ u ∈ t.users, u.id = row.userId
  | _ => True

instance (t : Tables) : DecidablePred (Fits t)
  | addUser row =>
    inferInstanceAs (Decidable (∀ u ∈ t.users, u.username ≠ row.username ∧ u.id ≠ row.id))
  | addToken row =>
    inferInstanceAs (Decidable ((∀ k ∈ t.tokens, k.secret ≠ row.secret ∧ k.id ≠ row.id) ∧
      ∃ u ∈ t.users, u.id = row.userId))
  | removeUser _ | removeToken _ | clear => .isTrue trivial

/-- The user that a change adds. -/
def user? : Change → Option UserRow
  | addUser row => some row
  | _ => none

/-- The token that a change adds. -/
def token? : Change → Option TokenRow
  | addToken row => some row
  | _ => none

/-- A change after which a user is no longer there. -/
def EndsUser (u : UserRow) : Change → Prop
  | removeUser id => u.id = id
  | clear => True
  | _ => False

/-- A change after which a token is no longer there. -/
def EndsToken (k : TokenRow) : Change → Prop
  | removeUser id => k.userId = id
  | removeToken id => k.id = id
  | clear => True
  | _ => False

end Change

/-- The changes that go with an outcome, if it is an answer. -/
def changesOf {α ε : Type} (added : α → List Change) : Except ε α → List Change
  | .ok a => added a
  | .error _ => []

lemma no_answer {α ε : Type} {holds : α → Prop} {e : ε} :
    ∀ a, (Except.error e : Except ε α) = .ok a → holds a := by
  intro a h
  cases h

namespace Tables

def after (t : Tables) (changes : List Change) : Tables := changes.foldl Change.apply t

/-- Each change of a history fits the rows that it meets. -/
def Admits : Tables → List Change → Prop
  | _, [] => True
  | t, c :: rest => c.Fits t ∧ (c.apply t).Admits rest

instance decidableAdmits : (t : Tables) → (changes : List Change) → Decidable (t.Admits changes)
  | _, [] => .isTrue trivial
  | t, c :: rest => @instDecidableAnd _ _ _ (decidableAdmits (c.apply t) rest)

@[simp] lemma after_nil (t : Tables) : t.after [] = t := rfl

@[simp] lemma after_cons (t : Tables) (c : Change) (rest : List Change) :
    t.after (c :: rest) = (c.apply t).after rest := rfl

lemma after_append (t : Tables) (changes more : List Change) :
    t.after (changes ++ more) = (t.after changes).after more :=
  List.foldl_append

@[simp] lemma admits_nil (t : Tables) : t.Admits [] := trivial

@[simp] lemma admits_cons (t : Tables) (c : Change) (rest : List Change) :
    t.Admits (c :: rest) ↔ c.Fits t ∧ (c.apply t).Admits rest := Iff.rfl

lemma admits_append {t : Tables} {changes more : List Change} :
    t.Admits (changes ++ more) ↔ t.Admits changes ∧ (t.after changes).Admits more := by
  induction changes generalizing t with
  | nil => simp
  | cons c rest ih => simp [ih, and_assoc]

/-! ### Insertions are changes -/

lemma present_ok {α : Type} {column : String} {given : Option α} {a : α}
    (h : present column given = .ok a) : given = some a := by
  cases given with
  | none => cases h
  | some b => exact congrArg some (Except.ok.inj h)

lemma throw_if_ok {α ε : Type} {p : Prop} [Decidable p] {e : ε} {go : Except ε α} {a : α}
    (h : (if p then (throw e : Except ε PUnit) >>= fun _ => go else go) = .ok a) :
    ¬p ∧ go = .ok a := by
  by_cases hp : p
  · rw [if_pos hp] at h
    cases h
  · rw [if_neg hp] at h
    exact ⟨hp, h⟩

lemma bind_ok {α β ε : Type} {x : Except ε α} {f : α → Except ε β} {b : β}
    (h : (x >>= f) = .ok b) : ∃ a, x = .ok a ∧ f a = .ok b := by
  cases x with
  | error e => cases h
  | ok a => exact ⟨a, rfl, h⟩

lemma insertUser_ok {t t' : Tables} {u : NewUser} {now : Stamp} {row : UserRow}
    (h : t.insertUser u now = .ok (row, t')) :
    u = ⟨some row.id, some row.username, row.isStaff⟩ ∧ row.createdAt = now ∧
      (Change.addUser row).Fits t ∧ t' = (Change.addUser row).apply t := by
  obtain ⟨id, hid, h⟩ := bind_ok h
  obtain ⟨username, hname, h⟩ := bind_ok h
  obtain ⟨hname', h⟩ := throw_if_ok h
  obtain ⟨hid', h⟩ := throw_if_ok h
  cases h
  refine ⟨?_, rfl, fun v hv => ⟨?_, ?_⟩, rfl⟩
  · rw [← present_ok hid, ← present_ok hname]
  · intro he
    exact hname' (List.any_eq_true.mpr ⟨v, hv, decide_eq_true he⟩)
  · intro he
    exact hid' (List.any_eq_true.mpr ⟨v, hv, decide_eq_true he⟩)

lemma insertToken_ok {t t' : Tables} {k : NewToken} {now : Stamp} {row : TokenRow}
    (h : t.insertToken k now = .ok (row, t')) :
    k = ⟨some row.id, some row.userId, some row.secret, some row.name, row.expiresAt⟩ ∧
      row.createdAt = now ∧ (Change.addToken row).Fits t ∧ t' = (Change.addToken row).apply t := by
  obtain ⟨id, hid, h⟩ := bind_ok h
  obtain ⟨userId, huser, h⟩ := bind_ok h
  obtain ⟨secret, hsecret, h⟩ := bind_ok h
  obtain ⟨name, hname, h⟩ := bind_ok h
  obtain ⟨hsecret', h⟩ := throw_if_ok h
  obtain ⟨hid', h⟩ := throw_if_ok h
  obtain ⟨howner, h⟩ := throw_if_ok h
  cases h
  refine ⟨?_, rfl, ⟨fun l hl => ⟨?_, ?_⟩, ?_⟩, rfl⟩
  · rw [← present_ok hid, ← present_ok huser, ← present_ok hsecret, ← present_ok hname]
  · intro he
    exact hsecret' (List.any_eq_true.mpr ⟨l, hl, decide_eq_true he⟩)
  · intro he
    exact hid' (List.any_eq_true.mpr ⟨l, hl, decide_eq_true he⟩)
  · simpa using howner

/-! ### What a history leaves -/

lemma mem_users_apply {t : Tables} {c : Change} {u : UserRow} :
    u ∈ (c.apply t).users ↔ (u ∈ t.users ∧ ¬c.EndsUser u) ∨ c = .addUser u := by
  cases c with
  | addUser row => simp [Change.apply, Change.EndsUser, @eq_comm _ row]
  | addToken row => simp [Change.apply, Change.EndsUser]
  | removeUser id => simp [Change.apply, Change.EndsUser, deleteUser]
  | removeToken id => simp [Change.apply, Change.EndsUser, deleteToken]
  | clear => simp [Change.apply, Change.EndsUser]

lemma mem_tokens_apply {t : Tables} {c : Change} {k : TokenRow} :
    k ∈ (c.apply t).tokens ↔ (k ∈ t.tokens ∧ ¬c.EndsToken k) ∨ c = .addToken k := by
  cases c with
  | addUser row => simp [Change.apply, Change.EndsToken]
  | addToken row => simp [Change.apply, Change.EndsToken, @eq_comm _ row]
  | removeUser id => simp [Change.apply, Change.EndsToken, deleteUser]
  | removeToken id => simp [Change.apply, Change.EndsToken, deleteToken]
  | clear => simp [Change.apply, Change.EndsToken]

/-- What a change adds is there until a change ends it. -/
lemma after_iff (holds : Tables → Prop) {add : Change} {Ends : Change → Prop}
    (step : ∀ t c, holds (c.apply t) ↔ (holds t ∧ ¬Ends c) ∨ c = add) (t : Tables)
    (changes : List Change) :
    holds (t.after changes) ↔ (holds t ∧ ∀ c ∈ changes, ¬Ends c) ∨
      ∃ before later, changes = before ++ add :: later ∧ ∀ c ∈ later, ¬Ends c := by
  induction changes generalizing t with
  | nil => simp
  | cons c rest ih =>
    rw [after_cons, ih, step]
    constructor
    · rintro (⟨⟨ht, hc⟩ | rfl, hrest⟩ | ⟨before, later, rfl, hlater⟩)
      · exact .inl ⟨ht, List.forall_mem_cons.mpr ⟨hc, hrest⟩⟩
      · exact .inr ⟨[], rest, rfl, hrest⟩
      · exact .inr ⟨c :: before, later, rfl, hlater⟩
    · rintro (⟨ht, hall⟩ | ⟨before, later, he, hlater⟩)
      · obtain ⟨hc, hrest⟩ := List.forall_mem_cons.mp hall
        exact .inl ⟨.inl ⟨ht, hc⟩, hrest⟩
      · cases before with
        | nil =>
          obtain ⟨rfl, rfl⟩ := List.cons.inj he
          exact .inl ⟨.inr rfl, hlater⟩
        | cons first before =>
          obtain ⟨rfl, rfl⟩ := List.cons.inj he
          exact .inr ⟨before, later, rfl, hlater⟩

lemma mem_users_after {t : Tables} {changes : List Change} {u : UserRow} :
    u ∈ (t.after changes).users ↔ (u ∈ t.users ∧ ∀ c ∈ changes, ¬c.EndsUser u) ∨
      ∃ before later, changes = before ++ .addUser u :: later ∧ ∀ c ∈ later, ¬c.EndsUser u :=
  after_iff (fun t => u ∈ t.users) (fun _ _ => mem_users_apply) t changes

lemma mem_tokens_after {t : Tables} {changes : List Change} {k : TokenRow} :
    k ∈ (t.after changes).tokens ↔ (k ∈ t.tokens ∧ ∀ c ∈ changes, ¬c.EndsToken k) ∨
      ∃ before later, changes = before ++ .addToken k :: later ∧ ∀ c ∈ later, ¬c.EndsToken k :=
  after_iff (fun t => k ∈ t.tokens) (fun _ _ => mem_tokens_apply) t changes

/-! ### Consistent rows -/

/-- Ids, usernames and secrets are unique, and every token has its owner among the users. -/
structure Consistent (t : Tables) : Prop where
  userIds : (t.users.map (·.id)).Nodup
  usernames : (t.users.map (·.username)).Nodup
  tokenIds : (t.tokens.map (·.id)).Nodup
  secrets : (t.tokens.map (·.secret)).Nodup
  owned : ∀ k ∈ t.tokens, ∃ u ∈ t.users, u.id = k.userId

lemma consistent_empty : ({} : Tables).Consistent := by
  constructor <;> simp

lemma nodup_map_snoc {ι κ : Type} {f : ι → κ} {list : List ι} {x : ι} (h : (list.map f).Nodup)
    (hx : ∀ y ∈ list, f y ≠ f x) : ((list ++ [x]).map f).Nodup := by
  rw [List.map_append, List.map_singleton, List.nodup_append]
  refine ⟨h, List.nodup_singleton _, ?_⟩
  rintro _ ha _ hb
  obtain ⟨y, hy, rfl⟩ := List.mem_map.mp ha
  rw [List.mem_singleton.mp hb]
  exact hx y hy

lemma nodup_map_filter {ι κ : Type} {f : ι → κ} {list : List ι} (p : ι → Bool)
    (h : (list.map f).Nodup) : ((list.filter p).map f).Nodup :=
  h.sublist (List.filter_sublist.map f)

lemma Consistent.apply {t : Tables} (h : t.Consistent) {c : Change} (hc : c.Fits t) :
    (c.apply t).Consistent := by
  cases c with
  | addUser row =>
    refine ⟨nodup_map_snoc h.userIds fun u hu => (hc u hu).2,
      nodup_map_snoc h.usernames fun u hu => (hc u hu).1, h.tokenIds, h.secrets, fun k hk => ?_⟩
    obtain ⟨u, hu, he⟩ := h.owned k hk
    exact ⟨u, List.mem_append_left _ hu, he⟩
  | addToken row =>
    refine ⟨h.userIds, h.usernames, nodup_map_snoc h.tokenIds fun k hk => (hc.1 k hk).2,
      nodup_map_snoc h.secrets fun k hk => (hc.1 k hk).1, fun k hk => ?_⟩
    obtain hk | hk := List.mem_append.mp hk
    · exact h.owned k hk
    · rw [List.mem_singleton.mp hk]
      exact hc.2
  | removeUser id =>
    refine ⟨nodup_map_filter _ h.userIds, nodup_map_filter _ h.usernames,
      nodup_map_filter _ h.tokenIds, nodup_map_filter _ h.secrets, fun k hk => ?_⟩
    obtain ⟨hk, hid⟩ := List.mem_filter.mp hk
    obtain ⟨u, hu, he⟩ := h.owned k hk
    exact ⟨u, List.mem_filter.mpr ⟨hu, by simpa [he] using hid⟩, he⟩
  | removeToken id =>
    exact ⟨h.userIds, h.usernames, nodup_map_filter _ h.tokenIds, nodup_map_filter _ h.secrets,
      fun k hk => h.owned k (List.mem_filter.mp hk).1⟩
  | clear => exact consistent_empty

lemma Consistent.after {t : Tables} (h : t.Consistent) {changes : List Change}
    (hc : t.Admits changes) : (t.after changes).Consistent := by
  induction changes generalizing t with
  | nil => exact h
  | cons c rest ih => exact ih (h.apply hc.1) hc.2

end Tables

end BearerAccess
