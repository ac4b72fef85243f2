import BearerAccess.Proofs.Authentication
import BearerAccess.Proofs.Issuance
import BearerAccess.Store.Call

/-!
# Calls

What each operation on a store commits can be told from what it is answered with. An operation that
fails commits nothing.
-/

namespace BearerAccess

/-- The changes that a call has made, told from its answer. -/
def Call.changes (now : Option Stamp) : Call → Except Failure Answer → List Change
  | insertUser _ _ _, .ok (.user u) => u.added now
  | insertToken _ _ _ _ expiresAt, .ok (.token k) => k.added now expiresAt
  | deleteUser id, .ok _ => (stored? id).toList.map .removeUser
  | deleteToken id, .ok _ => (stored? id).toList.map .removeToken
  | dropTables, .ok _ => [.clear]
  | issue _ _ _ _ expiresAt, .ok (.credentials c) => c.added now expiresAt
  | bootstrap _ _, .ok (.credentials c) => c.added now none
  | _, _ => []

lemma Store.transaction_insertUser {store : Store} {id username : Option Text} {isStaff : Flag}
    {w w' : World} {r : Except Failure User}
    (h : store.transaction (store.insertUser id username isStaff) w = (r, w')) :
    w.Commits (changesOf (·.added w.stamp?) r) w' := by
  obtain ⟨result, s, w₁, hbody, hend⟩ := Store.transaction_cases h
  obtain ⟨settled, -, -, hrow, hp⟩ := (Progress.start w).insertUser hbody
  obtain ⟨u, rfl, rfl, hc⟩ | ⟨f, rfl, hc⟩ := hend _ hp
  · rw [(hrow u rfl).1] at hc
    exact hc
  · exact hc

lemma Store.transaction_insertToken {store : Store} {id userId secret : Option Text} {name : Label}
    {expiresAt : Option DateTime} {w w' : World} {r : Except Failure Token}
    (h : store.transaction (store.insertToken id userId secret name expiresAt) w = (r, w')) :
    w.Commits (changesOf (·.added w.stamp? expiresAt) r) w' := by
  obtain ⟨result, s, w₁, hbody, hend⟩ := Store.transaction_cases h
  obtain ⟨settled, -, -, hrow, hp⟩ := (Progress.start w).insertToken hbody
  obtain ⟨k, rfl, rfl, hc⟩ | ⟨f, rfl, hc⟩ := hend _ hp
  · rw [(hrow k rfl).1] at hc
    exact hc
  · exact hc

lemma Action.map_commits {α : Type} {a : Action α} {f : α → Answer} {w w' : World}
    {r : Except Failure Answer} (h : (f <$> a) w = (r, w'))
    {changes : Except Failure Answer → List Change} {added : α → List Change}
    (hok : ∀ x, changes (.ok (f x)) = added x) (herror : ∀ e, changes (.error e) = [])
    (ha : ∀ x w₁, a w = (x, w₁) → w.Commits (changesOf added x) w₁) : w.Commits (changes r) w' := by
  rw [Action.map_apply] at h
  cases h
  have hc := ha _ _ (rfl : a w = ((a w).1, (a w).2))
  cases hx : (a w).1 with
  | error e =>
    rw [hx] at hc
    rw [Except.map, herror]
    exact hc
  | ok x =>
    rw [hx] at hc
    rw [Except.map, hok]
    exact hc

namespace Call

/-- A call commits what can be told from its answer. -/
theorem perform_commits {store : Store} {call : Call} {w w' : World} {r : Except Failure Answer}
    (h : call.perform store w = (r, w')) : w.Commits (call.changes w.stamp? r) w' := by
  cases call with
  | insertUser id username isStaff =>
    exact Action.map_commits h (fun _ => rfl) (fun _ => rfl) fun _ _ => Store.transaction_insertUser
  | insertToken id userId secret name expiresAt =>
    exact Action.map_commits h (fun _ => rfl) (fun _ => rfl) fun _ _ => Store.transaction_insertToken
  | userByToken secret now =>
    exact .of_ground (((store.userByToken_quiet secret now).map _).ground_eq h)
  | authenticate secret now =>
    exact .of_ground (((authenticate_quiet store secret now).map _).ground_eq h)
  | userById id => exact .of_ground (((store.userById_quiet id).map _).ground_eq h)
  | userByUsername username =>
    exact .of_ground (((store.userByUsername_quiet username).map _).ground_eq h)
  | users => exact .of_ground ((store.users_quiet.map _).ground_eq h)
  | tokensOf userId => exact .of_ground (((store.tokensOf_quiet userId).map _).ground_eq h)
  | deleteUser id =>
    exact Action.map_commits h (fun _ => rfl) (fun _ => rfl) fun _ _ => Store.deleteUser_commits
  | deleteToken id =>
    exact Action.map_commits h (fun _ => rfl) (fun _ => rfl) fun _ _ => Store.deleteToken_commits
  | isAvailable =>
    cases h
    exact .of_ground (Store.isAvailable_quiet w)
  | createTables =>
    refine Action.map_commits h (fun _ => rfl) (fun _ => rfl) fun x w₁ hx => ?_
    have hc := Store.createTables_still.commits hx
    cases x with
    | error e => exact hc
    | ok _ => exact hc
  | dropTables =>
    exact Action.map_commits h (fun _ => rfl) (fun _ => rfl) fun _ _ => Store.dropTables_commits
  | disconnect =>
    cases h
    exact .of_ground rfl
  | issue actor username isStaff tokenName expiresAt =>
    exact Action.map_commits h (fun _ => rfl) (fun _ => rfl) fun _ _ hx => (issueUser_commits hx).1
  | bootstrap username tokenName =>
    exact Action.map_commits h (fun _ => rfl) (fun _ => rfl) fun _ _ hx =>
      (bootstrapStaffUser_commits hx).1

end Call

end BearerAccess
