import BearerAccess.Authentication
import BearerAccess.Proofs.Operation

/-!
# Authentication

Nobody is authenticated but the owner of a secret that is among the rows, and no guard lets anybody
pass who is not. None of it touches the rows.
-/

namespace BearerAccess

variable {store : Store} {w w' : World}

/-- A row is stored as that of the owner of a secret, at a moment that is asked about. -/
def World.Finds (w : World) (secret : Option Text) (now : Option DateTime) (row : UserRow) : Prop :=
  ∃ stamp, w.askedAt? now = some stamp ∧ w.stored.ownerOfSecret? (stored? secret) stamp = some row

lemma World.Finds.of_commits {secret : Option Text} {now : Option DateTime} {row : UserRow}
    (hc : w.Commits [] w') (h : w'.Finds secret now row) : w.Finds secret now row := by
  have hasked : w'.askedAt? now = w.askedAt? now := by
    cases now with
    | none => exact hc.toSteady.stamp
    | some now => rfl
  have hstored : w'.stored = w.stored := hc.stored
  unfold World.Finds at h ⊢
  rwa [hasked, hstored] at h

lemma authenticate_quiet (store : Store) (secret : Option Text) (now : Option DateTime) :
    (authenticate store secret now).Quiet := by
  unfold authenticate
  refine .ite (fun _ => (Action.quiet_fail _).bind fun _ => ?_) fun _ => ?_
  all_goals
    refine (Store.userByToken_quiet store secret now).bind fun found => ?_
    cases found with
    | none => exact Action.quiet_fail _
    | some identity => exact Action.quiet_pure _

lemma authenticate_ok {secret : Option Text} {now : Option DateTime} {identity : Identity}
    (h : authenticate store secret now w = (.ok identity, w')) :
    ∃ row, w.Finds secret now row ∧ identity = row.toIdentity := by
  unfold authenticate at h
  by_cases hempty : secret.getD [] = []
  · rw [if_pos hempty, Action.bind_apply] at h
    cases h
  rw [if_neg hempty] at h
  obtain ⟨e, -, he⟩ | ⟨found, w₁, hfound, h⟩ := Action.bind_cases h
  · cases he
  obtain ⟨rows, stamp, hrows, hstamp, rfl⟩ := Store.userByToken_ok hfound
  cases howner : rows.ownerOfSecret? (stored? secret) stamp with
  | none =>
    rw [howner] at h
    cases h
  | some row =>
    rw [howner] at h
    cases h
    have hstored : w.stored = rows := by
      rw [World.stored, Database.tables_of_rows hrows, Option.getD_some]
    exact ⟨row, ⟨stamp, hstamp, hstored ▸ howner⟩, rfl⟩

namespace Guard

lemma check_quiet (guard : Guard) (caller : Caller) : (guard.check caller).Quiet := by
  unfold check
  obtain ⟨_ | identity, _ | refusal⟩ := caller
  · exact (Action.quiet_writeLog _ _ _).bind fun _ => Action.quiet_fail _
  · exact (Action.quiet_writeLog _ _ _).bind fun _ => Action.quiet_throw _
  · refine .ite (fun _ => ?_) fun _ => Action.quiet_pure _
    exact (Action.quiet_writeLog _ _ _).bind fun _ => (Action.quiet_fail _).bind fun _ =>
      Action.quiet_pure _
  · exact (Action.quiet_writeLog _ _ _).bind fun _ => Action.quiet_throw _

lemma check_ok {guard : Guard} {caller : Caller} {identity : Identity}
    (h : guard.check caller w = (.ok identity, w')) :
    caller.identity = some identity ∧ (guard = .staffOnly → identity.isStaff = true) := by
  unfold check at h
  obtain ⟨_ | known, _ | refusal⟩ := caller
  · cases h
  · cases h
  · by_cases hstaff : guard = .staffOnly ∧ !known.isStaff
    · simp only [if_pos hstaff] at h
      cases h
    · simp only [if_neg hstaff] at h
      cases h
      refine ⟨rfl, fun hguard => ?_⟩
      simpa [hguard] using hstaff
  · cases h

end Guard

end BearerAccess
