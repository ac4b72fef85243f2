import BearerAccess.Proofs.Parts
import BearerAccess.Proofs.Success

/-!
# Failures that are not masked

A transaction that fails does so with what was raised in its block or, if the block went well, with
the failure of the commit. A rollback that fails as well is noted on that failure and told in the log
once, and in any case the lock is given back.
-/

namespace BearerAccess

variable {α : Type} {store : Store} {s : Session} {w w' : World}

/-! ### The end of a transaction -/

/-- What a transaction comes to whose block has ended in some session and world. -/
structure Faults.Unmasked (faults : Faults) (s : Session) (w : World)
    (ending outcome : Except Failure α) (w' : World) : Prop where
  /-- What was raised keeps its cause. A rollback that fails is noted on it; one that does not leaves
  it as it is, with the note that a transaction inside the block may have put there. -/
  raised : ∀ f, ending = .error f → outcome = .error ⟨f.cause, faults.rollback.or f.rollbackError⟩
  uncommitted : ∀ a, ending = .ok a → faults.commit.isSome ∨ s.stage = .dead →
    outcome = .error ⟨.store .notCommitted, faults.rollback⟩
  committed : ∀ a, ending = .ok a → faults.commit = none → s.stage ≠ .dead → outcome = .ok a
  silent : outcome.isOk ∨ faults.rollback = none → w'.log = w.log
  told : ∀ f message, outcome = .error f → faults.rollback = some message →
    w'.log = w.log ++ if w.threshold ≤ Severity.error.rank then
      [⟨.error, .store, "Rollback failed: " ++ message, none⟩] else []
  locked : w'.database.locked = (w.database.locked && !s.holdsLock)

lemma World.write_eq (w : World) (severity : Severity) (source : Source) (message : Text) :
    w.write severity source message = { w with log := w.log ++
      if w.threshold ≤ severity.rank then [⟨severity, source, message, none⟩] else [] } := by
  unfold write keep
  split
  · rfl
  · rw [List.append_nil]

namespace Session

lemma locked_release (s : Session) (db : Database) :
    (s.release db).locked = (db.locked && !s.holdsLock) := by
  unfold release
  cases s.holdsLock with
  | true => exact (Bool.and_false _).symm
  | false => exact (Bool.and_true _).symm

/-- A commit fails if a failure is injected into it or the session is dead, and only then. -/
lemma commit?_eq_none_iff {faults : Faults} {db : Database} :
    s.commit? faults db = none ↔ faults.commit.isSome ∨ s.stage = .dead := by
  unfold commit?
  cases faults.commit with
  | some message => simp
  | none => cases s.stage <;> simp

lemma locked_of_commit? {faults : Faults} {db db' : Database}
    (h : s.commit? faults db = some db') : db'.locked = (db.locked && !s.holdsLock) := by
  unfold commit? at h
  unfold holdsLock
  split at h
  · cases h
  cases hstage : s.stage with
  | dead =>
    rw [hstage] at h
    cases h
  | fresh =>
    rw [hstage] at h
    cases h
    exact (Bool.and_true _).symm
  | writing rows =>
    rw [hstage] at h
    cases h
    exact (Bool.and_false _).symm

end Session

namespace Store

/-- A rollback passes a failure on, with a note and a line in the log if it fails itself, and gives
the lock back whether it fails or not. -/
lemma rollBack_passes {faults : Faults} {f : Failure} {outcome : Except Failure α}
    (h : rollBack faults f s w = (outcome, w')) :
    outcome = .error ⟨f.cause, faults.rollback.or f.rollbackError⟩ ∧
      (faults.rollback = none → w'.log = w.log) ∧
      (∀ message, faults.rollback = some message →
        w'.log = w.log ++ if w.threshold ≤ Severity.error.rank then
          [⟨.error, .store, "Rollback failed: " ++ message, none⟩] else []) ∧
      w'.database.locked = (w.database.locked && !s.holdsLock) := by
  obtain ⟨idle, hdetached⟩ := ({ w with database := s.release w.database } : World).detach_eq s
  have hlocked := s.locked_release w.database
  unfold rollBack at h
  rw [hdetached] at h
  cases hrollback : faults.rollback with
  | none =>
    rw [hrollback] at h
    obtain ⟨rfl, rfl⟩ := Prod.mk.inj h
    exact ⟨rfl, fun _ => rfl, nofun, hlocked⟩
  | some message =>
    rw [hrollback] at h
    obtain ⟨rfl, rfl⟩ := Prod.mk.inj h
    refine ⟨rfl, nofun, ?_, ?_⟩
    · rintro _ ⟨⟩
      rw [World.write_eq]
    · rw [World.write_eq]
      exact hlocked

lemma finish_unmasked {ending outcome : Except Failure α}
    (h : store.finish ending s w = (outcome, w')) :
    (store.faults w.tasks).Unmasked s w ending outcome w' := by
  unfold finish at h
  cases ending with
  | error f =>
    obtain ⟨rfl, hsilent, htold, hlocked⟩ := rollBack_passes h
    refine ⟨?_, nofun, nofun, ?_, fun _ message _ => htold message, hlocked⟩
    · rintro _ ⟨⟩
      rfl
    · rintro (hok | hnone)
      · cases hok
      · exact hsilent hnone
  | ok a =>
    dsimp only at h
    cases hcommit : s.commit? (store.faults w.tasks) w.assigned.database with
    | none =>
      rw [hcommit] at h
      obtain ⟨rfl, hsilent, htold, hlocked⟩ := rollBack_passes h
      refine ⟨nofun, fun _ _ _ => by rw [Option.or_none], fun b _ hnone halive => ?_, ?_,
        fun _ message _ => htold message, hlocked⟩
      · obtain hsome | hdead := Session.commit?_eq_none_iff.mp hcommit
        · rw [hnone] at hsome
          cases hsome
        · exact absurd hdead halive
      · rintro (hok | hnone)
        · cases hok
        · exact hsilent hnone
    | some db =>
      rw [hcommit] at h
      obtain ⟨rfl, rfl⟩ := Prod.mk.inj h
      have hlocked := Session.locked_of_commit? hcommit
      obtain ⟨idle, hdetached⟩ := ({ w.assigned with database := db } : World).detach_eq s
      rw [hdetached]
      refine ⟨nofun, fun _ _ hfails => ?_, fun b hb _ _ => hb, fun _ => rfl, nofun, hlocked⟩
      rw [Session.commit?_eq_none_iff.mpr hfails] at hcommit
      cases hcommit

end Store

/-! ### The steps of a block -/

namespace Block

/-- A part of a block that writes nothing to the log and fails without a note. -/
def Plain (b : Block α) : Prop :=
  ∀ s w, (b s w).2.log = w.log ∧ ∀ f, (b s w).1.1 = .error f → f.rollbackError = none

lemma composes_plain : Composes Plain where
  pure _ _ _ := ⟨rfl, nofun⟩
  fail _ _ _ _ := by
    refine ⟨rfl, ?_⟩
    rintro _ ⟨⟩
    rfl
  bind {α β b g} hb hg s w := by
    obtain ⟨hlog, hnote⟩ := hb s w
    rw [bind_apply]
    rcases h : b s w with ⟨⟨e | a, s₁⟩, w₁⟩
    · rw [h] at hlog hnote
      refine ⟨hlog, ?_⟩
      rintro _ ⟨⟩
      exact hnote e rfl
    · rw [h] at hlog
      obtain ⟨hlater, hnoted⟩ := hg a s₁ w₁
      exact ⟨hlater.trans hlog, hnoted⟩

end Block

lemma Store.insert_plain (store : Store) (i : Option Stamp → Insertion α) :
    (store.insert i).Plain := by
  intro s w
  rcases hx : store.insert i s w with ⟨⟨r, s'⟩, w'⟩
  obtain ⟨idle, database, origin, hworld⟩ := store.insert_world i s w
  obtain ⟨settled, -, -, hanswers, -⟩ := insert_cases hx
  rw [hx] at hworld
  refine ⟨by rw [hworld]; rfl, fun f hf => ?_⟩
  rw [show r = .error f from hf] at hanswers
  obtain hanswer | ⟨e, hanswer⟩ := hanswers
  · cases hanswer
  · cases hanswer

/-- A step that does not let others at their work in between writes nothing to the log, and the
failures that it raises have no note but the one that they are given. -/
structure Taken.Plain (store : Store) (t : Taken) : Prop where
  log : (t.step.perform store t.session t.world).2.log = t.world.log
  unnoted : ∀ f, t.result = .error f → f.rollbackError = none ∨ t.step = .raise f

namespace BlockScript

lemma trace_plain {script : BlockScript} {t : Taken} (h : t ∈ script.trace store s w)
    (hown : t.step.call? = none) : t.Plain store := by
  obtain ⟨before, after, htrace⟩ := List.append_of_mem h
  obtain ⟨rest, s₁, w₁, hstep, -⟩ := trace_split htrace
  obtain ⟨step, session, world, result⟩ := t
  have hplain (hb : (step.perform store).Plain) : (Taken.mk step session world result).Plain store := by
    obtain ⟨hlog, hnote⟩ := hb session world
    rw [hstep] at hnote
    exact ⟨hlog, fun f hf => .inl (hnote f hf)⟩
  have hparts := Block.composes_plain
  cases step with
  | insertUser id username isStaff =>
    exact hplain (hparts.map (hparts.insertUser store.insert_plain id username isStaff) _)
  | insertToken id userId secret name expiresAt =>
    exact hplain
      (hparts.map (hparts.insertToken store.insert_plain id userId secret name expiresAt) _)
  | raise failure =>
    cases hstep
    refine ⟨rfl, ?_⟩
    rintro _ ⟨⟩
    exact .inr rfl
  | outside call => cases hown
  | nested call => cases hown

/-- What leaves a block is the failure of its last step. -/
lemma perform_last {script : BlockScript} {results : List (Except Failure Answer)} {f : Failure}
    {s' : Session} (h : script.perform store s w = (((results, .error f), s'), w')) :
    results.getLast? = some (.error f) := by
  induction script generalizing s w results with
  | nil => cases h
  | cons head rest ih =>
    obtain ⟨step, caught⟩ := head
    rcases hstep : step.perform store s w with ⟨⟨r, s₁⟩, w₁⟩
    by_cases hon : r.isOk ∨ caught || step.isOutside
    · obtain ⟨hperform, -⟩ := perform_on rest hstep hon
      rcases hrest : perform store rest s₁ w₁ with ⟨⟨⟨later, ending⟩, s₂⟩, w₂⟩
      rw [hperform, hrest] at h
      dsimp only at h
      cases h
      rw [List.getLast?_cons, ih hrest]
      rfl
    · obtain ⟨⟨e, rfl, hperform⟩, -⟩ := perform_off rest hstep hon
      rw [hperform] at h
      cases h
      rfl

lemma run_eq (store : Store) (script : BlockScript) (w : World) {s' : Session}
    {results : List (Except Failure Answer)} {ending : Except Failure Unit}
    (h : script.perform store {} w = (((results, ending), s'), w')) :
    script.run store w =
      ((results, (store.finish ending s' w').1), (store.finish ending s' w').2) := by
  rw [run, h]

end BlockScript

/-- A transaction masks no failure. Whatever its block does, it comes to what was raised in the block,
to the failure of the commit, or to the answer of the block. If the block is made of inserts, of
failures and of calls beside it, then the failure raised in it is that of its last step, nothing else
that the block does itself is told in the log or noted on a failure, and the finished block keeps
nobody from writing. -/
theorem Store.transaction_unmasked (store : Store) (body : Block α) (script : BlockScript)
    (w : World) :
    (let ((ending, s), w₁) := body {} w
      let (outcome, w') := store.transaction body w
      (store.faults w₁.tasks).Unmasked s w₁ ending outcome w') ∧
      let (((results, ending), s), w₁) := script.perform store {} w
      let ((answers, outcome), w') := script.run store w
      (store.faults w₁.tasks).Unmasked s w₁ ending outcome w' ∧ answers = results ∧
        (∀ f, ending = .error f → results.getLast? = some (.error f)) ∧
        (∀ t ∈ script.trace store {} w, t.step.call? = none → t.Plain store) ∧
        w'.database.locked = w.database.locked ∧ w'.database.isShut = w.database.isShut := by
  refine ⟨?_, ?_⟩
  · rcases hbody : body {} w with ⟨⟨ending, s⟩, w₁⟩
    rcases hend : store.finish ending s w₁ with ⟨outcome, w'⟩
    have htransaction : store.transaction body w = (outcome, w') := by
      rw [transaction, hbody, ← hend]
    rw [htransaction]
    exact finish_unmasked hend
  · rcases hperform : script.perform store {} w with ⟨⟨⟨results, ending⟩, s⟩, w₁⟩
    rcases hend : store.finish ending s w₁ with ⟨outcome, w'⟩
    have hrun : script.run store w = ((results, outcome), w') := by
      rw [BlockScript.run_eq store script w hperform, hend]
    obtain ⟨-, hcommits⟩ := BlockScript.run_commits hrun
    rw [hrun]
    refine ⟨finish_unmasked hend, rfl, ?_, fun t => BlockScript.trace_plain, hcommits.locked,
      hcommits.isShut⟩
    rintro f rfl
    exact BlockScript.perform_last hperform

/-- A store whose sessions cannot be rolled back. -/
def Store.stubborn : Store := ⟨fun _ => { rollback := some (Text.ofString "boom") }⟩

/-- A block that is interrupted after it has inserted Ann. -/
def BlockScript.interrupted : BlockScript :=
  [(addAnn, false), (.raise (Cause.raised "KeyboardInterrupt" []), false)]

/-- The interruption comes out with the note, one line tells of it, and the lock is free again. -/
theorem Store.transaction_unmasked_interrupted :
    (BlockScript.interrupted.run stubborn {}).1.2 =
        .error ⟨.raised "KeyboardInterrupt" [], some (Text.ofString "boom")⟩ ∧
      (BlockScript.interrupted.run stubborn {}).2.log =
        [⟨.error, .store, Text.ofString "Rollback failed: boom", none⟩] ∧
      (BlockScript.interrupted.run stubborn {}).2.database.locked = false := by
  obtain ⟨-, hends, -, -, -, hlocked, -⟩ :=
    transaction_unmasked stubborn (pure ()) BlockScript.interrupted {}
  have houtcome := hends.raised _ rfl
  exact ⟨houtcome, hends.told _ _ houtcome rfl, hlocked⟩

end BearerAccess
