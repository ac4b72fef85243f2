import BearerAccess.Proofs.Representation
import BearerAccess.Proofs.Success
import Mathlib.Algebra.Order.BigOperators.Group.List

/-!
# Rows that are not read back

An insert puts its row into the transaction and then reads it back. If nothing but the reading
fails, the insert fails and its row is stored with the block all the same. Otherwise a block stores
the rows that its inserts have returned and no others.
-/

namespace BearerAccess

variable {α : Type} {store : Store} {s : Session} {w : World}

/-! ### Rows that are added -/

/-- The row that a change adds is there. -/
def Change.Shows (t : Tables) : Change → Prop
  | addUser row => row ∈ t.users
  | addToken row => row ∈ t.tokens
  | _ => False

namespace Tables

variable {t : Tables} {changes : List Change} {c : Change}

def size (t : Tables) : Nat := t.users.length + t.tokens.length

lemma size_after (h : ∀ c ∈ changes, c.Adds) : (t.after changes).size = t.size + changes.length := by
  induction changes generalizing t with
  | nil => rfl
  | cons c rest ih =>
    obtain ⟨hc, hrest⟩ := List.forall_mem_cons.mp h
    have happly : (c.apply t).size = t.size + 1 := by
      cases c with
      | addUser row => simp [Change.apply, size, Nat.add_right_comm]
      | addToken row => simp [Change.apply, size, Nat.add_assoc]
      | removeUser id => exact hc.elim
      | removeToken id => exact hc.elim
      | clear => exact hc.elim
    rw [after_cons, ih hrest, happly, List.length_cons]
    omega

/-- What is only added to stays. -/
lemma shows_after (h : ∀ c ∈ changes, c.Adds) (hc : c ∈ changes) : c.Shows (t.after changes) := by
  rw [after_of_adds h]
  have hadds := h c hc
  cases c with
  | addUser row => exact List.mem_append_right _ (List.mem_filterMap.mpr ⟨_, hc, rfl⟩)
  | addToken row => exact List.mem_append_right _ (List.mem_filterMap.mpr ⟨_, hc, rfl⟩)
  | _ => exact hadds

end Tables

/-! ### One step -/

/-- An insert depends on no failures but those of its own task. -/
lemma Store.insert_congr {other : Store} (h : other.faults w.tasks = store.faults w.tasks)
    (i : Option Stamp → Insertion α) (s : Session) : other.insert i s w = store.insert i s w := by
  unfold insert
  rw [h]

namespace BlockStep

/-- Where the row of an insert can be read back, it does not matter whether others can. -/
lemma perform_rereading {step : BlockStep} (hown : step.call? = none)
    (h : (store.faults w.tasks).refresh = none) (s : Session) :
    step.perform store.rereading s w = step.perform store s w := by
  have hfaults : store.rereading.faults w.tasks = store.faults w.tasks := by
    rw [Store.rereading, ← h]
  cases step with
  | insertUser id username isStaff =>
    rw [perform, perform, Block.map_apply, Block.map_apply, Store.insertUser, Store.insertUser,
      Block.bind_apply, Block.bind_apply, Store.insert_congr hfaults]
  | insertToken id userId secret name expiresAt =>
    rw [perform, perform, Block.map_apply, Block.map_apply, Store.insertToken, Store.insertToken,
      Block.bind_apply, Block.bind_apply]
    obtain ⟨f, hexpiry⟩ | hexpiry := Store.expiryStamp_cases expiresAt s w
    · rw [hexpiry]
    · rw [hexpiry]
      dsimp only
      rw [Block.bind_apply, Block.bind_apply, Store.insert_congr hfaults]
  | raise failure => rfl
  | outside call => cases hown
  | nested call => cases hown

/-- An insert that returns has added one row. -/
lemma rows_of_ok {step : BlockStep} {a : Answer} (hown : step.call? = none)
    (h : (step.perform store s w).1.1 = .ok a) : ∃ c, step.rows w.stamp? (.ok a) = [c] := by
  cases step with
  | insertUser id username isStaff =>
    rw [perform, Block.map_apply, Store.insertUser, Block.bind_apply] at h
    rcases hi : store.insert (Store.userInsertion id username isStaff) s w
      with ⟨⟨_ | (_ | row), s₁⟩, w₁⟩
    all_goals
      rw [hi] at h
      cases h
    obtain ⟨f, rows, rows', hf, hok, -⟩ := Store.insert_applies hi
    rw [(Store.userInsertion_puts hf hok).1]
    exact ⟨_, rfl⟩
  | insertToken id userId secret name expiresAt =>
    rw [perform, Block.map_apply, Store.insertToken, Block.bind_apply] at h
    obtain ⟨f, hexpiry⟩ | hexpiry := Store.expiryStamp_cases expiresAt s w
    · rw [hexpiry] at h
      cases h
    rw [hexpiry] at h
    dsimp only at h
    rw [Block.bind_apply] at h
    rcases hi : store.insert (Store.tokenInsertion id userId secret name (storedExpiry expiresAt))
      s w with ⟨⟨_ | (_ | row), s₁⟩, w₁⟩
    all_goals
      rw [hi] at h
      cases h
    obtain ⟨f, rows, rows', hf, hok, -⟩ := Store.insert_applies hi
    rw [(Store.tokenInsertion_puts hf hok).1]
    exact ⟨_, rfl⟩
  | raise failure => cases h
  | outside call => cases hown
  | nested call => cases hown

lemma rows_of_error (step : BlockStep) (now : Option Stamp) (f : Failure) :
    step.rows now (.error f) = [] := by
  cases step <;> rfl

lemma rows_of_call {step : BlockStep} {call : Call} (h : step.call? = some call)
    (now : Option Stamp) (r : Except Failure Answer) : step.rows now r = [] := by
  cases step <;> cases h <;> rfl

end BlockStep

namespace Taken

/-- The rows that an insert of a block has returned. -/
def returned (t : Taken) : List Change := t.step.rows t.world.stamp? t.result

/-- The step is an insert that has failed, and would have returned if its row could have been read
back. -/
def Unread (store : Store) (t : Taken) : Prop :=
  t.step.call? = none ∧ (∃ f, t.result = .error f) ∧ ∃ a, t.settled store = .ok a

/-- The outcome of a step is what the step comes to where it starts. -/
def Faithful (store : Store) (t : Taken) : Prop :=
  t.result = (t.step.perform store t.session t.world).1.1

/-- A row is unread only where the session fails to read it back. -/
lemma Unread.refresh {t : Taken} (h : t.Unread store) (ht : t.Faithful store) :
    (store.faults t.world.tasks).refresh.isSome = true := by
  obtain ⟨hown, ⟨f, hf⟩, a, ha⟩ := h
  by_contra hread
  rw [Bool.not_eq_true, Option.isSome_eq_false_iff, Option.isNone_iff_eq_none] at hread
  rw [settled, BlockStep.perform_rereading hown hread, ← ht, hf] at ha
  cases ha

/-- A step puts the rows that it returns, or one that is unread. -/
lemma own_cases (store : Store) (t : Taken) :
    (¬t.Unread store ∧ t.own store = t.returned) ∨
      t.Unread store ∧ t.returned = [] ∧ ∃ c, t.own store = [c] := by
  cases hr : t.result with
  | ok a =>
    refine .inl ⟨fun h => ?_, by rw [own, returned, hr]⟩
    obtain ⟨-, ⟨f, hf⟩, -⟩ := h
    rw [hr] at hf
    cases hf
  | error f =>
    have hreturned : t.returned = [] := by rw [returned, hr, BlockStep.rows_of_error]
    have hsettled : t.own store = t.step.rows t.world.stamp? (t.settled store) := by rw [own, hr]
    cases hcall : t.step.call? with
    | some call =>
      refine .inl ⟨fun h => ?_, by rw [hsettled, hreturned, BlockStep.rows_of_call hcall]⟩
      rw [Unread, hcall] at h
      cases h.1
    | none =>
      cases hs : t.settled store with
      | ok a =>
        refine .inr ⟨⟨hcall, ⟨f, hr⟩, a, hs⟩, hreturned, ?_⟩
        rw [hsettled, hs]
        exact BlockStep.rows_of_ok hcall hs
      | error e =>
        refine .inl ⟨fun h => ?_, by rw [hsettled, hreturned, hs, BlockStep.rows_of_error]⟩
        obtain ⟨-, -, a, ha⟩ := h
        rw [hs] at ha
        cases ha

/-- Steps have put as many rows as they have returned only if none is unread. -/
lemma flatMap_own_eq {taken : List Taken}
    (h : (taken.flatMap (own store)).length = (taken.flatMap returned).length) :
    ∀ t ∈ taken, ¬t.Unread store := by
  intro t ht hunread
  rw [List.length_flatMap, List.length_flatMap] at h
  have hle : ∀ u ∈ taken, u.returned.length ≤ (u.own store).length := by
    intro u _
    obtain ⟨-, hown⟩ | ⟨-, hreturned, -⟩ := u.own_cases store
    · rw [hown]
    · rw [hreturned]
      exact Nat.zero_le _
  have hlt : t.returned.length < (t.own store).length := by
    obtain ⟨hread, -⟩ | ⟨-, hreturned, c, hown⟩ := t.own_cases store
    · exact absurd hunread hread
    · rw [hreturned, hown]
      exact Nat.zero_lt_one
  exact (List.sum_lt_sum _ _ hle ⟨t, ht, hlt⟩).ne' h

end Taken

/-! ### The whole block -/

namespace BlockScript

lemma trace_faithful {script : BlockScript} {t : Taken} (h : t ∈ script.trace store s w) :
    t.Faithful store := by
  obtain ⟨before, after, htrace⟩ := List.append_of_mem h
  obtain ⟨rest, s₁, w₁, hstep, -⟩ := trace_split htrace
  rw [Taken.Faithful, hstep]

/-- A block that is committed stores exactly the rows that its inserts returned, unless one of them
is unread; a row whose insert failed is stored if it is unread, and not otherwise. A block that fails
stores no row. -/
theorem run_returned_iff (store : Store) (script : BlockScript) (w : World) :
    let ((results, outcome), w') := script.run store w
    let taken := script.trace store {} w
    let others := w.stored.after (taken.flatMap Taken.beside)
    results = taken.map (·.result) ∧
      (∀ f, outcome = .error f → w'.stored = others) ∧
      (outcome = .ok () →
        (w'.stored = others.after (taken.flatMap Taken.returned) ↔ ∀ t ∈ taken, ¬t.Unread store) ∧
        ∀ t ∈ taken, (∃ f, t.result = .error f) →
          ((∃ c ∈ t.own store, c.Shows w'.stored) ↔ t.Unread store)) ∧
      ∀ t ∈ taken, t.Unread store → (store.faults t.world.tasks).refresh.isSome := by
  rcases hrun : script.run store w with ⟨⟨results, outcome⟩, w'⟩
  obtain ⟨hresults, hcommits⟩ := run_commits hrun
  have hstored := hcommits.stored
  have hadds : ∀ f : Taken → List Change, (∀ t, ∀ c ∈ f t, c.Adds) →
      ∀ c ∈ (script.trace store {} w).flatMap f, c.Adds := by
    intro f hf c hc
    obtain ⟨t, -, hc⟩ := List.mem_flatMap.mp hc
    exact hf t c hc
  have hown := hadds (Taken.own store) (Taken.own_adds store)
  have hreturned := hadds Taken.returned fun t => BlockStep.rows_adds _ _ _
  refine ⟨hresults, ?_, ?_, fun t ht h => h.refresh (trace_faithful ht)⟩
  · rintro f rfl
    simpa [changes, changesOf] using hstored
  · rintro rfl
    rw [changes, changesOf, Tables.after_append] at hstored
    refine ⟨⟨fun h => ?_, fun h => ?_⟩, ?_⟩
    · -- The rows are as many as have been put, so that none has been put that was not returned.
      have hsize := congrArg Tables.size (hstored.symm.trans h)
      rw [Tables.size_after hown, Tables.size_after hreturned] at hsize
      exact Taken.flatMap_own_eq (Nat.add_left_cancel hsize)
    · rw [hstored]
      congr 1
      refine List.flatMap_congr fun t ht => ?_
      obtain ⟨-, hsame⟩ | ⟨hunread, -⟩ := t.own_cases store
      · exact hsame
      · exact absurd hunread (h t ht)
    · rintro t ht ⟨f, hf⟩
      obtain ⟨hread, hsame⟩ | ⟨hunread, -, c, hc⟩ := t.own_cases store
      · refine iff_of_false ?_ hread
        rw [hsame, Taken.returned, hf, BlockStep.rows_of_error]
        simp
      · refine iff_of_true ⟨c, by rw [hc]; exact List.mem_singleton_self c, ?_⟩ hunread
        rw [hstored]
        refine Tables.shows_after hown (List.mem_flatMap.mpr ⟨t, ht, ?_⟩)
        rw [hc]
        exact List.mem_singleton_self c

/-- A store whose sessions read no row back. -/
def forgetful : Store := ⟨fun _ => { refresh := some "boom" }⟩

/-- Ann is stored though her insert has failed, with a block that has caught the failure. -/
theorem run_returned_iff_forgetful :
    (run forgetful [(addAnn, true)] {}).1.2 = .ok () ∧
      ∃ t ∈ trace forgetful [(addAnn, true)] {} {}, t.Unread forgetful ∧
        ∃ c ∈ t.own forgetful, c.Shows (run forgetful [(addAnn, true)] {}).2.stored := by
  obtain ⟨-, -, hcommitted, -⟩ := run_returned_iff forgetful [(addAnn, true)] {}
  have hok : (run forgetful [(addAnn, true)] {}).1.2 = .ok () := by decide +kernel
  obtain ⟨-, hfailed⟩ := hcommitted hok
  have hunread : (Taken.mk addAnn {} {} (.error (Cause.store .userNotInserted))).Unread forgetful :=
    ⟨rfl, ⟨_, rfl⟩, _, rfl⟩
  exact ⟨hok, _, List.mem_singleton_self _, hunread,
    (hfailed _ (List.mem_singleton_self _) ⟨_, rfl⟩).mpr hunread⟩

/-- What a block stores is not always what its inserts have returned. -/
theorem run_unread :
    (run forgetful [(addAnn, true)] {}).1 = ([.error (Cause.store .userNotInserted)], .ok ()) ∧
      (run forgetful [(addAnn, true)] {}).2.stored ≠
        (World.stored {}).after ((trace forgetful [(addAnn, true)] {} {}).flatMap Taken.beside ++
          (trace forgetful [(addAnn, true)] {} {}).flatMap Taken.returned) := by
  decide +kernel

end BlockScript

end BearerAccess
