import BearerAccess.Proofs.Call

/-!
# Blocks

A block of inserts is stored as a whole or not at all, whatever its steps are, wherever they fail
and whatever is done beside it.
-/

namespace BearerAccess

/-- A step of a block that has been carried out: what it met, and what it came to. -/
structure Taken where
  step : BlockStep
  session : Session
  world : World
  result : Except Failure Answer

/-- The rows that an insert of a block has added, told from its answer. -/
def BlockStep.rows (now : Option Stamp) : BlockStep → Except Failure Answer → List Change
  | insertUser _ _ _, .ok (.user u) => u.added now
  | insertToken _ _ _ _ expiresAt, .ok (.token k) => k.added now expiresAt
  | _, _ => []

/-- The changes that an operation beside a block has committed, told from its answer. -/
def BlockStep.commits (now : Option Stamp) : BlockStep → Except Failure Answer → List Change
  | outside call, r | nested call, r => call.changes now r
  | _, _ => []

namespace Taken

/-- What the step would have come to if no row failed to be read back after its insert. -/
def settled (store : Store) (t : Taken) : Except Failure Answer :=
  (t.step.perform store.rereading t.session t.world).1.1

/-- The rows that the step has put into the transaction: those of an insert that returned, or of one
whose only failure was that its row could not be read back. -/
def own (store : Store) (t : Taken) : List Change :=
  match t.result with
  | .ok a => t.step.rows t.world.stamp? (.ok a)
  | .error _ => t.step.rows t.world.stamp? (t.settled store)

def beside (t : Taken) : List Change := t.step.commits t.world.stamp? t.result

end Taken

namespace BlockScript

/-- The steps of a block that are carried out, up to the first failure that leaves the block. -/
def trace (store : Store) : BlockScript → Session → World → List Taken
  | [], _, _ => []
  | (step, caught) :: rest, session, world =>
    let ((result, session'), world') := step.perform store session world
    let taken : Taken := ⟨step, session, world, result⟩
    match result with
    | .ok _ => taken :: trace store rest session' world'
    | .error _ =>
      if caught || step.isOutside then taken :: trace store rest session' world' else [taken]

end BlockScript

variable {store : Store} {w₀ w w' : World} {earlier own : List Change} {s s' : Session}

/-! ### One step -/

namespace BlockStep

lemma beside_progress {call : Call} {r : Except Failure Answer} (h : Progress w₀ earlier own s w)
    (hx : Block.outside (call.perform store) s w = ((r, s'), w')) :
    Progress w₀ (earlier ++ call.changes w.stamp? r) own s' w' := by
  obtain ⟨rfl, hcall⟩ := Block.outside_cases hx
  exact h.commit (Call.perform_commits hcall)

/-- The rows of an insert are those that it would have come to, had its row been read back. -/
lemma own_of_insert {α : Type} {step : BlockStep} {a : Store → Block α} {f : α → Answer}
    {added : α → List Change} {x settled : Except Failure α}
    (hperform : ∀ store, step.perform store = f <$> a store)
    (hok : ∀ y, step.rows w.stamp? (.ok (f y)) = added y)
    (herror : ∀ e, step.rows w.stamp? (.error e) = [])
    {w₁ : World} (hsettled : a store.rereading s w = ((settled, s'), w₁))
    (hsame : ∀ y, x = .ok y → settled = .ok y) :
    (Taken.mk step s w (x.map f)).own store = changesOf added settled := by
  cases x with
  | ok y =>
    rw [hsame y rfl]
    exact hok y
  | error e =>
    simp only [Taken.own, Taken.settled, Except.map, hperform, Block.map_apply, hsettled]
    cases settled with
    | ok y => exact hok y
    | error e => exact herror e

/-- A step of a block commits what it does beside the transaction, and the transaction carries the
rest. -/
lemma perform_progress {step : BlockStep} {r : Except Failure Answer}
    (h : Progress w₀ earlier own s w) (hx : step.perform store s w = ((r, s'), w')) :
    Progress w₀ (earlier ++ (Taken.mk step s w r).beside)
      (own ++ (Taken.mk step s w r).own store) s' w' := by
  cases step with
  | insertUser id username isStaff =>
    rcases hins : store.insertUser id username isStaff s w with ⟨⟨x, s₁⟩, w₁⟩
    rw [perform, Block.map_apply, hins] at hx
    cases hx
    obtain ⟨settled, w₂, hsettled, hrow, hp⟩ := h.insertUser hins
    have hown : (Taken.mk (insertUser id username isStaff) s w (x.map .user)).own store =
        changesOf (·.added w.stamp?) settled :=
      own_of_insert (fun _ => rfl) (fun _ => rfl) (fun _ => rfl) hsettled fun u hu => (hrow u hu).1
    rw [hown]
    simpa [Taken.beside, commits] using hp
  | insertToken id userId secret name expiresAt =>
    rcases hins : store.insertToken id userId secret name expiresAt s w with ⟨⟨x, s₁⟩, w₁⟩
    rw [perform, Block.map_apply, hins] at hx
    cases hx
    obtain ⟨settled, w₂, hsettled, hrow, hp⟩ := h.insertToken hins
    have hown : (Taken.mk (insertToken id userId secret name expiresAt) s w
        (x.map .token)).own store = changesOf (·.added w.stamp? expiresAt) settled :=
      own_of_insert (fun _ => rfl) (fun _ => rfl) (fun _ => rfl) hsettled fun k hk => (hrow k hk).1
    rw [hown]
    simpa [Taken.beside, commits] using hp
  | raise failure =>
    cases hx
    simpa [Taken.beside, Taken.own, rows, commits] using h
  | outside call =>
    have hown : (Taken.mk (outside call) s w r).own store = [] := by cases r <;> rfl
    rw [hown, List.append_nil]
    exact beside_progress h hx
  | nested call =>
    have hown : (Taken.mk (nested call) s w r).own store = [] := by cases r <;> rfl
    rw [hown, List.append_nil]
    exact beside_progress h hx

end BlockStep

/-! ### The whole block -/

lemma Stateful.bind_apply {α β : Type} (a : StateT Session (StateM World) α)
    (f : α → StateT Session (StateM World) β) (s : Session) (w : World) :
    (a >>= f) s w = f (a s w).1.1 (a s w).1.2 (a s w).2 := rfl

namespace BlockScript

lemma perform_on {step : BlockStep} {caught : Bool} {s₁ : Session} {w₁ : World}
    {r : Except Failure Answer} (rest : BlockScript) (hstep : step.perform store s w = ((r, s₁), w₁))
    (hon : r.isOk ∨ caught || step.isOutside) :
    perform store ((step, caught) :: rest) s w =
        ((((r :: (perform store rest s₁ w₁).1.1.1), (perform store rest s₁ w₁).1.1.2),
          (perform store rest s₁ w₁).1.2), (perform store rest s₁ w₁).2) ∧
      trace store ((step, caught) :: rest) s w = ⟨step, s, w, r⟩ :: trace store rest s₁ w₁ := by
  have hrun : (step.perform store).run s w = ((r, s₁), w₁) := hstep
  rw [perform, Stateful.bind_apply, hrun, trace, hstep]
  cases r with
  | ok a => exact ⟨rfl, rfl⟩
  | error e =>
    have hgo : (caught || step.isOutside) = true := by simpa [Except.isOk, Except.toBool] using hon
    simp only [hgo, if_true, and_true]
    rfl

lemma perform_off {step : BlockStep} {caught : Bool} {s₁ : Session} {w₁ : World}
    {r : Except Failure Answer} (rest : BlockScript) (hstep : step.perform store s w = ((r, s₁), w₁))
    (hoff : ¬(r.isOk ∨ caught || step.isOutside)) :
    (∃ f, r = .error f ∧
        perform store ((step, caught) :: rest) s w = ((([r], .error f), s₁), w₁)) ∧
      trace store ((step, caught) :: rest) s w = [⟨step, s, w, r⟩] := by
  have hrun : (step.perform store).run s w = ((r, s₁), w₁) := hstep
  rw [not_or, Bool.not_eq_true, Bool.not_eq_true] at hoff
  rw [perform, Stateful.bind_apply, hrun, trace, hstep]
  cases r with
  | ok a => cases hoff.1
  | error e =>
    simp only [hoff.2]
    exact ⟨⟨e, rfl, rfl⟩, rfl⟩

/-- The steps of a block answer as the trace says, and the transaction carries their rows. -/
lemma perform_progress {script : BlockScript} {results : List (Except Failure Answer)}
    {ending : Except Failure Unit} (h : Progress w₀ earlier own s w)
    (hx : script.perform store s w = (((results, ending), s'), w')) :
    results = (script.trace store s w).map (·.result) ∧
      Progress w₀ (earlier ++ (script.trace store s w).flatMap Taken.beside)
        (own ++ (script.trace store s w).flatMap (Taken.own store)) s' w' := by
  induction script generalizing earlier own s w results with
  | nil =>
    cases hx
    exact ⟨rfl, by simpa [trace] using h⟩
  | cons head rest ih =>
    obtain ⟨step, caught⟩ := head
    rcases hstep : step.perform store s w with ⟨⟨r, s₁⟩, w₁⟩
    have hp := BlockStep.perform_progress h hstep
    by_cases hon : r.isOk ∨ caught || step.isOutside
    · obtain ⟨hperform, htrace⟩ := perform_on rest hstep hon
      rw [hperform] at hx
      cases hx
      obtain ⟨hresults, hrest⟩ := ih hp (rfl : perform store rest s₁ w₁ = (((_, _), _), _))
      rw [htrace, List.map_cons, ← hresults, List.flatMap_cons, List.flatMap_cons]
      exact ⟨rfl, by simpa using hrest⟩
    · obtain ⟨⟨f, -, hperform⟩, htrace⟩ := perform_off rest hstep hon
      rw [hperform] at hx
      cases hx
      rw [htrace]
      exact ⟨rfl, by simpa using hp⟩

/-- The changes that a block makes: what is committed beside it, and after that all that its inserts
have put into the transaction, if it ends well. -/
def changes (store : Store) (script : BlockScript) (w : World) (outcome : Except Failure Unit) :
    List Change :=
  (script.trace store {} w).flatMap Taken.beside ++
    changesOf (fun _ => (script.trace store {} w).flatMap (Taken.own store)) outcome

lemma run_commits {script : BlockScript} {results : List (Except Failure Answer)}
    {outcome : Except Failure Unit} (h : script.run store w = ((results, outcome), w')) :
    results = (script.trace store {} w).map (·.result) ∧
      w.Commits (script.changes store w outcome) w' := by
  rcases hblock : script.perform store {} w with ⟨⟨⟨answers, ending⟩, s⟩, w₁⟩
  rcases hend : store.finish ending s w₁ with ⟨finished, w₂⟩
  have hrun : script.run store w = ((answers, finished), w₂) := by
    rw [run, hblock]
    dsimp only
    rw [hend]
  rw [hrun] at h
  cases h
  obtain ⟨hresults, hp⟩ := perform_progress (Progress.start w) hblock
  refine ⟨hresults, ?_⟩
  obtain ⟨a, -, rfl, hc⟩ | ⟨f, rfl, hc⟩ := hp.finish hend
  · exact hc
  · simpa [changes, changesOf] using hc

/-- A block is stored as a whole or not at all. If it ends well, the rows of all its inserts are there
afterwards besides what was committed beside it; if it fails, none of them is. -/
theorem run_all_or_nothing (store : Store) (script : BlockScript) (w : World) :
    let ((results, outcome), w') := script.run store w
    let taken := script.trace store {} w
    results = taken.map (·.result) ∧
      w'.stored = w.stored.after (taken.flatMap Taken.beside ++
        match outcome with
        | .ok _ => taken.flatMap (Taken.own store)
        | .error _ => []) := by
  rcases hrun : script.run store w with ⟨⟨results, outcome⟩, w'⟩
  obtain ⟨hresults, hc⟩ := run_commits hrun
  refine ⟨hresults, ?_⟩
  cases outcome with
  | ok _ => exact hc.stored
  | error _ => exact hc.stored

end BlockScript

end BearerAccess
