import BearerAccess.Proofs.Lock

/-!
# Blocks that go well

A block that is committed has made calls beside it, has passed over steps that did nothing but fail,
and has put rows. What an insert that puts a row comes to is up to the rows that its session sees
and to the moment of creation, and to nothing else in the world.
-/

namespace BearerAccess

variable {α β : Type} {s s' : Session} {w w' : World} {rows rows' : Tables}
  {now : Option Stamp} {r : Except Failure α}

/-! ### Inserts that come through -/

namespace Session

lemma attempt_presentable {rows? : Option Tables} {shut known : Bool} {i : Insertion α} {a : α}
    (h : attempt rows? shut known i = .ok (a, rows')) :
    ∃ f rows, rows? = some rows ∧ shut = false ∧ Store.Presentable i f ∧
      f rows = .ok (a, rows') := by
  obtain ⟨f, rows, hrows, hshut, hf, hok⟩ := attempt_ok h
  refine ⟨f, rows, hrows, hshut, ⟨?_, ?_, hf⟩, hok⟩
  all_goals
    unfold attempt at h
    split at h
    · cases h
  · rename_i hstorable
    rw [Bool.or_eq_true, not_or, Bool.not_eq_true, Bool.not_eq_false'] at hstorable
    exact hstorable.1
  · cases hobstacle : i.obstacle with
    | none => rfl
    | some e =>
      rw [hobstacle] at h
      cases h

/-- What comes through in a session are values that the database takes, put among rows that the
session sees. -/
lemma verdict_ok {db : Database} {i : Insertion α} {a : α}
    (h : s.verdict db i = .ok (a, rows')) :
    ∃ f rows, s.Sees db rows ∧ Store.Presentable i f ∧ f rows = .ok (a, rows') := by
  unfold verdict at h
  unfold Sees
  cases hstage : s.stage with
  | dead =>
    rw [hstage] at h
    cases h
  | fresh =>
    rw [hstage] at h
    obtain ⟨f, rows, hrows, hshut, hput⟩ := attempt_presentable h
    exact ⟨f, rows, ⟨hrows, hshut⟩, hput⟩
  | writing own =>
    rw [hstage] at h
    obtain ⟨f, rows, hrows, -, hput⟩ := attempt_presentable h
    exact ⟨f, rows, Option.some.inj hrows, hput⟩

end Session

/-- A part of a block that puts a row among some rows: in every session that sees these, under the
same stamp, it comes to the same, and the session then writes the same rows under the lock. -/
def Block.Puts (b : Block α) (now : Option Stamp) (rows rows' : Tables) (r : Except Failure α) :
    Prop :=
  ∀ s w, s.Sees w.database rows → w.stamp? = now → ∃ s' w', b s w = ((r, s'), w') ∧
    s'.stage = .writing rows' ∧
    w'.ground = { w.ground with database := { w.database with locked := true } } ∧
    w'.surroundings = w.surroundings

lemma Block.Puts.map {b : Block α} (h : b.Puts now rows rows' r) (f : α → β) :
    (f <$> b).Puts now rows rows' (r.map f) := by
  intro s w hsees hnow
  obtain ⟨s', w', hb, hrest⟩ := h s w hsees hnow
  exact ⟨s', w', by rw [map_apply, hb], hrest⟩

namespace Store

/-- An insert changes the connections at hand and the database, and if it fails what failures were
raised from, but nothing else. -/
lemma insert_world (store : Store) (i : Option Stamp → Insertion α) (s : Session) (w : World) :
    ∃ idle database origin, (store.insert i s w).2 = { w.assigned with idle, database, origin } := by
  have hhanded : ∃ idle database origin,
      (handOver i s w.assigned).2 = { w.assigned with idle, database, origin } := by
    obtain ⟨idle, hattached⟩ := w.assigned.attach_eq s
    unfold handOver
    dsimp only
    rw [hattached]
    exact ⟨idle, _, _, rfl⟩
  unfold insert
  dsimp only
  split
  · exact ⟨w.idle, w.database, _, rfl⟩
  split
  · exact ⟨w.idle, _, _, rfl⟩
  rcases hx : handOver i s w.assigned with ⟨⟨e | a, s₁⟩, w₁⟩
  all_goals rw [hx] at hhanded
  · exact hhanded
  · obtain ⟨idle, database, origin, rfl⟩ := hhanded
    dsimp only
    split
    · exact ⟨idle, database, _, rfl⟩
    · exact ⟨idle, database, origin, rfl⟩

lemma surroundings_insert (store : Store) (i : Option Stamp → Insertion α) (s : Session)
    (w : World) : (store.insert i s w).2.surroundings = w.surroundings := by
  obtain ⟨idle, database, origin, hworld⟩ := store.insert_world i s w
  rw [hworld]
  rfl

lemma insert_puts {i : Option Stamp → Insertion α} {f : Tables → Except Violation (α × Tables)}
    {a : α} (hi : Presentable (i w.stamp?) f) (hsees : s.Sees w.database rows)
    (hok : f rows = .ok (a, rows')) :
    ∃ s' w', ({} : Store).insert i s w = ((.ok (.ok a), s'), w') ∧ s'.stage = .writing rows' ∧
      w'.ground = { w.ground with database := { w.database with locked := true } } ∧
      w'.surroundings = w.surroundings := by
  obtain ⟨s', w', hinsert, -, -, -, hstage⟩ := insert_apply hi hsees
  have hanswer : ({} : Store).insert i s w = ((.ok (.ok a), s'), w') := by
    rw [hinsert, hok]
    rfl
  obtain ⟨-, -, -, -, -, -, hground⟩ := insert_applies hanswer
  have hsurroundings := surroundings_insert {} i s w
  rw [hanswer] at hsurroundings
  exact ⟨s', w', hanswer, hstage a rows' hok, hground, hsurroundings⟩

/-- What is inserted in a session that survives it is taken by the database. -/
lemma insert_alive {i : Option Stamp → Insertion α}
    (halive : (({} : Store).insert i s w).1.2.stage ≠ .dead) :
    ∃ a f rows rows', Presentable (i w.stamp?) f ∧ s.Sees w.database rows ∧
      f rows = .ok (a, rows') := by
  cases hhanded : (handOver i s w.assigned).1.1 with
  | error e =>
    have hadd : (({} : Store).faults w.tasks).add = none := rfl
    have hflush : (({} : Store).faults w.tasks).flush = none := rfl
    exact absurd (insert_of_error hadd hflush hhanded).2 halive
  | ok a =>
    rw [handOver_fst] at hhanded
    cases hverdict : (w.assigned.attach s).1.verdict (w.assigned.attach s).2.database
        (i w.assigned.stamp?) with
    | error e =>
      rw [hverdict] at hhanded
      cases hhanded
    | ok result =>
      obtain ⟨f, rows, hsees, hi, hput⟩ := Session.verdict_ok hverdict
      rw [World.database_of_ground (World.ground_attach s w.assigned)] at hsees
      exact ⟨result.1, f, rows, result.2, hi,
        (Session.sees_congr (World.stage_attach s w.assigned)).mp hsees, hput⟩

/-- An insert that its session survives puts a row, and so does what passes its answer on. -/
lemma insert_bind_puts {i : Option Stamp → Insertion α} {g : Except Refusal α → Block β}
    {f : α → β} {told : Refusal → Cause} {r : Except Failure β}
    (hx : (({} : Store).insert i >>= g) s w = ((r, s'), w')) (halive : s'.stage ≠ .dead)
    (hok : ∀ a, g (.ok a) = pure (f a)) (herror : ∀ e, g (.error e) = fail (told e)) :
    ∃ rows rows', s.Sees w.database rows ∧
      (({} : Store).insert i >>= g).Puts w.stamp? rows rows' r := by
  have hsession : (({} : Store).insert i s w).1.2 = s' := by
    obtain ⟨e, hi, -⟩ | ⟨x, s₁, w₁, hi, hrest⟩ := Block.bind_cases hx
    · rw [hi]
    · rw [hi]
      cases x with
      | ok a =>
        rw [hok] at hrest
        cases hrest
        rfl
      | error e =>
        rw [herror] at hrest
        cases hrest
        rfl
  obtain ⟨a, h, rows, rows', hi, hsees, hput⟩ := insert_alive (hsession ▸ halive)
  have hputs : (({} : Store).insert i >>= g).Puts w.stamp? rows rows' (.ok (f a)) := by
    intro t v hsees hnow
    obtain ⟨t', v', hinsert, hrest⟩ := insert_puts (hnow ▸ hi) hsees hput
    refine ⟨t', v', ?_, hrest⟩
    rw [Block.bind_apply, hinsert]
    dsimp only
    rw [hok]
    rfl
  obtain ⟨t', v', hagain, -⟩ := hputs s w hsees rfl
  rw [hx] at hagain
  cases hagain
  exact ⟨rows, rows', hsees, hputs⟩

lemma insertUser_puts {id username : Option Text} {isStaff : Flag} {r : Except Failure User}
    (hx : ({} : Store).insertUser id username isStaff s w = ((r, s'), w'))
    (halive : s'.stage ≠ .dead) : ∃ rows rows', s.Sees w.database rows ∧
      (({} : Store).insertUser id username isStaff).Puts w.stamp? rows rows' r := by
  unfold insertUser at hx ⊢
  exact insert_bind_puts hx halive (fun _ => rfl) fun _ => rfl

lemma insertToken_puts {id userId secret : Option Text} {name : Label}
    {expiresAt : Option DateTime} {r : Except Failure Token}
    (huniversal : expiresAt.all (·.toUniversal?.isSome))
    (hx : ({} : Store).insertToken id userId secret name expiresAt s w = ((r, s'), w'))
    (halive : s'.stage ≠ .dead) : ∃ rows rows', s.Sees w.database rows ∧
      (({} : Store).insertToken id userId secret name expiresAt).Puts w.stamp? rows rows' r := by
  unfold insertToken at hx
  rw [Block.bind_apply, expiryStamp_of_universal huniversal] at hx
  dsimp only at hx
  obtain ⟨rows, rows', hsees, hputs⟩ :=
    insert_bind_puts hx halive (fun _ => rfl) fun _ => rfl
  refine ⟨rows, rows', hsees, fun t v hsees hnow => ?_⟩
  unfold insertToken
  rw [Block.bind_apply, expiryStamp_of_universal huniversal]
  exact hputs t v hsees hnow

end Store

/-! ### Steps -/

namespace BlockStep

/-- The call that a step makes beside its block, if it makes one. -/
def call? : BlockStep → Option Call
  | outside call | nested call => some call
  | _ => none

lemma perform_call {step : BlockStep} {call : Call} (h : step.call? = some call) (store : Store)
    (s : Session) (w : World) :
    step.perform store s w = (((call.perform store w).1, s), (call.perform store w).2) := by
  cases step <;> cases h <;> rfl

/-- A step that does nothing but fail, wherever it stands. -/
def Idle (step : BlockStep) (r : Except Failure Answer) : Prop :=
  ∀ s w, step.perform {} s w = ((r, s), w)

/-- A step of the block itself that its session survives is idle or puts a row. -/
lemma perform_own {step : BlockStep} {r : Except Failure Answer} (hown : step.call? = none)
    (hx : step.perform {} s w = ((r, s'), w')) (halive : s'.stage ≠ .dead) :
    step.Idle r ∨ ∃ rows rows', s.Sees w.database rows ∧
      (step.perform {}).Puts w.stamp? rows rows' r := by
  cases step with
  | insertUser id username isStaff =>
    rcases hi : ({} : Store).insertUser id username isStaff s w with ⟨⟨x, s₁⟩, w₁⟩
    rw [perform, Block.map_apply, hi] at hx
    cases hx
    obtain ⟨rows, rows', hsees, hputs⟩ := Store.insertUser_puts hi halive
    exact .inr ⟨rows, rows', hsees, hputs.map _⟩
  | insertToken id userId secret name expiresAt =>
    cases huniversal : expiresAt.all (·.toUniversal?.isSome) with
    | true =>
      rcases hi : ({} : Store).insertToken id userId secret name expiresAt s w
        with ⟨⟨x, s₁⟩, w₁⟩
      rw [perform, Block.map_apply, hi] at hx
      cases hx
      obtain ⟨rows, rows', hsees, hputs⟩ := Store.insertToken_puts huniversal hi halive
      exact .inr ⟨rows, rows', hsees, hputs.map _⟩
    | false =>
      obtain ⟨e, rfl, hnone⟩ := overflows_of_not_all huniversal
      have hidle := insertToken_overflow {} id userId secret name hnone
      rw [hidle] at hx
      cases hx
      exact .inl hidle
  | raise failure =>
    cases hx
    exact .inl fun _ _ => rfl
  | outside call => cases hown
  | nested call => cases hown

end BlockStep

/-- Where a part of a block puts a row, the session writes and the lock is held. -/
lemma Block.Puts.at {b : Block α} (h : b.Puts w.stamp? rows rows' r)
    (hsees : s.Sees w.database rows) (hx : b s w = ((r, s'), w')) : s'.stage = .writing rows' ∧
      w'.ground = { w.ground with database := { w.database with locked := true } } ∧
      w'.surroundings = w.surroundings := by
  obtain ⟨t, v, hb, hrest⟩ := h s w hsees rfl
  rw [hx] at hb
  cases hb
  exact hrest

/-! ### Blocks that go well -/

namespace BlockScript

/-- A block that goes well, from a session and a world to those at its end, and the steps that are
taken: calls beside it, steps that do nothing but fail and are caught, and inserts that put a
row. -/
inductive GoesWell : BlockScript → Session → World → List Taken → Session → World → Prop where
  | done (s : Session) (w : World) : GoesWell [] s w [] s w
  | beside {step : BlockStep} {caught : Bool} {rest : BlockScript} {call : Call}
      {r : Except Failure Answer} {taken : List Taken} {s s' : Session} {w w₁ w' : World}
      (hcall : step.call? = some call) (hstep : call.perform {} w = (r, w₁))
      (hrest : GoesWell rest s w₁ taken s' w') :
    GoesWell ((step, caught) :: rest) s w (⟨step, s, w, r⟩ :: taken) s' w'
  | idle {step : BlockStep} {caught : Bool} {rest : BlockScript} {r : Except Failure Answer}
      {taken : List Taken} {s s' : Session} {w w' : World} (hown : step.call? = none)
      (hidle : step.Idle r) (hon : r.isOk ∨ caught || step.isOutside)
      (hrest : GoesWell rest s w taken s' w') :
    GoesWell ((step, caught) :: rest) s w (⟨step, s, w, r⟩ :: taken) s' w'
  | put {step : BlockStep} {caught : Bool} {rest : BlockScript} {r : Except Failure Answer}
      {taken : List Taken} {s s₁ s' : Session} {w w₁ w' : World} {rows rows' : Tables}
      (hown : step.call? = none) (hsees : s.Sees w.database rows)
      (hputs : (step.perform {}).Puts w.stamp? rows rows' r)
      (hstep : step.perform {} s w = ((r, s₁), w₁)) (hon : r.isOk ∨ caught || step.isOutside)
      (hrest : GoesWell rest s₁ w₁ taken s' w') :
    GoesWell ((step, caught) :: rest) s w (⟨step, s, w, r⟩ :: taken) s' w'

/-- A block that nothing has left, and whose session is alive at the end, has gone well. -/
lemma goesWell {script : BlockScript} {results : List (Except Failure Answer)}
    (h : script.perform {} s w = (((results, .ok ()), s'), w')) (halive : s'.stage ≠ .dead) :
    GoesWell script s w (script.trace {} s w) s' w' := by
  induction script generalizing s w results with
  | nil =>
    cases h
    exact .done _ _
  | cons head rest ih =>
    obtain ⟨step, caught⟩ := head
    rcases hstep : step.perform {} s w with ⟨⟨r, s₁⟩, w₁⟩
    by_cases hon : r.isOk ∨ caught || step.isOutside
    · obtain ⟨hperform, htrace⟩ := perform_on rest hstep hon
      rw [hperform] at h
      rcases hrest : perform {} rest s₁ w₁ with ⟨⟨⟨results', ending⟩, s₂⟩, w₂⟩
      rw [hrest] at h
      dsimp only at h
      cases h
      have hlater := ih hrest
      have hstage : s₁.stage ≠ .dead := by
        intro hdead
        have hlast := (trace_of_dead {} hdead rest w₁).1
        rw [hrest] at hlast
        exact halive hlast
      rw [htrace]
      cases hcall : step.call? with
      | some call =>
        rw [BlockStep.perform_call hcall] at hstep
        cases hstep
        exact .beside hcall rfl hlater
      | none =>
        obtain hidle | ⟨rows, rows', hsees, hputs⟩ := BlockStep.perform_own hcall hstep hstage
        · have hagain := hidle s w
          rw [hstep] at hagain
          cases hagain
          exact .idle hcall hidle hon hlater
        · exact .put hcall hsees hputs hstep hon hlater
    · obtain ⟨⟨f, -, hperform⟩, -⟩ := perform_off rest hstep hon
      rw [hperform] at h
      cases h

end BlockScript

end BearerAccess
