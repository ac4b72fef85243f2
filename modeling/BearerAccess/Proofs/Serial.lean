import BearerAccess.Proofs.Success

/-!
# Serial runs

A block that is committed might as well have run after all that was done beside it. Its first insert
takes the lock, which it keeps to the end: from then on a call beside it finds the rows as they were
and either changes nothing or is refused, and the rows that its own inserts meet are known to nobody
else.
-/

namespace BearerAccess

variable {α : Type} {s s' t : Session} {w w' v u : World} {rows rows' : Tables}

/-! ### Under the lock -/

/-- The lock of a block is kept to the end, and nobody changes the database meanwhile. -/
lemma BlockScript.GoesWell.database_eq {script : BlockScript} {taken : List Taken}
    (h : script.GoesWell s w taken s' w') (hwrites : s.holdsLock = true)
    (hl : w.database.locked = true) : w'.database = w.database ∧ s'.holdsLock = true := by
  induction h with
  | done s w => exact ⟨rfl, hwrites⟩
  | beside hcall hstep hrest ih =>
    -- Whoever is not the block finds it shut.
    have hdb := World.database_of_ground (Call.ground_locked hl hstep)
    obtain ⟨hlast, hlock⟩ := ih hwrites (hdb ▸ hl)
    exact ⟨hlast.trans hdb, hlock⟩
  | idle hown hidle hon hrest ih => exact ih hwrites hl
  | put hown hsees hputs hstep hon hrest ih =>
    obtain ⟨hstage, hground, -⟩ := hputs.at hsees hstep
    have hdb := congrArg Ground.database hground
    obtain ⟨hlast, hlock⟩ := ih (by rw [Session.holdsLock, hstage]) (congrArg Database.locked hdb)
    refine ⟨(hlast.trans hdb).trans ?_, hlock⟩
    change Database.mk _ _ _ _ = Database.mk _ _ _ _
    rw [hl]

/-! ### The calls first -/

/-- A world in which the draws to come, and the count of sessions, are those of another. -/
def World.redrawn (v w : World) : World :=
  { v with entropy := w.entropy, draws := w.draws, tasks := w.tasks }

namespace Taken

/-- The step is a call that the lock of the block has kept out: without the lock it would have been
answered otherwise. -/
def keptOut (t : Taken) : Bool :=
  t.session.holdsLock &&
    t.step.call?.any fun call => decide ((call.perform {} t.world.unlocked).1 ≠ t.result)

/-- The step is a call beside the block that the lock has not kept out. -/
def passes (t : Taken) : Bool := t.step.call?.isSome && !t.keptOut

end Taken

/-- The calls of some steps, one after the other and each with the draws that it met. -/
def serially : List Taken → World → List (Except Failure Answer) × World
  | [], v => ([], v)
  | t :: rest, v =>
    match t.step.call? with
    | none => serially rest v
    | some call =>
      let (r, v₁) := call.perform {} (v.redrawn t.world)
      let (answers, v₂) := serially rest v₁
      (r :: answers, v₂)

lemma serially_cons {t : Taken} {call : Call} (h : t.step.call? = some call) (rest : List Taken)
    (v : World) : serially (t :: rest) v =
      ((call.perform {} (v.redrawn t.world)).1 ::
          (serially rest (call.perform {} (v.redrawn t.world)).2).1,
        (serially rest (call.perform {} (v.redrawn t.world)).2).2) := by
  rw [serially, h]
  rfl

/-- The world of the calls alone beside that of a block that holds the lock: but for the lock, the
draws and the connections at hand, all that calls depend on is the same. -/
structure Abreast (w u : World) : Prop where
  locked : w.database.locked = true
  rows : w.database.rows?.isSome = true
  ground : u.ground = w.unlocked.ground
  renewals : u.renewals = w.renewals

/-- The two worlds are the same until the block puts a row; then its session is alive and writes. -/
inductive Session.Abreast (s : Session) (w u : World) : Prop where
  | fresh (hstage : s.stage = .fresh) (hsame : u = w)
  | writing {rows : Tables} (hstage : s.stage = .writing rows) (h : BearerAccess.Abreast w u)

lemma Call.renewals_perform (store : Store) (c : Call) (w : World) :
    (c.perform store w).2.renewals = w.renewals + if c = .disconnect then 1 else 0 := by
  by_cases hc : c = .disconnect
  · subst hc
    rfl
  · rw [if_neg hc]
    exact congrArg Surroundings.renewals (surroundings_perform hc w)

namespace Abreast

lemma alike (h : Abreast w u) : w.unlocked.Alike false (fun _ _ => True) (u.redrawn w) := by
  obtain ⟨hclock, hspelling, hurl, hdb⟩ := Ground.mk.inj h.ground
  refine ⟨?_, nofun, trivial⟩
  change
    Core.mk u.clock w.entropy w.draws w.tasks u.database u.databaseUrl u.renewals u.spelling = _
  rw [hclock, hspelling, hurl, hdb, h.renewals]
  rfl

/-- A call that the lock does not keep out comes to the same among the calls alone, and one that it
keeps out might as well not be made. -/
lemma perform (h : Abreast w u) {c : Call} {r : Except Failure Answer}
    (hstep : c.perform {} w = (r, v)) :
    ((c.perform {} w.unlocked).1 ≠ r → Abreast v u) ∧
      ((c.perform {} w.unlocked).1 = r → (c.perform {} (u.redrawn w)).1 = r ∧
        Abreast v (c.perform {} (u.redrawn w)).2) := by
  have hground := Call.ground_locked h.locked hstep
  have hdb := World.database_of_ground hground
  have hunlocked : v.unlocked.ground = w.unlocked.ground :=
    congrArg (fun g : Ground => { g with database := g.database.unlocked }) hground
  have hrenewals := Call.renewals_perform {} c w
  rw [hstep] at hrenewals
  refine ⟨fun hother => ⟨hdb ▸ h.locked, hdb ▸ h.rows, by rw [hunlocked, h.ground], ?_⟩,
    fun hsame => ?_⟩
  · have hc : c ≠ .disconnect := by
      rintro rfl
      cases hstep
      exact hother rfl
    rw [if_neg hc] at hrenewals
    exact h.renewals.trans hrenewals.symm
  · have hfurnished : w.unlocked.database.Furnished := fun _ => by
      obtain ⟨rows, hrows⟩ := Option.isSome_iff_exists.mp h.rows
      rw [show w.unlocked.database.tables = w.database.tables from rfl,
        Database.tables_of_rows hrows, Option.isSome_some]
    obtain ⟨hanswer, hafter⟩ : SameAnswer false (fun _ _ => True) (c.perform {} w.unlocked)
        (c.perform {} (u.redrawn w)) :=
      (Call.perform_alike h.alike (fun _ : True => .inr (.inr hfurnished))
        fun _ _ _ _ => trivial).answer trivial
    have hstill : (c.perform {} w.unlocked).2.ground = w.unlocked.ground :=
      Call.ground_unlocked h.locked (by rw [hstep, hsame])
    refine ⟨hanswer.trans hsame, hdb ▸ h.locked, hdb ▸ h.rows, ?_, ?_⟩
    · rw [hafter.ground, hstill, hunlocked]
    · rw [hafter.renewals, Call.renewals_perform]
      exact hrenewals.symm

end Abreast

namespace Session

/-- One call beside a block, and the same among the calls alone. -/
lemma Abreast.call (h : s.Abreast w u) {step : BlockStep} {call : Call} {r : Except Failure Answer}
    (hcall : step.call? = some call) (hstep : call.perform {} w = (r, v)) :
    ((Taken.mk step s w r).passes = false → s.Abreast v u) ∧
      ((Taken.mk step s w r).passes = true → (call.perform {} (u.redrawn w)).1 = r ∧
        s.Abreast v (call.perform {} (u.redrawn w)).2) := by
  cases h with
  | fresh hstage hsame =>
    subst hsame
    have hpasses : (Taken.mk step s u r).passes = true := by
      rw [Taken.passes, Taken.keptOut, holdsLock, hstage, hcall]
      rfl
    refine ⟨fun hfalse => ?_, fun _ => ?_⟩
    · rw [hpasses] at hfalse
      cases hfalse
    · rw [show u.redrawn u = u from rfl, hstep]
      exact ⟨rfl, .fresh hstage rfl⟩
  | writing hstage h =>
    have hpasses : (Taken.mk step s w r).passes =
        decide ((call.perform {} w.unlocked).1 = r) := by
      rw [Taken.passes, Taken.keptOut, holdsLock, hstage, hcall]
      simp
    rw [hpasses, decide_eq_false_iff_not, decide_eq_true_iff]
    obtain ⟨hout, hin⟩ := h.perform hstep
    exact ⟨fun hother => .writing hstage (hout hother),
      fun hsame => (hin hsame).imp_right (.writing hstage)⟩

/-- At the end of a block the calls alone have led to its database without the lock. -/
lemma Abreast.last (h : s.Abreast w u) :
    u.clock = w.clock ∧ u.database = s.release w.database := by
  cases h with
  | fresh hstage hsame =>
    subst hsame
    rw [release, holdsLock, hstage]
    exact ⟨rfl, rfl⟩
  | writing hstage h =>
    rw [release, holdsLock, hstage]
    exact ⟨congrArg Ground.clock h.ground, congrArg Ground.database h.ground⟩

/-- A row that the block puts leaves the calls alone as they were. -/
lemma Abreast.put (h : s.Abreast w u) (hsees : s.Sees w.database rows)
    (hstage : s'.stage = .writing rows')
    (hground : w'.ground = { w.ground with database := { w.database with locked := true } })
    (hsurroundings : w'.surroundings = w.surroundings) : s'.Abreast w' u := by
  have hdb : w'.database = { w.database with locked := true } := congrArg Ground.database hground
  have hrenewals : w'.renewals = w.renewals := congrArg Surroundings.renewals hsurroundings
  have hrows : w'.database.rows? = w.database.rows? := by
    rw [hdb]
    rfl
  have hunlocked : w'.unlocked.ground = w.unlocked.ground :=
    congrArg (fun g : Ground => { g with database := g.database.unlocked }) hground
  cases h with
  | fresh hold hsame =>
    subst hsame
    rw [Sees, hold] at hsees
    obtain ⟨hthere, hopen⟩ := hsees
    rw [Database.isShut, Bool.or_eq_false_iff] at hopen
    refine .writing hstage
      ⟨by rw [hdb], by rw [hrows, hthere, Option.isSome_some], ?_, hrenewals.symm⟩
    rw [hunlocked, World.unlocked_of_open hopen.1]
  | writing hold h =>
    exact .writing hstage ⟨by rw [hdb], by rw [hrows, h.rows], by rw [hunlocked, h.ground],
      h.renewals.trans hrenewals.symm⟩

end Session

/-- The calls beside a block that goes well, without those that its lock has kept out, come to the
same if there is no block. -/
lemma BlockScript.GoesWell.serially {script : BlockScript} {taken : List Taken}
    (h : script.GoesWell s w taken s' w') (habreast : s.Abreast w u) :
    (BearerAccess.serially (taken.filter Taken.passes) u).1 =
        (taken.filter Taken.passes).map (·.result) ∧
      s'.Abreast w' (BearerAccess.serially (taken.filter Taken.passes) u).2 := by
  -- The steps are gone through in one world and the calls in the other; each step keeps the two
  -- abreast.
  induction h generalizing u with
  | done s w => exact ⟨rfl, habreast⟩
  | @beside step caught rest call r taken s s' w w₁ w' hcall hstep hrest ih =>
    obtain ⟨hout, hin⟩ := habreast.call hcall hstep
    cases hpasses : (Taken.mk step s w r).passes with
    | false =>
      rw [List.filter_cons_of_neg (by rw [hpasses]; exact Bool.false_ne_true)]
      exact ih (hout hpasses)
    | true =>
      obtain ⟨hanswer, hnext⟩ := hin hpasses
      obtain ⟨hanswers, hlast⟩ := ih hnext
      rw [List.filter_cons_of_pos hpasses, serially_cons hcall]
      exact ⟨congrArg₂ List.cons hanswer hanswers, hlast⟩
  | @idle step caught rest r taken s s' w w' hown hidle hon hrest ih =>
    have hpasses : (Taken.mk step s w r).passes = false := by rw [Taken.passes, hown]; rfl
    rw [List.filter_cons_of_neg (by rw [hpasses]; exact Bool.false_ne_true)]
    exact ih habreast
  | @put step caught rest r taken s s₁ s' w w₁ w' rows rows' hown hsees hputs hstep hon hrest ih =>
    obtain ⟨hstage, hground, hsurroundings⟩ := hputs.at hsees hstep
    have hpasses : (Taken.mk step s w r).passes = false := by rw [Taken.passes, hown]; rfl
    rw [List.filter_cons_of_neg (by rw [hpasses]; exact Bool.false_ne_true)]
    exact ih (habreast.put hsees hstage hground hsurroundings)

/-! ### The block after them -/

namespace BlockScript

/-- The steps of a block without the calls beside it. -/
def own (script : BlockScript) : BlockScript := script.filter fun x => x.1.call?.isNone

lemma own_cons_of_none {step : BlockStep} {caught : Bool} {rest : BlockScript}
    (h : step.call? = none) : own ((step, caught) :: rest) = (step, caught) :: own rest :=
  List.filter_cons_of_pos (by rw [h]; rfl)

lemma own_cons_of_some {step : BlockStep} {caught : Bool} {rest : BlockScript} {call : Call}
    (h : step.call? = some call) : own ((step, caught) :: rest) = own rest :=
  List.filter_cons_of_neg (by rw [h]; exact Bool.false_ne_true)

/-- The database that a block meets if it runs by itself from some stage on: the one at its end,
with the lock if it has taken it by then. -/
def resumed (s s' : Session) (db : Database) : Database :=
  if s.holdsLock then db else s'.release db

/-- A block that goes well does the same once more without the calls beside it. -/
lemma GoesWell.replay {script : BlockScript} {taken : List Taken}
    (h : script.GoesWell s w taken s' w') (hl : s.holdsLock = true → w.database.locked = true)
    (hstage : t.stage = s.stage) (hstamp : v.stamp? = w.stamp?)
    (hdb : v.database = resumed s s' w'.database) :
    ∃ t' v', script.own.perform {} t v =
        ((((taken.filter (·.step.call?.isNone)).map (·.result), .ok ()), t'), v') ∧
      t'.stage = s'.stage ∧ v'.database = w'.database := by
  induction h generalizing t v with
  | done s w =>
    refine ⟨t, v, rfl, hstage, hdb.trans ?_⟩
    unfold resumed Session.release
    split <;> rfl
  | @beside step caught rest call r taken s s' w w₁ w' hcall hstep hrest ih =>
    have hc := Call.perform_commits hstep
    rw [own_cons_of_some hcall,
      List.filter_cons_of_neg (by rw [hcall]; exact Bool.false_ne_true)]
    exact ih (fun hwrites => hc.locked.trans (hl hwrites)) hstage
      (hstamp.trans hc.toSteady.stamp.symm) hdb
  | @idle step caught rest r taken s s' w w' hown hidle hon hrest ih =>
    obtain ⟨t', v', hperform, hlast⟩ := ih hl hstage hstamp hdb
    rw [own_cons_of_none hown, List.filter_cons_of_pos (by rw [hown]; rfl)]
    refine ⟨t', v', ?_, hlast⟩
    rw [(perform_on _ (hidle t v) hon).1, hperform]
    rfl
  | @put step caught rest r taken s s₁ s' w w₁ w' rows rows' hown hsees hputs hstep hon hrest ih =>
    obtain ⟨hstage₁, hground, -⟩ := hputs.at hsees hstep
    have hwrites : s₁.holdsLock = true := by rw [Session.holdsLock, hstage₁]
    have hdb₁ : w₁.database = { w.database with locked := true } :=
      congrArg Ground.database hground
    obtain ⟨hkept, hlock⟩ := hrest.database_eq hwrites (by rw [hdb₁])
    -- The block meets the same database as before, whether it has the lock by now or takes it here.
    have hmet : v.database = w.database := by
      rw [hdb, resumed, Session.release, if_pos hlock, hkept, hdb₁]
      unfold Session.Sees at hsees
      unfold Session.holdsLock at hl ⊢
      cases hold : s.stage with
      | dead =>
        rw [hold] at hsees
        exact hsees.elim
      | fresh =>
        rw [hold] at hsees
        have hopen := hsees.2
        rw [Database.isShut, Bool.or_eq_false_iff] at hopen
        exact congrArg (fun locked => { w.database with locked }) hopen.1.symm
      | writing own =>
        rw [hold] at hl
        exact congrArg (fun locked => { w.database with locked }) (hl rfl).symm
    have hsees' : t.Sees v.database rows := by rwa [hmet, Session.sees_congr hstage]
    obtain ⟨t₁, v₁, hagain, hstage', hground', -⟩ := hputs t v hsees' hstamp
    have hnow : v₁.stamp? = w₁.stamp? :=
      (World.Steady.of_database hground' rfl rfl).stamp.trans
        (hstamp.trans (World.Steady.of_database hground rfl rfl).stamp.symm)
    obtain ⟨t', v', hperform, hlast⟩ := ih (fun _ => by rw [hdb₁]) (hstage'.trans hstage₁.symm)
      hnow (by
        rw [resumed, if_pos hwrites, hkept, hdb₁, ← hmet]
        exact congrArg Ground.database hground')
    rw [own_cons_of_none hown, List.filter_cons_of_pos (by rw [hown]; rfl)]
    refine ⟨t', v', ?_, hlast⟩
    rw [(perform_on _ hagain hon).1, hperform]
    rfl

/-- A block that is committed has gone through all its steps, in a session that was alive at the
end. -/
lemma run_ok {script : BlockScript} (h : (script.run {} w).1.2 = .ok ()) :
    ∃ results s w', script.perform {} {} w = (((results, .ok ()), s), w') ∧ s.stage ≠ .dead ∧
      script.run {} w = ((results, (({} : Store).finish (.ok ()) s w').1),
        (({} : Store).finish (.ok ()) s w').2) := by
  rcases hperform : script.perform {} {} w with ⟨⟨⟨results, ending⟩, s⟩, w'⟩
  have hrun : script.run {} w = ((results, (({} : Store).finish ending s w').1),
      (({} : Store).finish ending s w').2) := by
    rw [run, hperform]
  rw [hrun] at h
  cases ending with
  | error f =>
    obtain ⟨f', w'', hfinish, -⟩ : ∃ f' w'', ({} : Store).finish
        (.error f : Except Failure Unit) s w' = (.error f', w'') ∧ _ := Store.finish_error s w'
    rw [hfinish] at h
    cases h
  | ok =>
    refine ⟨results, s, w', rfl, fun hdead => ?_, hrun⟩
    obtain ⟨f, hf, -⟩ := Store.finish_of_dead {} hdead (.ok () : Except Failure Unit) w'
    rw [hf] at h
    cases h

end BlockScript

/-- How a transaction ends, and what it leaves in the database, is up to the rows of its session. -/
lemma Store.finish_congr (hstage : t.stage = s.stage) (hdb : v.database = w.database) (a : α) :
    (({} : Store).finish (.ok a : Except Failure α) t v).1 =
        (({} : Store).finish (.ok a : Except Failure α) s w).1 ∧
      (({} : Store).finish (.ok a : Except Failure α) t v).2.database =
        (({} : Store).finish (.ok a : Except Failure α) s w).2.database := by
  have hdetached : ∀ (s : Session) (w : World), (w.detach s).database = w.database :=
    fun s w => World.database_of_ground (World.ground_detach s w)
  have hcommit : t.commit? {} v.assigned.database = s.commit? {} w.assigned.database := by
    rw [Session.commit?_congr hstage]
    exact congrArg _ hdb
  unfold finish rollBack
  dsimp only
  rw [show FaultPlan.none v.tasks = {} from rfl, show FaultPlan.none w.tasks = {} from rfl, hcommit]
  cases s.commit? {} w.assigned.database with
  | some db => exact ⟨rfl, by rw [hdetached, hdetached]⟩
  | none =>
    dsimp only
    refine ⟨rfl, ?_⟩
    rw [hdetached, hdetached, Session.release_congr hstage]
    exact congrArg s.release hdb

/-! ### Isolation -/

/-- A call that a block has made beside it, after some steps, has had no part in it. The call finds
none but rows that were stored before or have been committed beside the block. If the lock of the
block keeps it out, it fails as calls do that cannot write, which those that only read never do.
Once the block has put a row the call changes nothing, and is kept out if it would have changed the
stored rows. -/
structure Taken.Isolated (t : Taken) (call : Call) (before : List Taken) (w : World) : Prop where
  met : ∃ v, call.perform {} t.world = (t.result, v) ∧
    (before.flatMap (own {}) ≠ [] → v.database = t.world.database)
  stored : t.world.stored = w.stored.after (before.flatMap beside)
  refused : t.keptOut = true → ∃ cause ∈ call.refusal?, t.result = .error ⟨cause, none⟩
  changing : before.flatMap (own {}) ≠ [] →
    (call.perform {} t.world.unlocked).2.stored ≠ t.world.stored → t.keptOut = true

namespace BlockScript

lemma isolated {script : BlockScript} {before after : List Taken} {t : Taken} {call : Call}
    (halive : (script.perform {} {} w).1.2.stage ≠ .dead)
    (htrace : script.trace {} {} w = before ++ t :: after) (hcall : t.step.call? = some call) :
    t.Isolated call before w := by
  obtain ⟨rest, s₁, w₁, hstep, -, hfinal⟩ := trace_split htrace
  rw [BlockStep.perform_call hcall] at hstep
  obtain ⟨hanswer, rfl⟩ := Prod.mk.inj hstep
  obtain ⟨hresult, rfl⟩ := Prod.mk.inj hanswer
  have hp := trace_progress (Progress.start w) htrace
  have hlocked : t.session.holdsLock = true → t.world.database.locked = true := by
    intro hwrites
    rw [hp.locked, hwrites, Bool.true_or]
  have hwrites : before.flatMap (Taken.own {}) ≠ [] → t.session.holdsLock = true := by
    intro hput
    have hcarries := hp.carries
    unfold Session.Carries at hcarries
    unfold Session.holdsLock
    cases hstage : t.session.stage with
    | writing rows => rfl
    | fresh =>
      rw [hstage] at hcarries
      exact absurd hcarries hput
    | dead =>
      rw [hfinal] at halive
      exact absurd (trace_of_dead {} hstage rest _).1 halive
  have hkept : t.keptOut =
      (t.session.holdsLock && decide ((call.perform {} t.world.unlocked).1 ≠ t.result)) := by
    rw [Taken.keptOut, hcall]
    rfl
  refine ⟨⟨_, Prod.ext hresult rfl, fun hput => ?_⟩, trace_stored htrace, fun hout => ?_,
    fun hput hchanges => ?_⟩
  · exact World.database_of_ground (Call.ground_locked (hlocked (hwrites hput)) rfl)
  · rw [hkept, Bool.and_eq_true, decide_eq_true_iff] at hout
    obtain ⟨hlock, hother⟩ := hout
    cases call.perform_heldUp (hlocked hlock) with
    | answered answer h hopen => exact absurd (hopen.trans (h.symm.trans hresult)) hother
    | failed f h hopen => exact absurd (hopen.trans (h.symm.trans hresult)) hother
    | refused cause hcause h => exact ⟨cause, hcause, hresult.symm.trans h⟩
  · rw [hkept, hwrites hput, Bool.true_and, decide_eq_true_iff]
    intro hsame
    have hground := Call.ground_unlocked (hlocked (hwrites hput)) (hsame.trans hresult.symm)
    exact hchanges ((World.stored_of_ground hground).trans rfl)

/-- A block that is committed is isolated and serializable, whatever calls are made beside it. They
see no row of it, and those that would change the stored rows fail and change nothing once it has
put a row of its own. If those that its lock has not kept out are made first, in order and with the same
draws, and the block without them runs afterwards at the same time, all of them and all inserts of
the block are answered as they were, and the database is the same in the end. -/
theorem run_serializable (script : BlockScript) (w : World) (hok : (script.run {} w).1.2 = .ok ()) :
    let taken := script.trace {} {} w
    let (answers, u) := serially (taken.filter Taken.passes) w
    let ((results, outcome), w') := script.own.run {} u
    (script.run {} w).1.1 = taken.map (·.result) ∧
      (∀ before t after call, taken = before ++ t :: after → t.step.call? = some call →
        t.Isolated call before w) ∧
      answers = (taken.filter Taken.passes).map (·.result) ∧ u.clock = w.clock ∧
      results = (taken.filter (·.step.call?.isNone)).map (·.result) ∧ outcome = .ok () ∧
      w'.database = (script.run {} w).2.database := by
  obtain ⟨results, s, w₁, hperform, halive, hrun⟩ := run_ok hok
  have hgoes := goesWell hperform halive
  obtain ⟨hresults, hp⟩ := perform_progress (Progress.start w) hperform
  obtain ⟨hanswers, habreast⟩ := hgoes.serially (Session.Abreast.fresh rfl rfl)
  rcases hserial : serially ((script.trace {} {} w).filter Taken.passes) w with ⟨answers, u⟩
  rw [hserial] at hanswers habreast
  dsimp only at hanswers habreast
  obtain ⟨hsame, hmet⟩ := habreast.last
  have hclock : u.clock = w.clock := hsame.trans hp.clock
  obtain ⟨s₂, w₂, hreplay, hstage, hdb⟩ := hgoes.replay nofun rfl
    (by rw [World.stamp?, World.stamp?, hclock]) hmet
  obtain ⟨houtcome, hlast⟩ := Store.finish_congr hstage hdb ()
  have hown : script.own.run {} u =
      ((((script.trace {} {} w).filter (·.step.call?.isNone)).map (·.result),
        (({} : Store).finish (.ok ()) s₂ w₂).1), (({} : Store).finish (.ok ()) s₂ w₂).2) := by
    rw [run, hreplay]
  rw [hrun] at hok
  intro taken
  rw [hserial]
  dsimp only
  rw [hown, hrun]
  refine ⟨hresults, fun before t after call htrace hcall => ?_, hanswers, hclock, rfl,
    houtcome.trans hok, hlast⟩
  exact isolated (by rw [hperform]; exact halive) htrace hcall

/-- A block that inserts Ann. Beside it Bob is inserted before and to be deleted after, and then the
users are listed. -/
def besideAnn : BlockScript :=
  [(.outside (.insertUser (some (Text.ofString "b")) (some (Text.ofString "bob")) .unset), false),
    (addAnn, false), (.outside (.deleteUser (some (Text.ofString "b"))), false),
    (.outside .users, false)]

theorem run_serializable_besideAnn :
    (besideAnn.run {} {}).1.2 = .ok () ∧
      (besideAnn.trace {} {} {}).map Taken.keptOut = [false, false, true, false] ∧
      (besideAnn.own.run {}
          (serially ((besideAnn.trace {} {} {}).filter Taken.passes) {}).2).2.database =
        (besideAnn.run {} {}).2.database := by
  have hok : (besideAnn.run {} {}).1.2 = .ok () := by decide +kernel
  obtain ⟨-, -, -, -, -, -, hlast⟩ := run_serializable besideAnn {} hok
  exact ⟨hok, by decide +kernel, hlast⟩

end BlockScript

end BearerAccess
