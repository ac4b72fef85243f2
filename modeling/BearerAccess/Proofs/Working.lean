import BearerAccess.Proofs.Alike
import BearerAccess.Proofs.Disturbance
import BearerAccess.Proofs.Parts

/-!
# Working stores

What lookups, inserts and the creation of a user come to where no method of a session fails and the
rows can be read, and, for what adds to them, changed. Looking something up leaves alone what later
draws depend on.
-/

namespace BearerAccess

variable {α : Type} {s : Session} {w w' v : World} {rows : Tables} {now : Stamp}

/-! ### Randomness -/

namespace World

/-- What the draws to come depend on. -/
def randomness (w : World) : List Draw × Nat := (w.entropy, w.draws)

@[simp] lemma randomness_keep (w : World) (e : LogEntry) :
    (w.keep e).randomness = w.randomness := by
  obtain ⟨log, h⟩ := w.keep_eq e
  rw [h]
  rfl

@[simp] lemma randomness_write (w : World) (severity : Severity) (source : Source) (message : Text) :
    (w.write severity source message).randomness = w.randomness :=
  w.randomness_keep _

@[simp] lemma randomness_connect (w : World) : w.connect.2.randomness = w.randomness := by
  obtain ⟨idle, h⟩ := w.connect_eq
  rw [h]
  rfl

@[simp] lemma randomness_giveBack (w : World) (c : Connection) :
    (w.giveBack c).randomness = w.randomness := by
  obtain ⟨idle, h⟩ := w.giveBack_eq c
  rw [h]
  rfl

@[simp] lemma randomness_attach (s : Session) (w : World) :
    (w.attach s).2.randomness = w.randomness := by
  unfold attach
  split
  · rfl
  · exact w.randomness_connect

@[simp] lemma randomness_visit (query : Option Store.Query) (w : World) :
    (w.visit query).2.randomness = w.randomness := by
  unfold visit
  rw [randomness_giveBack, randomness_connect]

@[simp] lemma ground_visit (query : Option Store.Query) (w : World) :
    (w.visit query).2.ground = w.ground := by
  unfold visit
  rw [ground_giveBack, ground_connect]

lemma draw_congr (h : v.randomness = w.randomness) (size : Nat) :
    (v.draw size).1 = (w.draw size).1 ∧
      (v.draw size).2.randomness = (w.draw size).2.randomness := by
  obtain ⟨hentropy, hdraws⟩ : v.entropy = w.entropy ∧ v.draws = w.draws := Prod.mk.inj h
  unfold draw
  rw [hentropy, hdraws]
  dsimp only
  cases w.entropy.head?.getD .ordinal <;> exact ⟨rfl, rfl⟩

end World

lemma newIdentifier_apply (w : World) : newIdentifier w =
    if w.clock < 0 then (.error (Cause.range .negativeClock), w)
    else if clockLimit ≤ w.clock then (.error (Cause.range .lateClock), w)
    else (match (w.draw 10).1 with
      | some bytes => .ok (identifier w.clock.toNat bytes)
      | none => .error Cause.noRandomness, (w.draw 10).2) := by
  unfold newIdentifier
  rw [Action.bind_apply, Action.get_apply]
  dsimp only
  by_cases hneg : w.clock < 0
  · simp only [if_pos hneg]
    rfl
  by_cases hlate : clockLimit ≤ w.clock
  · simp only [if_neg hneg, if_pos hlate]
    rfl
  simp only [if_neg hneg, if_neg hlate, drawBytes, Action.bind_apply, Action.modifyGet_apply]
  cases (w.draw 10).1 <;> rfl

lemma newSecret_apply (size : Nat) (w : World) : newSecret size w =
    (match (w.draw size).1 with
      | some bytes => .ok (w.spelling bytes)
      | none => .error Cause.entropyUnavailable, (w.draw size).2) := by
  have hspelling : (w.draw size).2.spelling = w.spelling :=
    congrArg Ground.spelling (World.ground_draw size w)
  unfold newSecret
  rw [Action.bind_apply, Action.modifyGet_apply]
  dsimp only
  cases (w.draw size).1 with
  | none => rfl
  | some bytes =>
    rw [← hspelling]
    rfl

/-- A cause for which an identifier or a secret is not made. -/
def Cause.OfDraw : Cause → Prop
  | .range _ | .noRandomness | .entropyUnavailable => True
  | _ => False

lemma newIdentifier_failsFor {C : Cause → Prop} (h : ∀ c, c.OfDraw → C c) :
    newIdentifier.FailsFor C := by
  intro w f hf
  rw [newIdentifier_apply] at hf
  split at hf
  · cases hf
    exact h _ trivial
  split at hf
  · cases hf
    exact h _ trivial
  · cases hdrawn : (w.draw 10).1 with
    | none =>
      rw [hdrawn] at hf
      cases hf
      exact h _ trivial
    | some bytes =>
      rw [hdrawn] at hf
      cases hf

lemma newSecret_failsFor {C : Cause → Prop} (h : ∀ c, c.OfDraw → C c) (size : Nat) :
    (newSecret size).FailsFor C := by
  intro w f hf
  rw [newSecret_apply] at hf
  cases hdrawn : (w.draw size).1 with
  | none =>
    rw [hdrawn] at hf
    cases hf
    exact h _ trivial
  | some bytes =>
    rw [hdrawn] at hf
    cases hf

lemma newIdentifier_congr (hclock : v.clock = w.clock) (hr : v.randomness = w.randomness) :
    (newIdentifier v).1 = (newIdentifier w).1 ∧
      (newIdentifier v).2.randomness = (newIdentifier w).2.randomness := by
  obtain ⟨hdrawn, hrest⟩ := World.draw_congr hr 10
  rw [newIdentifier_apply, newIdentifier_apply, hclock]
  split
  · exact ⟨rfl, hr⟩
  split
  · exact ⟨rfl, hr⟩
  · exact ⟨by rw [hdrawn], hrest⟩

lemma newSecret_congr (hspelling : v.spelling = w.spelling) (hr : v.randomness = w.randomness)
    (size : Nat) : (newSecret size v).1 = (newSecret size w).1 := by
  rw [newSecret_apply, newSecret_apply, (World.draw_congr hr size).1, hspelling]

/-! ### Lookups -/

namespace Store

/-- Where the rows can be read and the clock shows a date, the owner of a secret is looked up. -/
lemma userByToken_apply {secret : Text} (hclock : w.stamp? = some now)
    (hrows : w.database.rows? = some rows) (hplain : secret.toString?.isSome) :
    ∃ w', ({} : Store).userByToken (some secret) none w =
        (.ok ((rows.ownerOfSecret? secret.toString? now).map UserRow.toIdentity), w') ∧
      w'.ground = w.ground ∧ w'.randomness = w.randomness := by
  obtain ⟨-, hnone⟩ | ⟨u, hmoment, hstamp⟩ := moment_cases none w
  · rw [World.askedAt?, hclock] at hnone
    cases hnone
  rw [World.askedAt?, hclock, Option.some.injEq] at hstamp
  obtain ⟨text, htext⟩ := Option.isSome_iff_exists.mp hplain
  have hquery : (some ⟨.ownerOfSecret, some secret⟩ : Option Query).bind
      (textObstacle? ·.subject) = none := textObstacle?_of_stored htext
  have hassigned : w.assigned.database.rows? = some rows := hrows
  have hvisit : (w.assigned.visit (some ⟨.ownerOfSecret, some secret⟩)).1 = .ok rows := by
    rw [World.visit_fst hassigned, hquery]
  refine ⟨(w.assigned.visit (some ⟨.ownerOfSecret, some secret⟩)).2, ?_, by simp, by simp; rfl⟩
  unfold userByToken
  rw [Action.bind_apply, hmoment]
  dsimp only
  rw [operate_apply]
  simp only [Database.reachable_of_rows hrows, hvisit, reading, conclude, ← hstamp]
  rfl

end Store

/-! ### Inserts -/

namespace Store

/-- An insert has values that the database takes, and makes something of rows that it meets. -/
structure Presentable (i : Insertion α) (f : Tables → Except Violation (α × Tables)) : Prop where
  storable : i.storable = true
  obstacle : i.obstacle = none
  apply : i.apply = some f

lemma Presentable.attempt {i : Insertion α} {f : Tables → Except Violation (α × Tables)}
    (hi : Presentable i f) (known : Bool) : Session.attempt (some rows) false known i =
      match f rows with
      | .ok result => .ok result
      | .error v => .error (.violated v) := by
  unfold Session.attempt
  simp only [hi.storable, hi.obstacle, hi.apply, Option.isSome_some, Bool.or_true]
  rfl

lemma Presentable.verdict {i : Insertion α} {f : Tables → Except Violation (α × Tables)}
    {db : Database} (hi : Presentable i f) (hsees : s.Sees db rows) : s.verdict db i =
      match f rows with
      | .ok result => .ok result
      | .error v => .error (.violated v) := by
  unfold Session.Sees at hsees
  unfold Session.verdict
  cases hstage : s.stage with
  | fresh =>
    rw [hstage] at hsees
    dsimp only at hsees ⊢
    rw [hsees.1, hsees.2]
    exact hi.attempt _
  | writing own =>
    rw [hstage] at hsees
    dsimp only at hsees ⊢
    rw [hsees]
    exact hi.attempt _
  | dead =>
    rw [hstage] at hsees
    exact hsees.elim

/-- What can be handed over is refused, unless the database takes its values and the session meets
rows to put them among. -/
lemma attempt_refused {rows? : Option Tables} {shut : Bool} (known : Bool) {i : Insertion α}
    (hobstacle : i.obstacle = none)
    (h : ∀ f rows, Presentable i f → rows? = some rows → shut = true) :
    Session.attempt rows? shut known i = .error .refused := by
  unfold Session.attempt
  rw [hobstacle]
  split
  · rfl
  rename_i hstorable
  rw [Bool.or_eq_true, not_or, Bool.not_eq_true, Bool.not_eq_false'] at hstorable
  cases happly : i.apply with
  | none => rfl
  | some f =>
    cases rows? with
    | none => rfl
    | some rows => exact if_pos (h f rows ⟨hstorable.1, hobstacle, happly⟩ rfl)

lemma verdict_refused {db : Database} {i : Insertion α} (hobstacle : i.obstacle = none)
    (h : ∀ f rows, Presentable i f → ¬s.Sees db rows) : s.verdict db i = .error .refused := by
  unfold Session.Sees at h
  unfold Session.verdict
  cases hstage : s.stage with
  | dead => rfl
  | fresh =>
    rw [hstage] at h
    refine attempt_refused _ hobstacle fun f rows hi hrows => ?_
    exact Bool.not_eq_false _ ▸ fun hopen => h f rows hi ⟨hrows, hopen⟩
  | writing own =>
    rw [hstage] at h
    exact attempt_refused _ hobstacle fun f rows hi hrows =>
      absurd (Option.some.inj hrows) (h f rows hi)

/-- In a working store an insert comes to what it makes of the rows that it meets. -/
lemma insert_apply {i : Option Stamp → Insertion α} {f : Tables → Except Violation (α × Tables)}
    (hi : Presentable (i w.stamp?) f) (hsees : s.Sees w.database rows) :
    ∃ s' w', ({} : Store).insert i s w =
        ((.ok (((f rows).map Prod.fst).mapError fun v => .rejected (.violated v)), s'), w') ∧
      w'.clock = w.clock ∧ w'.spelling = w.spelling ∧ w'.randomness = w.randomness ∧
      ∀ a rows', f rows = .ok (a, rows') → s'.stage = .writing rows' := by
  have hground := World.ground_attach s w.assigned
  have hstage := World.stage_attach s w.assigned
  have hrandom : (w.assigned.attach s).2.randomness = w.randomness :=
    World.randomness_attach s w.assigned
  generalize hattached : w.assigned.attach s = attached at hground hstage hrandom
  obtain ⟨s₁, w₁⟩ := attached
  dsimp only at hground hstage hrandom
  have hsame : w.Steady w₁ := .of_ground hground
  have hverdict := hi.verdict ((Session.sees_congr hstage).mpr hsees)
  unfold insert handOver
  simp only [hattached]
  rw [Session.execute_eq, hsame.stamp, World.database_of_ground hground,
    show w.assigned.database = w.database from rfl, hverdict]
  cases f rows with
  | ok result =>
    refine ⟨_, _, rfl, hsame.clock, hsame.spelling, hrandom, ?_⟩
    rintro a rows' ⟨⟩
    rfl
  | error v => exact ⟨_, _, rfl, hsame.clock, hsame.spelling, hrandom, nofun⟩

end Store

end BearerAccess
