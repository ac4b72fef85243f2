import BearerAccess.World
import Mathlib.Tactic.Common

/-!
# Running actions

How the parts of an action follow one another, and the part of the world that the rows depend on.
Whatever an action does besides (the log, the draws, the connections) is left out of account.
-/

namespace BearerAccess

variable {α β : Type}

/-! ### Parts of a computation that cannot fail -/

namespace Computation

@[simp] lemma pure_apply (a : α) (w : World) : (pure a : StateM World α) w = (a, w) := rfl

@[simp] lemma get_apply (w : World) : (get : StateM World World) w = (w, w) := rfl

@[simp] lemma modify_apply (f : World → World) (w : World) :
    (modify f : StateM World PUnit) w = (⟨⟩, f w) := rfl

@[simp] lemma bind_apply (a : StateM World α) (f : α → StateM World β) (w : World) :
    (a >>= f) w = f (a w).1 (a w).2 := rfl

lemma map_apply (f : α → β) (a : StateM World α) (w : World) : (f <$> a) w = (f (a w).1, (a w).2) :=
  rfl

end Computation

/-! ### Parts of an action -/

namespace Action

@[simp] lemma pure_apply (a : α) (w : World) : (pure a : Action α) w = (.ok a, w) := rfl

@[simp] lemma throw_apply (f : Failure) (w : World) : (throw f : Action α) w = (.error f, w) := rfl

@[simp] lemma fail_apply (c : Cause) (w : World) :
    (fail c : Action α) w = (.error ⟨c, none⟩, w) := rfl

@[simp] lemma get_apply (w : World) : (get : Action World) w = (.ok w, w) := rfl

@[simp] lemma modify_apply (f : World → World) (w : World) :
    (modify f : Action PUnit) w = (.ok ⟨⟩, f w) := rfl

@[simp] lemma modifyGet_apply (f : World → α × World) (w : World) :
    (modifyGet f : Action α) w = (.ok (f w).1, (f w).2) := rfl

@[simp] lemma liftExcept_apply (r : Except Failure α) (w : World) :
    (liftExcept r : Action α) w = (r, w) := by
  cases r <;> rfl

lemma bind_apply (a : Action α) (f : α → Action β) (w : World) :
    (a >>= f) w = match a w with
      | (.ok x, w') => f x w'
      | (.error e, w') => (.error e, w') := by
  change ExceptT.bindCont f (a w).1 (a w).2 = _
  rcases a w with ⟨_ | _, _⟩ <;> rfl

lemma map_apply (f : α → β) (a : Action α) (w : World) :
    (f <$> a) w = ((a w).1.map f, (a w).2) := by
  rw [map_eq_pure_bind, bind_apply]
  rcases a w with ⟨_ | _, _⟩ <;> rfl

lemma bind_cases {a : Action α} {f : α → Action β} {w w' : World} {r : Except Failure β}
    (h : (a >>= f) w = (r, w')) :
    (∃ e, a w = (.error e, w') ∧ r = .error e) ∨ ∃ x w₁, a w = (.ok x, w₁) ∧ f x w₁ = (r, w') := by
  rw [bind_apply] at h
  rcases ha : a w with ⟨e | x, w₁⟩
  · rw [ha] at h
    obtain ⟨rfl, rfl⟩ := Prod.mk.inj h
    exact .inl ⟨e, rfl, rfl⟩
  · rw [ha] at h
    exact .inr ⟨x, w₁, rfl, h⟩

end Action

@[simp] lemma writeLog_apply (severity : Severity) (source : Source) (message : Text) (w : World) :
    writeLog severity source message w = (.ok (), w.write severity source message) := rfl

/-! ### The ground of the rows -/

/-- What the rows and the times and secrets in them come from. -/
structure Ground where
  clock : Int
  spelling : List UInt8 → String
  databaseUrl : Text
  database : Database

namespace World

def ground (w : World) : Ground := ⟨w.clock, w.spelling, w.databaseUrl, w.database⟩

/-- The users and tokens that are stored; there are none without tables. -/
def stored (w : World) : Tables := w.database.tables.getD {}

lemma clock_of_ground {w w' : World} (h : w'.ground = w.ground) : w'.clock = w.clock :=
  congrArg Ground.clock h

lemma database_of_ground {w w' : World} (h : w'.ground = w.ground) : w'.database = w.database :=
  congrArg Ground.database h

lemma stamp_of_ground {w w' : World} (h : w'.ground = w.ground) : w'.stamp? = w.stamp? := by
  rw [stamp?, stamp?, clock_of_ground h]

lemma stored_of_ground {w w' : World} (h : w'.ground = w.ground) : w'.stored = w.stored := by
  rw [stored, stored, database_of_ground h]

lemma ground_with_database {w w' : World} (h : w'.ground = w.ground) (database : Database) :
    ({ w' with database } : World).ground = { w.ground with database } := by
  rw [← h]
  rfl

@[simp] lemma ground_keep (w : World) (e : LogEntry) : (w.keep e).ground = w.ground := by
  unfold keep
  split <;> rfl

@[simp] lemma ground_write (w : World) (severity : Severity) (source : Source) (message : Text) :
    (w.write severity source message).ground = w.ground :=
  ground_keep w _

@[simp] lemma ground_writeException (w : World) (severity : Severity) (source : Source)
    (message : Text) (cause : Cause) :
    (w.writeException severity source message cause).ground = w.ground :=
  ground_keep w _

@[simp] lemma ground_raising (w : World) (origin : Option Origin) :
    (w.raising origin).ground = w.ground := rfl

@[simp] lemma database_raising (w : World) (origin : Option Origin) :
    (w.raising origin).database = w.database := rfl

@[simp] lemma ground_draw (size : Nat) (w : World) : (w.draw size).2.ground = w.ground := by
  unfold draw
  dsimp only
  split <;> rfl

@[simp] lemma ground_connect (w : World) : w.connect.2.ground = w.ground := by
  unfold connect
  split <;> rfl

@[simp] lemma ground_giveBack (w : World) (c : Connection) : (w.giveBack c).ground = w.ground := by
  unfold giveBack
  split <;> rfl

@[simp] lemma ground_assigned (w : World) : w.assigned.ground = w.ground := rfl

@[simp] lemma ground_turn (w : World) : w.turn.ground = w.ground := by
  unfold turn
  split
  · simp
  · rfl

end World

/-! ### Quiet actions -/

/-- An action that leaves the ground of the rows alone. -/
def Action.Quiet (a : Action α) : Prop := ∀ w, (a w).2.ground = w.ground

namespace Action

lemma Quiet.ground_eq {a : Action α} (ha : a.Quiet) {w w' : World} {r : Except Failure α}
    (h : a w = (r, w')) : w'.ground = w.ground := by
  have hw := ha w
  rw [h] at hw
  exact hw

lemma quiet_pure (a : α) : (pure a : Action α).Quiet := fun _ => rfl

lemma quiet_fail (c : Cause) : (fail c : Action α).Quiet := fun _ => rfl

lemma quiet_throw (f : Failure) : (throw f : Action α).Quiet := fun _ => rfl

lemma quiet_get : (get : Action World).Quiet := fun _ => rfl

lemma quiet_modifyGet {f : World → α × World} (hf : ∀ w, (f w).2.ground = w.ground) :
    (modifyGet f : Action α).Quiet := hf

lemma quiet_writeLog (severity : Severity) (source : Source) (message : Text) :
    (writeLog severity source message).Quiet := fun w => World.ground_write w severity source message

lemma quiet_liftExcept (r : Except Failure α) : (liftExcept r : Action α).Quiet := by
  intro w
  rw [liftExcept_apply]

lemma Quiet.bind {a : Action α} {f : α → Action β} (ha : a.Quiet) (hf : ∀ x, (f x).Quiet) :
    (a >>= f).Quiet := by
  intro w
  have hw := ha w
  rw [bind_apply]
  rcases h : a w with ⟨e | x, w₁⟩
  · rw [h] at hw
    exact hw
  · rw [h] at hw
    exact (hf x w₁).trans hw

lemma Quiet.map {a : Action α} (ha : a.Quiet) (f : α → β) : (f <$> a).Quiet := by
  intro w
  rw [map_apply]
  exact ha w

lemma Quiet.ite {p : Prop} [Decidable p] {a b : Action α} (ha : p → a.Quiet) (hb : ¬p → b.Quiet) :
    (if p then a else b).Quiet := by
  by_cases hp : p
  · rw [if_pos hp]
    exact ha hp
  · rw [if_neg hp]
    exact hb hp

end Action

end BearerAccess
