import BearerAccess.Identifier
import BearerAccess.Moment
import BearerAccess.Proofs.Action

/-!
# Worlds that are alike

What is answered does not depend on the log, on the messages that are kept or on what failures were
raised from, and hardly on the connections that are at hand. Worlds that differ in nothing else are
alike, and an action is even if it answers the same in worlds that are alike and leaves them alike.
Where it is not certain that the answers are the same, they may be two errors. What surrounds the
store, and how far it must be the same, is left open until it is needed.
-/

namespace BearerAccess

variable {α β ε : Type}

/-- What the operations of the store work on, but for the connections at hand. -/
structure Core where
  clock : Int
  entropy : List Draw
  draws : Nat
  tasks : Nat
  database : Database
  databaseUrl : Text
  renewals : Nat
  spelling : List UInt8 → String

/-- What surrounds the store, which its operations leave alone. -/
structure Surroundings where
  folders : List Path
  files : List (Path × Option Tables)
  renewals : Nat
  application : Option Application

namespace World

def core (w : World) : Core :=
  ⟨w.clock, w.entropy, w.draws, w.tasks, w.database, w.databaseUrl, w.renewals, w.spelling⟩

def surroundings (w : World) : Surroundings := ⟨w.folders, w.files, w.renewals, w.application⟩

/-- Two worlds that are told apart by no more than their logs, what failures were raised from, the
connections at hand if the likeness is not strict, and surroundings of which as much as is asked for
is the same. -/
structure Alike (strict : Bool) (around : Surroundings → Surroundings → Prop) (w v : World) :
    Prop where
  core : v.core = w.core
  idle : strict = true → v.idle = w.idle
  surroundings : around w.surroundings v.surroundings

namespace Alike

variable {strict : Bool} {around : Surroundings → Surroundings → Prop} {w v : World}

lemma clock (h : w.Alike strict around v) : v.clock = w.clock := congrArg Core.clock h.core

lemma tasks (h : w.Alike strict around v) : v.tasks = w.tasks := congrArg Core.tasks h.core

lemma database (h : w.Alike strict around v) : v.database = w.database :=
  congrArg Core.database h.core

lemma databaseUrl (h : w.Alike strict around v) : v.databaseUrl = w.databaseUrl :=
  congrArg Core.databaseUrl h.core

lemma renewals (h : w.Alike strict around v) : v.renewals = w.renewals :=
  congrArg Core.renewals h.core

lemma spelling (h : w.Alike strict around v) : v.spelling = w.spelling :=
  congrArg Core.spelling h.core

lemma ground (h : w.Alike strict around v) : v.ground = w.ground := by
  rw [World.ground, World.ground, h.clock, h.spelling, h.databaseUrl, h.database]

lemma stamp (h : w.Alike strict around v) : v.stamp? = w.stamp? := by
  rw [stamp?, stamp?, h.clock]

/-- Changes of two worlds that are alike, in the same way and not around the store. -/
lemma change (h : w.Alike strict around v) {w' v' : World} (hcore : v'.core = w'.core)
    (hidle : strict = true → v'.idle = w'.idle) (hw : w'.surroundings = w.surroundings)
    (hv : v'.surroundings = v.surroundings) : w'.Alike strict around v' :=
  ⟨hcore, hidle, by rw [hw, hv]; exact h.surroundings⟩

lemma with_database (h : w.Alike strict around v) (database : Database) :
    ({ w with database } : World).Alike strict around { v with database } :=
  h.change (congrArg (fun c : Core => { c with database }) h.core) h.idle rfl rfl

lemma change_database (h : w.Alike strict around v) (f : Database → Database) :
    ({ w with database := f w.database } : World).Alike strict around
      { v with database := f v.database } := by
  rw [h.database]
  exact h.with_database _

lemma assigned (h : w.Alike strict around v) : w.assigned.Alike strict around v.assigned :=
  h.change (congrArg (fun c : Core => { c with tasks := c.tasks + 1 }) h.core) h.idle rfl rfl

end Alike

/-! ### Log, draws and connections -/

lemma keep_eq (w : World) (e : LogEntry) : ∃ log, w.keep e = { w with log } := by
  unfold keep
  split
  · exact ⟨_, rfl⟩
  · exact ⟨w.log, rfl⟩

lemma connect_eq (w : World) : ∃ idle, w.connect.2 = { w with idle } := by
  unfold connect
  split
  · exact ⟨w.idle, rfl⟩
  · exact ⟨_, rfl⟩

lemma giveBack_eq (w : World) (c : Connection) : ∃ idle, w.giveBack c = { w with idle } := by
  unfold giveBack
  split
  · exact ⟨_, rfl⟩
  · exact ⟨w.idle, rfl⟩

namespace Alike

variable {strict : Bool} {around : Surroundings → Surroundings → Prop} {w v : World}

/-- Whatever is written to the logs, worlds that are alike stay so. -/
lemma keep (h : w.Alike strict around v) (e e' : LogEntry) :
    (w.keep e).Alike strict around (v.keep e') := by
  obtain ⟨log, hw⟩ := w.keep_eq e
  obtain ⟨log', hv⟩ := v.keep_eq e'
  rw [hw, hv]
  exact h.change h.core h.idle rfl rfl

lemma write (h : w.Alike strict around v) {severity severity' : Severity}
    {source source' : Source} {message message' : Text} :
    (w.write severity source message).Alike strict around
      (v.write severity' source' message') :=
  h.keep _ _

/-- What failures are raised from does not tell worlds apart. -/
lemma raising (h : w.Alike strict around v) (origin origin' : Option Origin) :
    (w.raising origin).Alike strict around (v.raising origin') :=
  h.change h.core h.idle rfl rfl

lemma draw (h : w.Alike strict around v) (size : Nat) : (v.draw size).1 = (w.draw size).1 ∧
    (w.draw size).2.Alike strict around (v.draw size).2 := by
  have hdraws : v.draws = w.draws := congrArg Core.draws h.core
  have hentropy : v.entropy = w.entropy := congrArg Core.entropy h.core
  have hrest : ({ w with draws := w.draws + 1, entropy := w.entropy.tail } : World).Alike strict
      around { v with draws := w.draws + 1, entropy := w.entropy.tail } :=
    h.change (congrArg (fun c : Core => { c with draws := w.draws + 1, entropy := w.entropy.tail })
      h.core) h.idle rfl rfl
  unfold World.draw
  rw [hdraws, hentropy]
  cases w.entropy.head?.getD .ordinal with
  | bytes bytes => exact ⟨rfl, hrest⟩
  | ordinal => exact ⟨rfl, hrest⟩
  | failing => exact ⟨rfl, hrest⟩

/-- Where worlds are strictly alike, the same connection is taken. -/
lemma connect (h : w.Alike strict around v) : (strict = true → v.connect.1 = w.connect.1) ∧
    w.connect.2.Alike strict around v.connect.2 := by
  obtain ⟨idle, hw⟩ := w.connect_eq
  obtain ⟨idle', hv⟩ := v.connect_eq
  refine ⟨fun hs => ?_, h.change ?_ (fun hs => ?_) ?_ ?_⟩
  · unfold World.connect
    rw [h.idle hs, h.renewals]
    split <;> rfl
  · rw [hw, hv]
    exact h.core
  · unfold World.connect
    rw [h.idle hs]
    split
    · exact h.idle hs
    · rfl
  · rw [hw]
    rfl
  · rw [hv]
    rfl

lemma giveBack (h : w.Alike strict around v) {c d : Connection} (hc : strict = true → d = c) :
    (w.giveBack c).Alike strict around (v.giveBack d) := by
  obtain ⟨idle, hw⟩ := w.giveBack_eq c
  obtain ⟨idle', hv⟩ := v.giveBack_eq d
  refine h.change ?_ (fun hs => ?_) ?_ ?_
  · rw [hw, hv]
    exact h.core
  · obtain rfl := hc hs
    unfold World.giveBack
    rw [h.renewals]
    split
    · exact congrArg (· ++ [d]) (h.idle hs)
    · exact h.idle hs
  · rw [hw]
    rfl
  · rw [hv]
    rfl

lemma turn (h : w.Alike strict around v) : w.turn.Alike strict around v.turn := by
  unfold World.turn
  rw [h.database]
  split
  · exact h.connect.2.giveBack h.connect.1
  · exact h

end Alike

end World

/-! ### Even actions -/

/-- What two worlds come to is answered alike, and leaves them alike. -/
def SameAnswer (strict : Bool) (around : Surroundings → Surroundings → Prop) (x y : β × World) :
    Prop :=
  y.1 = x.1 ∧ x.2.Alike strict around y.2

variable {strict : Bool} {around : Surroundings → Surroundings → Prop} {w v : World}

/-- An action that answers the same in worlds that are alike, and leaves them alike. -/
def Action.Even (strict : Bool) (around : Surroundings → Surroundings → Prop) (a : Action α) :
    Prop :=
  ∀ w v, w.Alike strict around v → SameAnswer strict around (a w) (a v)

/-- What is done alike whatever surrounds the store leaves the surroundings alone. -/
lemma World.surroundings_of_alike {a : World → β × World}
    (h : ∀ around w v, w.Alike true around v → (a w).2.Alike true around (a v).2) (w : World) :
    (a w).2.surroundings = w.surroundings :=
  (h (fun s _ => s = w.surroundings) w w ⟨rfl, fun _ => rfl, rfl⟩).surroundings

/-- Two outcomes are the same or, if that is not certain, two errors. -/
inductive Agree (certain : Prop) : Except ε α → Except ε α → Prop where
  | same (x : Except ε α) : Agree certain x x
  | errors (h : ¬certain) (e e' : ε) : Agree certain (.error e) (.error e')

namespace Agree

variable {certain : Prop} {x y : Except ε α}

lemma of_eq (h : y = x) : Agree certain x y := by
  rw [h]
  exact .same x

lemma eq (h : Agree certain x y) (hc : certain) : y = x := by
  cases h with
  | same => rfl
  | errors hn => exact absurd hc hn

lemma mono {other : Prop} (h : Agree certain x y) (himp : other → certain) : Agree other x y := by
  cases h with
  | same => exact .same _
  | errors hn e e' => exact .errors (mt himp hn) e e'

lemma map (h : Agree certain x y) (f : α → β) : Agree certain (x.map f) (y.map f) := by
  cases h with
  | same => exact .same _
  | errors hn e e' => exact .errors hn e e'

end Agree

/-- What two worlds come to agrees, and leaves them alike. -/
def SameEffect (certain : Prop) (strict : Bool) (around : Surroundings → Surroundings → Prop)
    (x y : Except ε α × World) : Prop :=
  Agree certain x.1 y.1 ∧ x.2.Alike strict around y.2

variable {certain : Prop}

lemma SameAnswer.effect {x y : Except ε α × World} (h : SameAnswer strict around x y) :
    SameEffect certain strict around x y :=
  ⟨.of_eq h.1, h.2⟩

namespace SameEffect

lemma answer {x y : Except ε α × World} (h : SameEffect certain strict around x y) (hc : certain) :
    SameAnswer strict around x y :=
  ⟨h.1.eq hc, h.2⟩

lemma bind {a : Action α} {f : α → Action β} (ha : SameEffect certain strict around (a w) (a v))
    (hf : ∀ x w₁ v₁, a w = (.ok x, w₁) → w₁.Alike strict around v₁ →
      SameEffect certain strict around (f x w₁) (f x v₁)) :
    SameEffect certain strict around ((a >>= f) w) ((a >>= f) v) := by
  obtain ⟨hanswer, hworld⟩ := ha
  rw [Action.bind_apply, Action.bind_apply]
  rcases hw : a w with ⟨r, w₁⟩
  rcases hv : a v with ⟨r', v₁⟩
  rw [hw, hv] at hanswer hworld
  cases hanswer with
  | errors hc e e' => exact ⟨.errors hc e e', hworld⟩
  | same =>
    cases r with
    | error e => exact ⟨.same _, hworld⟩
    | ok x => exact hf x w₁ v₁ hw hworld

lemma map {a : Action α} (ha : SameEffect certain strict around (a w) (a v)) (f : α → β) :
    SameEffect certain strict around ((f <$> a) w) ((f <$> a) v) := by
  obtain ⟨hanswer, hworld⟩ := ha
  rw [Action.map_apply, Action.map_apply]
  exact ⟨hanswer.map f, hworld⟩

end SameEffect

/-- What two worlds come to leaves them alike, and is the same if that is certain. -/
def SameEnding (certain : Prop) (strict : Bool) (around : Surroundings → Surroundings → Prop)
    (x y : β × World) : Prop :=
  (certain → y.1 = x.1) ∧ x.2.Alike strict around y.2

lemma SameAnswer.ending {x y : β × World} (h : SameAnswer strict around x y) :
    SameEnding certain strict around x y :=
  ⟨fun _ => h.1, h.2⟩

lemma SameEnding.answer {x y : β × World} (h : SameEnding certain strict around x y)
    (hc : certain) : SameAnswer strict around x y :=
  ⟨h.1 hc, h.2⟩

lemma SameAnswer.bind {a : Action α} {f : α → Action β}
    (ha : SameAnswer strict around (a w) (a v))
    (hf : ∀ x w₁ v₁, a w = (.ok x, w₁) → w₁.Alike strict around v₁ →
      SameAnswer strict around (f x w₁) (f x v₁)) :
    SameAnswer strict around ((a >>= f) w) ((a >>= f) v) := by
  have hbind : SameEffect True strict around ((a >>= f) w) ((a >>= f) v) :=
    ha.effect.bind fun x w₁ v₁ hx h₁ => (hf x w₁ v₁ hx h₁).effect
  exact hbind.answer trivial

lemma SameAnswer.map {a : Action α} (ha : SameAnswer strict around (a w) (a v)) (f : α → β) :
    SameAnswer strict around ((f <$> a) w) ((f <$> a) v) := by
  have hmap : SameEffect True strict around ((f <$> a) w) ((f <$> a) v) := ha.effect.map f
  exact hmap.answer trivial

namespace Action

lemma even_pure (a : α) : (pure a : Action α).Even strict around := fun _ _ h => ⟨rfl, h⟩

lemma even_throw (f : Failure) : (throw f : Action α).Even strict around := fun _ _ h => ⟨rfl, h⟩

lemma even_fail (c : Cause) : (fail c : Action α).Even strict around := fun _ _ h => ⟨rfl, h⟩

lemma even_writeLog (severity : Severity) (source : Source) (message : Text) :
    (writeLog severity source message).Even strict around :=
  fun _ _ h => ⟨rfl, h.write⟩

lemma even_liftExcept (r : Except Failure α) : (liftExcept r : Action α).Even strict around := by
  intro w v h
  rw [liftExcept_apply, liftExcept_apply]
  exact ⟨rfl, h⟩

lemma even_modify {f : World → World}
    (hf : ∀ w v, w.Alike strict around v → (f w).Alike strict around (f v)) :
    (modify f : Action PUnit).Even strict around :=
  fun w v h => ⟨rfl, hf w v h⟩

lemma Even.bind {a : Action α} {f : α → Action β} (ha : a.Even strict around)
    (hf : ∀ x, (f x).Even strict around) : (a >>= f).Even strict around :=
  fun w v h => (ha w v h).bind fun x w₁ v₁ _ h₁ => hf x w₁ v₁ h₁

lemma Even.map {a : Action α} (ha : a.Even strict around) (f : α → β) :
    (f <$> a).Even strict around := fun w v h => (ha w v h).map f

lemma Even.ite {p : Prop} [Decidable p] {a b : Action α} (ha : p → a.Even strict around)
    (hb : ¬p → b.Even strict around) : (if p then a else b).Even strict around := by
  by_cases hp : p
  · rw [if_pos hp]
    exact ha hp
  · rw [if_neg hp]
    exact hb hp

/-- What an action reads of the world is the same in worlds that are alike. -/
lemma even_get_bind {f : World → Action α}
    (hf : ∀ w v, w.Alike strict around v → SameAnswer strict around (f w w) (f v v)) :
    (get >>= f : Action α).Even strict around := by
  intro w v h
  rw [bind_apply, bind_apply, get_apply, get_apply]
  exact hf w v h

end Action

/-! ### Draws and moments -/

lemma draw_even (size : Nat) :
    (modifyGet fun w : World => w.draw size : Action (Option (List UInt8))).Even strict around := by
  intro w v h
  obtain ⟨hdrawn, hworld⟩ := h.draw size
  exact ⟨congrArg Except.ok hdrawn, hworld⟩

lemma drawBytes_even (size : Nat) : (drawBytes size).Even strict around := by
  refine (draw_even size).bind fun drawn => ?_
  cases drawn with
  | none => exact Action.even_fail _
  | some bytes => exact Action.even_pure bytes

lemma newIdentifier_even : newIdentifier.Even strict around := by
  refine Action.even_get_bind fun w v h => ?_
  have hdrawn := (drawBytes_even 10).map (identifier w.clock.toNat) w v h
  rw [h.clock]
  by_cases hneg : w.clock < 0
  · simp only [if_pos hneg, Action.bind_apply, Action.fail_apply]
    exact ⟨rfl, h⟩
  · by_cases hlate : clockLimit ≤ w.clock
    · simp only [if_neg hneg, if_pos hlate, Action.bind_apply, Action.fail_apply]
      exact ⟨rfl, h⟩
    · simp only [if_neg hneg, if_neg hlate]
      simpa only [map_eq_pure_bind] using hdrawn

lemma newSecret_even (size : Nat) : (newSecret size).Even strict around := by
  refine (draw_even size).bind fun drawn => ?_
  cases drawn with
  | none => exact Action.even_fail _
  | some bytes =>
    refine Action.even_get_bind fun w v h => ?_
    rw [h.spelling]
    exact ⟨rfl, h⟩

lemma moment_even (now : Option DateTime) : (moment now).Even strict around := by
  cases now with
  | none =>
    refine Action.even_get_bind fun w v h => ?_
    rw [h.clock]
    cases DateTime.ofClock? w.clock with
    | none => exact ⟨rfl, h⟩
    | some now => exact ⟨rfl, h⟩
  | some now => exact Action.even_liftExcept _

end BearerAccess
