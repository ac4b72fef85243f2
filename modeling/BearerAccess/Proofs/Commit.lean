import BearerAccess.Proofs.Action
import BearerAccess.Proofs.Change

/-!
# Commits

What becomes of the world when changes of the rows are committed: the rows are those that the
changes leave, and of the ground nothing else is touched.
-/

namespace BearerAccess

lemma Database.tables_of_rows {db : Database} {rows : Tables} (h : db.rows? = some rows) :
    db.tables = some rows := by
  unfold rows? at h
  split at h
  · exact h
  · cases h

lemma Database.reachable_of_rows {db : Database} {rows : Tables} (h : db.rows? = some rows) :
    db.reachable = true := by
  unfold rows? at h
  split at h
  · assumption
  · cases h

namespace World

/-- A passage from one world to another that leaves alone what the rows come from, and whether the
database is within reach. -/
structure Steady (w w' : World) : Prop where
  clock : w'.clock = w.clock
  spelling : w'.spelling = w.spelling
  databaseUrl : w'.databaseUrl = w.databaseUrl
  reachable : w'.database.reachable = w.database.reachable
  barrier : w'.database.barrier = w.database.barrier

namespace Steady

variable {w w' w'' : World}

lemma trans (h : w.Steady w') (h' : w'.Steady w'') : w.Steady w'' where
  clock := h'.clock.trans h.clock
  spelling := h'.spelling.trans h.spelling
  databaseUrl := h'.databaseUrl.trans h.databaseUrl
  reachable := h'.reachable.trans h.reachable
  barrier := h'.barrier.trans h.barrier

lemma of_database {db : Database} (hg : w'.ground = { w.ground with database := db })
    (hreachable : db.reachable = w.database.reachable)
    (hbarrier : db.barrier = w.database.barrier) : w.Steady w' where
  clock := congrArg Ground.clock hg
  spelling := congrArg Ground.spelling hg
  databaseUrl := congrArg Ground.databaseUrl hg
  reachable := (congrArg (·.database.reachable) hg).trans hreachable
  barrier := (congrArg (·.database.barrier) hg).trans hbarrier

lemma of_ground (hg : w'.ground = w.ground) : w.Steady w' :=
  of_database hg rfl rfl

lemma refl (w : World) : w.Steady w := of_ground rfl

lemma stamp (h : w.Steady w') : w'.stamp? = w.stamp? := by
  rw [stamp?, stamp?, h.clock]

end Steady

/-- A passage from one world to another commits some changes. While the database is shut to
others, the rows stay as they are. -/
structure Commits (w : World) (changes : List Change) (w' : World) : Prop extends w.Steady w' where
  locked : w'.database.locked = w.database.locked
  admits : w.stored.Admits changes
  stored : w'.stored = w.stored.after changes
  shut : w.database.isShut → w'.database.tables = w.database.tables

namespace Commits

variable {w w' w'' : World} {changes more : List Change}

lemma isShut (h : w.Commits changes w') : w'.database.isShut = w.database.isShut := by
  rw [Database.isShut, Database.isShut, h.locked, h.barrier]

lemma of_ground (h : w'.ground = w.ground) : w.Commits [] w' where
  toSteady := .of_ground h
  locked := by rw [database_of_ground h]
  admits := trivial
  stored := stored_of_ground h
  shut _ := by rw [database_of_ground h]

lemma refl (w : World) : w.Commits [] w := of_ground rfl

lemma trans (h : w.Commits changes w') (h' : w'.Commits more w'') :
    w.Commits (changes ++ more) w'' where
  toSteady := h.toSteady.trans h'.toSteady
  locked := h'.locked.trans h.locked
  admits := Tables.admits_append.mpr ⟨h.admits, h.stored ▸ h'.admits⟩
  stored := by rw [h'.stored, h.stored, Tables.after_append]
  shut hs := by rw [h'.shut (h.isShut ▸ hs), h.shut hs]

lemma after_ground (hg : w'.ground = w.ground) (h : w'.Commits changes w'') :
    w.Commits changes w'' :=
  (of_ground hg).trans h

lemma before_ground (h : w.Commits changes w') (hg : w''.ground = w'.ground) :
    w.Commits changes w'' := by
  simpa using h.trans (of_ground hg)

/-- Other tables in the place of the old, which they may only be in a database that is not shut. -/
lemma of_change {tables : Option Tables}
    (hs : tables = w.database.tables ∨ w.database.isShut = false)
    (hg : w'.ground = { w.ground with database := { w.database with tables } })
    (ha : w.stored.Admits changes) (hstored : tables.getD {} = w.stored.after changes) :
    w.Commits changes w' where
  toSteady := .of_database hg rfl rfl
  locked := congrArg (·.database.locked) hg
  admits := ha
  stored := (congrArg (·.database.tables.getD {}) hg).trans hstored
  shut h := by
    have hdb : w'.database.tables = tables := congrArg (·.database.tables) hg
    obtain rfl | hs := hs
    · exact hdb
    · rw [hs] at h
      cases h

lemma of_tables {t rows : Tables} (hs : w.database.isShut = false) (ht : w.database.tables = some t)
    (hg : w'.ground = { w.ground with database := { w.database with tables := some rows } })
    (hrows : rows = t.after changes) (ha : t.Admits changes) : w.Commits changes w' := by
  have hstored : w.stored = t := by rw [World.stored, ht, Option.getD_some]
  exact of_change (.inr hs) hg (hstored ▸ ha) (hstored ▸ hrows)

/-- What commits no changes and leaves the tables as they are leaves the ground alone. -/
lemma ground_eq (h : w.Commits [] w') (ht : w'.database.tables = w.database.tables) :
    w'.ground = w.ground := by
  have hdb : w'.database = w.database := by
    change Database.mk _ _ _ _ = Database.mk _ _ _ _
    rw [ht, h.reachable, h.locked, h.barrier]
  rw [ground, ground, h.clock, h.spelling, h.databaseUrl, hdb]

end Commits

end World

/-! ### Actions that commit nothing -/

/-- An action that commits nothing, whatever else it does. -/
def Action.Still {α : Type} (a : Action α) : Prop := ∀ w : World, w.Commits [] (a w).2

namespace Action

variable {α β : Type}

lemma Quiet.still {a : Action α} (ha : a.Quiet) : a.Still := fun w => .of_ground (ha w)

lemma Still.commits {a : Action α} (ha : a.Still) {w w' : World} {r : Except Failure α}
    (h : a w = (r, w')) : w.Commits [] w' := by
  have hw := ha w
  rw [h] at hw
  exact hw

lemma Still.bind {a : Action α} {f : α → Action β} (ha : a.Still) (hf : ∀ x, (f x).Still) :
    (a >>= f).Still := by
  intro w
  have hw := ha w
  rw [bind_apply]
  rcases h : a w with ⟨e | x, w₁⟩
  · rw [h] at hw
    exact hw
  · rw [h] at hw
    exact hw.trans (hf x w₁)

end Action

end BearerAccess
