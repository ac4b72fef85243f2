import BearerAccess.Proofs.AlikeEvent
import BearerAccess.Proofs.Careful

/-!
# What is kept of a world

A world is kept if all but its log, its draws and its connections stays, except that tables without
rows, and a file to hold them, may be made. A command line that fails keeps the world.
-/

namespace BearerAccess

variable {store : Store} {made : Prop} {w w' v : World}

/-- A database is as it was, or tables without rows have been made in it where there were none. -/
def Database.Kept (made : Prop) (db db' : Database) : Prop :=
  db' = db ∨ made ∧ db.tables = none ∧ db' = { db with tables := some {} }

/-- What is known of a file is as it was, or the file is new or its tables are, and has no rows. -/
def FileKept (made : Prop) (before after : Option (Option Tables)) : Prop :=
  after = before ∨ before.join = none ∧ (after = some none ∨ made ∧ after = some (some {}))

/-- All but the log, the draws and the connections is as it was in a world, except that tables without
rows may have been made where there were none, and a file in which there are no rows. -/
structure World.Kept (made : Prop) (w w' : World) : Prop where
  clock : w'.clock = w.clock
  spelling : w'.spelling = w.spelling
  databaseUrl : w'.databaseUrl = w.databaseUrl
  renewals : w'.renewals = w.renewals
  folders : w'.folders = w.folders
  manner : w'.surroundings.manner = w.surroundings.manner
  database : w.database.Kept made w'.database
  files : ∀ path, FileKept made (w.files.lookup path) (w'.files.lookup path)

namespace Database.Kept

variable {db db' : Database}

lemma refl (db : Database) : db.Kept made db := .inl rfl

lemma stored (h : db.Kept made db') : db'.tables.getD {} = db.tables.getD {} := by
  obtain rfl | ⟨-, hnone, rfl⟩ := h
  · rfl
  · rw [hnone]
    rfl

lemma file {before : Option (Option Tables)} (h : db.Kept made db') (hdb : db.tables = before.join) :
    FileKept made before (some db'.tables) := by
  obtain rfl | ⟨hmade, hnone, rfl⟩ := h
  · rw [hdb]
    rcases before with _ | _ | t
    · exact .inr ⟨rfl, .inl rfl⟩
    · exact .inl rfl
    · exact .inl rfl
  · exact .inr ⟨hdb ▸ hnone, .inr ⟨hmade, rfl⟩⟩

end Database.Kept

namespace World

/-- Two worlds differ in no more than their databases, logs, draws and connections. -/
structure Beside (w w' : World) : Prop where
  ground : w'.ground = { w.ground with database := w'.database }
  surroundings : w'.surroundings = w.surroundings

namespace Beside

lemma with_database (h : w.Beside w') (database : Database) : w.Beside { w' with database } :=
  ⟨congrArg (fun g : Ground => { g with database }) h.ground, h.surroundings⟩

lemma of_ground (hg : w'.ground = w.ground) (hs : w'.surroundings = w.surroundings) :
    w.Beside w' := by
  refine ⟨?_, hs⟩
  rw [hg, database_of_ground hg]
  rfl

/-- Where the database is kept, and so are the files, the world is kept. -/
lemma kept (h : w.Beside w') (hdb : w.database.Kept made w'.database) : w.Kept made w' where
  clock := congrArg Ground.clock h.ground
  spelling := congrArg Ground.spelling h.ground
  databaseUrl := congrArg Ground.databaseUrl h.ground
  renewals := congrArg Surroundings.renewals h.surroundings
  folders := congrArg Surroundings.folders h.surroundings
  manner := congrArg Surroundings.manner h.surroundings
  database := hdb
  files path := .inl (congrArg (·.lookup path) (congrArg Surroundings.files h.surroundings))

end Beside

lemma Kept.mono {other : Prop} (h : w.Kept made w') (himp : made → other) : w.Kept other w' where
  clock := h.clock
  spelling := h.spelling
  databaseUrl := h.databaseUrl
  renewals := h.renewals
  folders := h.folders
  manner := h.manner
  database := h.database.imp_right (.imp_left himp)
  files path := (h.files path).imp_right (.imp_right (.imp_right (.imp_left himp)))

/-- What is kept is kept also from a world and to a world that differ in logs, draws and connections
alone. -/
lemma Kept.congr {w₁ w₂ : World} (h : w₁.Kept made w₂) (hg : w₁.ground = w.ground)
    (hs : w₁.surroundings = w.surroundings) (hg' : w'.ground = w₂.ground)
    (hs' : w'.surroundings = w₂.surroundings) : w.Kept made w' where
  clock := (clock_of_ground hg').trans (h.clock.trans (clock_of_ground hg))
  spelling := (congrArg Ground.spelling hg').trans
    (h.spelling.trans (congrArg Ground.spelling hg))
  databaseUrl := (congrArg Ground.databaseUrl hg').trans
    (h.databaseUrl.trans (congrArg Ground.databaseUrl hg))
  renewals := (congrArg Surroundings.renewals hs').trans
    (h.renewals.trans (congrArg Surroundings.renewals hs))
  folders := (congrArg Surroundings.folders hs').trans
    (h.folders.trans (congrArg Surroundings.folders hs))
  manner := by rw [hs', h.manner, hs]
  database := by
    rw [database_of_ground hg', ← database_of_ground hg]
    exact h.database
  files path := by
    have hfiles : w'.files = w₂.files := congrArg Surroundings.files hs'
    have hfiles' : w.files = w₁.files := congrArg Surroundings.files hs.symm
    rw [hfiles, hfiles']
    exact h.files path

namespace Beside

/-- Work in a file that keeps the database in it keeps the world. -/
lemma kept_withFile {path : Path} {passed : List Path} {opening : Opening} (h : w.Beside v)
    (hleft : (w.databaseIn path passed opening).Kept made v.database) :
    w.Kept made ({ v with database := w.database }.withFile path v.database) := by
  have hback := h.with_database w.database
  have hpath : ({ v with database := w.database } : World).homePath? = w.homePath? :=
    homePath_congr (congrArg Ground.databaseUrl h.ground)
  by_cases hhome : w.homePath? = some path
  · rw [withFile, if_pos (hpath.trans hhome)]
    refine (hback.with_database _).kept ?_
    rw [databaseIn, if_pos hhome] at hleft
    obtain hsame | ⟨hmade, hnone, hnew⟩ := hleft
    · rw [hsame]
      exact .refl _
    · rw [hnew]
      exact .inr ⟨hmade, hnone, rfl⟩
  rw [← hpath] at hhome
  by_cases hr : v.database.reachable = true
  · have hkept : w.Kept made { v with database := w.database } := hback.kept (.refl _)
    have hfiles := lookup_withFile hhome hr
    rw [withFile, if_neg hhome, if_pos hr] at hfiles ⊢
    refine ⟨hkept.clock, hkept.spelling, hkept.databaseUrl, hkept.renewals, hkept.folders,
      hkept.manner, .refl _, fun p => ?_⟩
    rw [hfiles p]
    by_cases hp : p = path
    · rw [if_pos hp, hp]
      refine hleft.file ?_
      rw [databaseIn, if_neg (hpath ▸ hhome)]
    · rw [if_neg hp]
      exact hkept.files p
  · rw [withFile, if_neg hhome, if_neg hr]
    exact hback.kept (.refl _)

end Beside

end World

/-! ### Command lines -/

namespace CommandLine

lemma create_error {order : Order} {f : Failure} (h : create store order w = (.error f, w')) :
    w'.ground = { w.ground with database := w'.database } ∧
      w.database.Kept (order.createTables = true) w'.database := by
  have hboot : ∀ v, bootstrapStaffUser store (some order.username)
      (.text Settings.defaultTokenName) v = (.error f, w') → w'.ground = v.ground := by
    intro v hv
    have hcall : (Call.bootstrap (some order.username)
        (.text Settings.defaultTokenName)).perform store v = (.error f, w') := by
      rw [Call.perform, Action.map_apply, hv]
      rfl
    exact Call.perform_error_ground hcall
  have hsame : w'.ground = w.ground → w'.ground = { w.ground with database := w'.database } ∧
      w.database.Kept (order.createTables = true) w'.database := by
    intro hg
    rw [World.database_of_ground hg]
    exact ⟨hg, .refl _⟩
  unfold create at h
  by_cases htables : order.createTables
  · simp only [if_pos htables] at h
    obtain ⟨e, hmake, -⟩ | ⟨u, w₁, hmake, hrest⟩ := Action.bind_cases h
    · obtain ⟨-, hg⟩ | ⟨hr, -⟩ := Store.changeTables_cases hmake
      · exact hsame hg
      · cases hr
    obtain ⟨⟨e, he⟩, -⟩ | ⟨-, -, hg⟩ := Store.changeTables_cases hmake
    · cases he
    have hafter := hboot w₁ hrest
    cases hnone : w.database.tables with
    | some t =>
      refine hsame (hafter.trans (hg.trans ?_))
      rw [hnone, Option.getD_some, ← hnone]
      rfl
    | none =>
      rw [hnone] at hg
      have hdb : w'.database = { w.database with tables := some {} } :=
        congrArg Ground.database (hafter.trans hg)
      rw [hdb]
      exact ⟨hafter.trans hg, .inr ⟨htables, hnone, rfl⟩⟩
  · simp only [if_neg htables] at h
    exact hsame (hboot w h)

lemma carryOut_failed {order : Order} {report : Report} (h : carryOut store order w = (report, w'))
    (hcode : report.exitCode ≠ 0) :
    w.Beside w' ∧ w.database.Kept (order.createTables = true) w'.database := by
  have hsurroundings : w'.surroundings = w.surroundings := by
    rw [← World.surroundings_of_alike (fun _ _ _ h => (carryOut_alike h order).2) w, h]
  have hg := awaitDatabase_quiet w
  unfold carryOut at h
  rw [Computation.bind_apply] at h
  generalize awaitDatabase w = awaited at h hg
  obtain ⟨waiting, w₁⟩ := awaited
  dsimp only at h hg
  have hdb := World.database_of_ground hg
  by_cases hfailed : !waiting.succeeded
  · simp only [if_pos hfailed] at h
    cases h
    rw [hdb]
    exact ⟨.of_ground hg hsurroundings, .refl _⟩
  simp only [if_neg hfailed] at h
  rcases hmade : create store order w₁ with ⟨made, w₂⟩
  have hrun : (create store order).run w₁ = (made, w₂) := hmade
  rw [Computation.bind_apply, hrun] at h
  cases made with
  | ok c =>
    cases h
    exact absurd rfl hcode
  | error f =>
    cases h
    obtain ⟨hground, hkept⟩ := create_error hmade
    rw [hg] at hground
    rw [hdb] at hkept
    exact ⟨⟨hground, hsurroundings⟩, hkept⟩

lemma onDatabase_failed {order : Order} {location : Location} {x : Except Cause Report}
    (h : World.onDatabase location (carryOut store order) w = (x, w'))
    (hx : ∀ report, x = .ok report → report.exitCode ≠ 0) :
    w.Kept (order.createTables = true) w' := by
  have hcarried : ∀ {d : Database} {keep : World → Database → World},
      (Except.ok <$> World.inPlace d keep (carryOut store order) :
        StateM World (Except Cause Report)) w = (x, w') →
      ∃ v, w.Beside v ∧ d.Kept (order.createTables = true) v.database ∧
        w' = keep { v with database := w.database } v.database := by
    intro d keep hplace
    rcases hcarried : carryOut store order { w with database := d } with ⟨report, v⟩
    rw [Computation.map_apply, World.inPlace_apply, hcarried] at hplace
    cases hplace
    obtain ⟨hbeside, hkept⟩ := carryOut_failed hcarried (hx report rfl)
    exact ⟨v, ⟨hbeside.ground, hbeside.surroundings⟩, hkept, rfl⟩
  cases location with
  | refused cause =>
    cases h
    exact (World.Beside.of_ground rfl rfl).kept (.refl _)
  | closed =>
    obtain ⟨v, hbeside, -, rfl⟩ := hcarried h
    exact (hbeside.with_database _).kept (.refl _)
  | memory writable =>
    obtain ⟨v, hbeside, -, rfl⟩ := hcarried h
    exact (hbeside.with_database _).kept (.refl _)
  | file path passed opening =>
    obtain ⟨v, hbeside, hkept, rfl⟩ := hcarried
      (show (Except.ok <$> World.inPlace (w.databaseIn path passed opening)
        (fun v left => v.withFile path left) (carryOut store order)) w = (x, w') from h)
    exact hbeside.kept_withFile hkept

lemma serve_failed {order : Order} {report : Report} (h : serve store order w = (report, w'))
    (hcode : report.exitCode ≠ 0) : w.Kept (order.createTables = true) w' := by
  unfold serve at h
  rw [Computation.bind_apply] at h
  rcases hopen : openDatabase order.address poolRequest w with ⟨opened, w₁⟩
  have hrun : (openDatabase order.address poolRequest).run w = (opened, w₁) := hopen
  have hg := (openDatabase_quiet _ _).ground_eq hopen
  have hs : w₁.surroundings = w.surroundings := by
    rw [← World.surroundings_of_alike
      (fun _ w v h => (openDatabase_even order.address poolRequest w v h).2) w, hopen]
  rw [hrun] at h
  cases opened with
  | error failure =>
    cases h
    refine (World.Beside.of_ground hg hs).kept ?_
    rw [World.database_of_ground hg]
    exact .refl _
  | ok location =>
    dsimp only at h
    rw [Computation.bind_apply] at h
    rcases hwork : World.onDatabase location (carryOut store order) { w₁ with idle := [] }
      with ⟨x, w₂⟩
    have hapart : World.apart (World.onDatabase location (carryOut store order)) w₁ =
        (x, { w₂ with idle := w₁.idle }) := by
      rw [World.apart, hwork]
    rw [hapart] at h
    have hidle : ({ w₁ with idle := [] } : World).Kept (order.createTables = true) w₂ := by
      refine onDatabase_failed hwork ?_
      rintro carried rfl
      cases h
      exact hcode
    cases x <;> cases h
    all_goals exact hidle.congr hg hs rfl rfl

/-- A command line that fails keeps the world. -/
lemma run_failed {words : List Text} {env : Environment} {report : Report}
    (h : run store words env w = (report, w')) (hcode : report.exitCode ≠ 0) :
    w.Kept (∃ order ∈ order? words env, order.createTables = true) w' := by
  obtain ⟨answered, hanswer, rfl⟩ := run_cases h
  obtain ⟨-, threshold, rfl⟩ | ⟨order, threshold, hgiven, hserve⟩ := answer_cases hanswer
  · have hbeside : w.Beside { w with threshold } := .of_ground rfl rfl
    exact hbeside.kept (.refl _)
  · have hkept := (serve_failed hserve hcode).congr (w := w) rfl rfl rfl rfl
    exact hkept.mono fun htables => ⟨order, hgiven, htables⟩

end CommandLine

end BearerAccess
