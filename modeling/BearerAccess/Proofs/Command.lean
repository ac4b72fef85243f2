import BearerAccess.Command.CommandLine
import BearerAccess.Proofs.Application

/-!
# The command line

A run of the command line commits the user that it reports, and that only where its address leads to
the database of the world.
-/

namespace BearerAccess

variable {α : Type} {store : Store} {w w' : World}

/-- What becomes of the stored rows when some changes are made to them one after the other. -/
structure World.Follows (w : World) (changes : List Change) (w' : World) : Prop where
  spelling : w'.spelling = w.spelling
  admits : w.stored.Admits changes
  stored : w'.stored = w.stored.after changes

namespace World.Follows

lemma of_ground (h : w'.ground = w.ground) : w.Follows [] w' :=
  ⟨congrArg Ground.spelling h, trivial, stored_of_ground h⟩

lemma of_commits {changes : List Change} (h : w.Commits changes w') : w.Follows changes w' :=
  ⟨h.spelling, h.admits, h.stored⟩

lemma after_ground {w₁ : World} {changes : List Change} (hg : w₁.ground = w.ground)
    (h : w₁.Follows changes w') : w.Follows changes w' := by
  obtain ⟨hspelling, hadmits, hstored⟩ := h
  rw [stored_of_ground hg] at hadmits hstored
  exact ⟨hspelling.trans (congrArg Ground.spelling hg), hadmits, hstored⟩

lemma before_ground {w₁ : World} {changes : List Change} (h : w.Follows changes w₁)
    (hg : w'.ground = w₁.ground) : w.Follows changes w' :=
  ⟨(congrArg Ground.spelling hg).trans h.spelling, h.admits, (stored_of_ground hg).trans h.stored⟩

end World.Follows

/-! ### Waiting -/

lemma retry_quiet {probe : StateM World Bool} {note : Nat → StateM World Unit} {wait more : Nat}
    (hprobe : ∀ w, (probe w).2.ground = w.ground) (hnote : ∀ n w, (note n w).2.ground = w.ground)
    (w : World) : (retry probe note wait more w).2.ground = w.ground := by
  induction more generalizing wait w with
  | zero => exact hprobe w
  | succ more ih =>
    rw [retry, Computation.bind_apply]
    by_cases hok : (probe w).1 = true
    · rw [if_pos hok]
      exact hprobe w
    · rw [if_neg hok]
      exact (ih (note wait (probe w).2).2).trans ((hnote wait _).trans (hprobe w))

namespace CommandLine

lemma awaitDatabase_quiet (w : World) : (awaitDatabase w).2.ground = w.ground :=
  retry_quiet Store.isAvailable_quiet (fun _ _ => World.ground_write _ _ _ _) w

/-! ### Creating a staff user -/

lemma create_commits {order : Order} {r : Except Failure Credentials}
    (h : create store order w = (r, w')) :
    w.Commits (changesOf (·.added w.stamp? none) r) w' ∧ ∀ c, r = .ok c → c.Sound w.spelling := by
  unfold create at h
  by_cases htables : order.createTables
  · simp only [if_pos htables] at h
    obtain ⟨e, hmake, rfl⟩ | ⟨u, w₁, hmake, hrest⟩ := Action.bind_cases h
    · exact ⟨Store.createTables_still.commits hmake, no_answer⟩
    have hc := Store.createTables_still.commits hmake
    obtain ⟨hboot, hsound⟩ := bootstrapStaffUser_commits hrest
    rw [hc.toSteady.stamp] at hboot
    rw [hc.spelling] at hsound
    exact ⟨hc.trans hboot, hsound⟩
  · simp only [if_neg htables] at h
    exact bootstrapStaffUser_commits h

/-- The changes that a report tells of. -/
def reported (now : Option Stamp) (report : Report) : List Change :=
  (report.created.map (·.added now none)).getD []

lemma created_report (failure : Failure) (waits : List Nat) :
    (report failure waits).created = none := by
  unfold report
  split <;> rfl

lemma carryOut_commits {order : Order} {r : Report} (h : carryOut store order w = (r, w')) :
    w.Commits (reported w.stamp? r) w' ∧ ∀ c ∈ r.created, c.Sound w.spelling := by
  have hg := awaitDatabase_quiet w
  unfold carryOut at h
  rw [Computation.bind_apply] at h
  generalize awaitDatabase w = awaited at h hg
  obtain ⟨waiting, w₁⟩ := awaited
  dsimp only at h hg
  by_cases hfailed : !waiting.succeeded
  · simp only [if_pos hfailed] at h
    cases h
    exact ⟨.of_ground hg, by rintro c ⟨⟩⟩
  · simp only [if_neg hfailed] at h
    rcases hmade : create store order w₁ with ⟨made, w₂⟩
    obtain ⟨hc, hsound⟩ := create_commits hmade
    rw [World.stamp_of_ground hg] at hc
    rw [(World.Steady.of_ground hg).spelling] at hsound
    have hrun : (create store order).run w₁ = (made, w₂) := hmade
    rw [Computation.bind_apply, hrun] at h
    cases made with
    | ok c =>
      cases h
      refine ⟨hc.after_ground hg, ?_⟩
      rintro _ ⟨⟩
      exact hsound c rfl
    | error failure =>
      cases h
      rw [reported, created_report]
      exact ⟨hc.after_ground hg, by rintro c ⟨⟩⟩

end CommandLine

/-! ### Which database it is -/

namespace World

lemma inPlace_apply (database : Database) (keep : World → Database → World) (a : StateM World α)
    (w : World) : inPlace database keep a w = ((a { w with database }).1,
      keep { (a { w with database }).2 with database := w.database }
        (a { w with database }).2.database) := rfl

lemma homePath_congr (h : w'.databaseUrl = w.databaseUrl) : w'.homePath? = w.homePath? := by
  rw [homePath?, homePath?, h]

lemma withFile_elsewhere {path : Path} (h : w.homePath? ≠ some path) (left : Database) :
    (w.withFile path left).spelling = w.spelling ∧ (w.withFile path left).database = w.database := by
  rw [withFile, if_neg h]
  split <;> exact ⟨rfl, rfl⟩

/-- Work on a database in another place leaves the stored rows alone. -/
lemma follows_elsewhere {w₁ : World} {changes : List Change} {database : Database}
    (hc : { w with database }.Commits changes w₁) (hspelling : w'.spelling = w₁.spelling)
    (hdatabase : w'.database = w.database) : w.Follows [] w' where
  spelling := hspelling.trans hc.spelling
  admits := trivial
  stored := by
    rw [stored, stored, hdatabase]
    rfl

lemma follows_home {w₁ : World} {changes : List Change} {path : Path} {database : Database}
    (hc : { w with database }.Commits changes w₁) (htables : database.tables = w.database.tables)
    (hpath : w.homePath? = some path) :
    w.Follows changes ({ w₁ with database := w.database }.withFile path w₁.database) := by
  have hhome : ({ w₁ with database := w.database } : World).homePath? = some path :=
    (homePath_congr hc.databaseUrl).trans hpath
  have hstored : ({ w with database } : World).stored = w.stored := congrArg (·.getD {}) htables
  rw [withFile, if_pos hhome]
  exact ⟨hc.spelling, hstored ▸ hc.admits, hstored ▸ hc.stored⟩

end World

/-- The path of the file to which an address leads. -/
def pathAt? (address : Text) : Option Path :=
  match DatabaseUrl.read address >>= DatabaseUrl.location with
  | .ok (.file path _ _) => some path
  | _ => none

/-- What is told of the database of the world, if an address leads there. -/
def World.atHome (w : World) (address : Text) (changes : List Change) : List Change :=
  if (pathAt? address).isSome ∧ pathAt? address = w.homePath? then changes else []

lemma World.atHome_nil (w : World) (address : Text) : w.atHome address [] = [] := by
  unfold World.atHome
  split <;> rfl

lemma World.atHome_of_ground {w₁ : World} (hg : w₁.ground = w.ground) (address : Text)
    (changes : List Change) : w₁.atHome address changes = w.atHome address changes := by
  rw [World.atHome, World.atHome, World.homePath_congr (congrArg Ground.databaseUrl hg)]

lemma openDatabase_ok {address : Text} {request : PoolRequest} {location : Location}
    (h : openDatabase address request w = (.ok location, w')) :
    (DatabaseUrl.read address >>= DatabaseUrl.location) = .ok location := by
  obtain ⟨e, -, he⟩ | ⟨⟨url, options⟩, w₁, hopened, hlocated⟩ := Action.bind_cases h
  · cases he
  dsimp only at hlocated
  rw [Action.liftExcept_apply] at hlocated
  obtain ⟨hlocation, -⟩ := Prod.mk.inj hlocated
  obtain ⟨e, -, he⟩ | ⟨read, w₂, hread, h₁⟩ := Action.bind_cases hopened
  · cases he
  rw [Action.liftExcept_apply] at hread
  obtain ⟨hurl, rfl⟩ := Prod.mk.inj hread
  obtain ⟨e, -, he⟩ | ⟨_, w₃, -, h₂⟩ := Action.bind_cases h₁
  · cases he
  obtain ⟨e, -, he⟩ | ⟨_, w₄, -, h₃⟩ := Action.bind_cases h₂
  · cases he
  obtain ⟨e, -, he⟩ | ⟨_, w₅, -, h₄⟩ := Action.bind_cases h₃
  · cases he
  cases h₄
  rw [hurl]
  exact hlocation

namespace CommandLine

lemma carryOut_inPlace {order : Order} {database : Database} {keep : World → Database → World}
    {x : Except Cause Report}
    (h : (Except.ok <$> World.inPlace database keep (carryOut store order)) w = (x, w')) :
    ∃ report w₁, x = .ok report ∧ w' = keep { w₁ with database := w.database } w₁.database ∧
      { w with database }.Commits (reported w.stamp? report) w₁ ∧
      ∀ c ∈ report.created, c.Sound w.spelling := by
  rcases hcarried : carryOut store order { w with database } with ⟨report, w₁⟩
  rw [Computation.map_apply, World.inPlace_apply, hcarried] at h
  cases h
  obtain ⟨hc, hsound⟩ := carryOut_commits hcarried
  exact ⟨report, w₁, rfl, rfl, hc, hsound⟩

/-- Work at a place that an address leads to changes the rows of the world if they are there. -/
lemma carryOut_follows {order : Order} {location : Location} {x : Except Cause Report}
    (hlocation : (DatabaseUrl.read order.address >>= DatabaseUrl.location) = .ok location)
    (h : World.onDatabase location (carryOut store order) w = (x, w')) :
    (∃ cause, x = .error cause ∧ w' = w) ∨ ∃ report, x = .ok report ∧
      w.Follows (w.atHome order.address (reported w.stamp? report)) w' ∧
      ∀ c ∈ report.created, c.Sound w.spelling := by
  have haway : ∀ changes, pathAt? order.address ≠ w.homePath? ∨ pathAt? order.address = none →
      w.atHome order.address changes = [] := by
    rintro changes hpath
    rw [World.atHome, if_neg]
    rintro ⟨hsome, hhome⟩
    obtain hne | hnone := hpath
    · exact hne hhome
    · rw [hnone] at hsome
      cases hsome
  cases location with
  | refused cause =>
    cases h
    exact .inl ⟨cause, rfl, rfl⟩
  | closed =>
    have hpath : pathAt? order.address = none := by rw [pathAt?, hlocation]
    obtain ⟨report, w₁, rfl, rfl, hc, hsound⟩ := carryOut_inPlace h
    refine .inr ⟨report, rfl, ?_, hsound⟩
    rw [haway _ (.inr hpath)]
    exact World.follows_elsewhere hc rfl rfl
  | memory writable =>
    have hpath : pathAt? order.address = none := by rw [pathAt?, hlocation]
    obtain ⟨report, w₁, rfl, rfl, hc, hsound⟩ := carryOut_inPlace h
    refine .inr ⟨report, rfl, ?_, hsound⟩
    rw [haway _ (.inr hpath)]
    exact World.follows_elsewhere hc rfl rfl
  | file path passed opening =>
    have hpath : pathAt? order.address = some path := by rw [pathAt?, hlocation]
    have hplace : (Except.ok <$> World.inPlace (w.databaseIn path passed opening)
      (fun v left => v.withFile path left) (carryOut store order)) w = (x, w') := h
    obtain ⟨report, w₁, rfl, rfl, hc, hsound⟩ := carryOut_inPlace hplace
    refine .inr ⟨report, rfl, ?_, hsound⟩
    by_cases hhome : w.homePath? = some path
    · rw [World.atHome, if_pos ⟨by rw [hpath, Option.isSome_some], by rw [hpath, hhome]⟩]
      refine World.follows_home hc ?_ hhome
      rw [World.databaseIn, if_pos hhome]
    · rw [haway _ (.inl (by rw [hpath]; exact Ne.symm hhome))]
      obtain ⟨hspelling, hdatabase⟩ := World.withFile_elsewhere (w := { w₁ with database := w.database })
        (fun hsame => hhome ((World.homePath_congr hc.databaseUrl).symm.trans hsame)) w₁.database
      exact World.follows_elsewhere hc hspelling hdatabase

/-- An order changes the rows of the world if its address leads to their database. -/
lemma serve_follows {order : Order} {r : Report} (h : serve store order w = (r, w')) :
    w.Follows (w.atHome order.address (reported w.stamp? r)) w' ∧
      ∀ c ∈ r.created, c.Sound w.spelling := by
  unfold serve at h
  rw [Computation.bind_apply] at h
  rcases hopen : openDatabase order.address poolRequest w with ⟨opened, w₁⟩
  have hrun : (openDatabase order.address poolRequest).run w = (opened, w₁) := hopen
  have hg := (openDatabase_quiet _ _).ground_eq hopen
  rw [hrun] at h
  cases opened with
  | error failure =>
    cases h
    refine ⟨?_, by rintro c ⟨⟩⟩
    change w.Follows (w.atHome order.address []) _
    rw [World.atHome_nil]
    exact .of_ground hg
  | ok location =>
    dsimp only at h
    rw [Computation.bind_apply] at h
    rcases hwork : World.onDatabase location (carryOut store order) { w₁ with idle := [] }
      with ⟨x, w₂⟩
    have hapart : World.apart (World.onDatabase location (carryOut store order)) w₁ =
        (x, { w₂ with idle := w₁.idle }) := by
      rw [World.apart, hwork]
    rw [hapart] at h
    have hidle : ({ w₁ with idle := [] } : World).ground = w.ground := hg
    obtain ⟨cause, rfl, rfl⟩ | ⟨report, rfl, hf, hs⟩ := carryOut_follows (openDatabase_ok hopen) hwork
    · cases h
      rw [reported, created_report]
      refine ⟨?_, by rintro c ⟨⟩⟩
      change w.Follows (w.atHome order.address []) _
      rw [World.atHome_nil]
      exact .of_ground hg
    · cases h
      rw [World.atHome_of_ground hidle, World.stamp_of_ground hidle] at hf
      rw [(World.Steady.of_ground hidle).spelling] at hs
      exact ⟨(hf.after_ground hidle).before_ground rfl, hs⟩

def order? (words : List Text) (env : Environment) : Option Order :=
  match readProgram words with
  | .ok (_, rest) => (readOrder rest env).toOption
  | .error _ => none

/-- The changes that a command line has made to the rows of the world, told from its report. -/
def changes (w : World) (words : List Text) (env : Environment) (r : Report) : List Change :=
  match order? words env with
  | some order => w.atHome order.address (reported w.stamp? r)
  | none => []

lemma created_halt (u : Usage) (halt : Halt) : (u.halt halt).created = none := by
  cases halt <;> rfl

lemma changes_of_none {words : List Text} {env : Environment} {r : Report} (h : r.created = none) :
    changes w words env r = [] := by
  unfold changes
  split
  · rw [reported, h]
    exact w.atHome_nil _
  · rfl

/-- Answering a command line comes to no more than setting the level, or to serving the order that it
gives. -/
lemma answer_cases {words : List Text} {env : Environment} {r : Report}
    (h : answer store words env w = (r, w')) :
    (r.created = none ∧ ∃ threshold, w' = { w with threshold }) ∨
      ∃ order threshold, order? words env = some order ∧
        serve store order { w with threshold } = (r, w') := by
  unfold answer at h
  cases hprogram : readProgram words with
  | error halt =>
    rw [hprogram] at h
    cases h
    exact .inl ⟨created_halt _ _, _, rfl⟩
  | ok program =>
    obtain ⟨level, rest⟩ := program
    rw [hprogram] at h
    dsimp only at h
    cases hrank : (Level.named level.upperCase).rank? with
    | error failure =>
      rw [hrank] at h
      cases h
      exact .inl ⟨rfl, _, rfl⟩
    | ok rank =>
      rw [hrank] at h
      dsimp only at h
      rw [Computation.bind_apply, Computation.modify_apply] at h
      cases horder : readOrder rest env with
      | error halt =>
        rw [horder] at h
        cases h
        exact .inl ⟨created_halt _ _, _, rfl⟩
      | ok order =>
        rw [horder] at h
        refine .inr ⟨order, rank, ?_, h⟩
        rw [order?, hprogram]
        dsimp only
        rw [horder]
        rfl

lemma answer_follows {words : List Text} {env : Environment} {r : Report}
    (h : answer store words env w = (r, w')) :
    w.Follows (changes w words env r) w' ∧ ∀ c ∈ r.created, c.Sound w.spelling := by
  obtain ⟨hnone, threshold, rfl⟩ | ⟨order, threshold, hgiven, hserve⟩ := answer_cases h
  · rw [changes_of_none hnone, hnone]
    exact ⟨.of_ground rfl, by rintro c ⟨⟩⟩
  · have hg : ({ w with threshold } : World).ground = w.ground := rfl
    obtain ⟨hf, hs⟩ := serve_follows hserve
    rw [World.atHome_of_ground hg, World.stamp_of_ground hg] at hf
    rw [changes, hgiven]
    exact ⟨hf.after_ground hg, hs⟩

lemma run_cases {words : List Text} {env : Environment} {r : Report}
    (h : run store words env w = (r, w')) : ∃ answered,
      answer store words env w = (answered, w') ∧
        r = { answered with output := printed answered.output } := by
  rcases hanswer : answer store words env w with ⟨answered, w₁⟩
  rw [run, Computation.bind_apply, hanswer] at h
  cases h
  exact ⟨answered, rfl, rfl⟩

/-- A command line commits the user that it reports, if its address leads to the database of the
world, and nothing else there. -/
lemma run_follows {words : List Text} {env : Environment} {r : Report}
    (h : run store words env w = (r, w')) :
    w.Follows (changes w words env r) w' ∧ Paired w.spelling w.stamp? (changes w words env r) := by
  obtain ⟨answered, hanswer, rfl⟩ := run_cases h
  obtain ⟨hf, hs⟩ := answer_follows hanswer
  refine ⟨hf, ?_⟩
  cases hcreated : answered.created with
  | none =>
    rw [changes_of_none rfl]
    exact .nothing
  | some c =>
    have hpaired : Paired w.spelling w.stamp? (c.added w.stamp? none) := .added (hs c hcreated)
    simp only [changes, reported, Option.map_some, Option.getD_some, World.atHome]
    split
    · split
      · exact hpaired
      · exact .nothing
    · exact .nothing

end CommandLine

end BearerAccess
