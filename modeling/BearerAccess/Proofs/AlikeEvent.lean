import BearerAccess.Event
import BearerAccess.Proofs.AlikeService
import BearerAccess.Proofs.Command
import BearerAccess.Proofs.History

/-!
# Events in worlds that are alike

Whatever happens to worlds that are alike leaves them alike, and is answered alike if what is handed
to a database without tables is plain. A command line works on a connection of its own, so its words
need not be.
-/

namespace BearerAccess

variable {α : Type} {strict : Bool} {around : Surroundings → Surroundings → Prop} {store : Store}
  {w v : World}

/-! ### Database files -/

lemma mem_keys_iff {ι κ : Type} [BEq ι] [LawfulBEq ι] {list : List (ι × κ)} {i : ι} :
    i ∈ list.map (·.1) ↔ (list.lookup i).isSome := by
  rw [← not_iff_not, Bool.not_eq_true, Option.isSome_eq_false_iff, Option.isNone_iff_eq_none,
    List.lookup_eq_none_iff]
  simp only [List.mem_map, not_exists, not_and, bne_iff_ne]
  exact ⟨fun h p hp he => h p hp he.symm, fun h p hp he => h p hp he.symm⟩

lemma lookup_filter_ne {ι κ : Type} [DecidableEq ι] (list : List (ι × κ)) {i j : ι} (h : j ≠ i) :
    (list.filter (·.1 ≠ i)).lookup j = list.lookup j := by
  induction list with
  | nil => rfl
  | cons head rest ih =>
    by_cases hhead : head.1 = i
    · have hne : (j == head.1) = false := by
        rw [hhead]
        exact beq_false_of_ne h
      rw [List.filter_cons_of_neg (by simpa using hhead), ih, List.lookup_cons, hne]
    · rw [List.filter_cons_of_pos (by simpa using hhead), List.lookup_cons, List.lookup_cons, ih]

namespace World

/-- What is found in the files after work in one of them. -/
lemma lookup_withFile {path : Path} {left : Database} (h : w.homePath? ≠ some path)
    (hr : left.reachable = true) (p : Path) : (w.withFile path left).files.lookup p =
      if p = path then some left.tables else w.files.lookup p := by
  rw [withFile, if_neg h, if_pos hr]
  by_cases hp : p = path
  · rw [if_pos hp, hp, List.lookup_cons_self]
  · rw [if_neg hp, List.lookup_cons, beq_false_of_ne hp]
    exact lookup_filter_ne w.files hp

namespace Alike

lemma homePath (h : w.Alike strict around v) : v.homePath? = w.homePath? :=
  homePath_congr h.databaseUrl

lemma databaseIn (h : w.Alike strict Surroundings.Same v) (path : Path) (passed : List Path)
    (opening : Opening) : v.databaseIn path passed opening = w.databaseIn path passed opening := by
  have hfolders : v.folders = w.folders := h.surroundings.folders
  have hfiles : ∀ p, v.files.lookup p = w.files.lookup p := h.surroundings.files
  have hfolder : v.isFolder = w.isFolder := by
    funext p
    rw [isFolder, isFolder, hfolders]
  have hfile : v.isFile = w.isFile := by
    funext p
    have hmem : (p ∈ v.files.map (·.1)) = (p ∈ w.files.map (·.1)) := by
      rw [mem_keys_iff, mem_keys_iff, hfiles]
    simp only [isFile, h.database, h.homePath, hmem]
  simp only [World.databaseIn, canOpen, hfolder, hfile, h.homePath, h.database, hfiles]

lemma withFile (h : w.Alike strict Surroundings.Same v) (path : Path) (left : Database) :
    (w.withFile path left).Alike strict Surroundings.Same (v.withFile path left) := by
  by_cases hhome : w.homePath? = some path
  · rw [World.withFile, World.withFile, h.homePath, if_pos hhome, if_pos hhome]
    exact h.change_database fun db => { db with tables := left.tables, locked := left.locked }
  by_cases hr : left.reachable = true
  · have hlookup : ∀ p, (v.withFile path left).files.lookup p =
        (w.withFile path left).files.lookup p := by
      intro p
      have hfiles : v.files.lookup p = w.files.lookup p := h.surroundings.files p
      rw [lookup_withFile hhome hr, lookup_withFile (h.homePath ▸ hhome) hr, hfiles]
    rw [World.withFile, World.withFile, h.homePath, if_neg hhome, if_neg hhome, if_pos hr,
      if_pos hr] at *
    exact ⟨h.core, h.idle, h.surroundings.folders, hlookup, h.surroundings.manner⟩
  · rw [World.withFile, World.withFile, h.homePath, if_neg hhome, if_neg hhome, if_neg hr,
      if_neg hr]
    exact h

lemma inPlace {a : StateM World α} {keep : World → Database → World}
    (h : w.Alike strict around v) (database : Database)
    (ha : ∀ w v, w.Alike strict around v → SameAnswer strict around (a w) (a v))
    (hkeep : ∀ w v left, w.Alike strict around v → (keep w left).Alike strict around (keep v left)) :
    SameAnswer strict around (World.inPlace database keep a w)
      (World.inPlace database keep a v) := by
  obtain ⟨hanswer, hworld⟩ := ha _ _ (h.with_database database)
  rw [inPlace_apply, inPlace_apply, hworld.database, h.database]
  exact ⟨hanswer, hkeep _ _ _ (hworld.with_database _)⟩

lemma onDatabase {a : StateM World α} (h : w.Alike strict Surroundings.Same v)
    (location : Location) (ha : ∀ w v, w.Alike strict Surroundings.Same v →
      SameAnswer strict Surroundings.Same (a w) (a v)) :
    SameAnswer strict Surroundings.Same (World.onDatabase location a w)
      (World.onDatabase location a v) := by
  have hok : ∀ (database : Database) (keep : World → Database → World),
      (∀ w v left, w.Alike strict Surroundings.Same v →
        (keep w left).Alike strict Surroundings.Same (keep v left)) →
      SameAnswer strict Surroundings.Same
        ((Except.ok <$> World.inPlace database keep a : StateM World (Except Cause α)) w)
        ((Except.ok <$> World.inPlace database keep a : StateM World (Except Cause α)) v) := by
    intro database keep hkeep
    obtain ⟨hanswer, hworld⟩ := h.inPlace database ha hkeep
    exact ⟨congrArg Except.ok hanswer, hworld⟩
  cases location with
  | refused cause => exact ⟨rfl, h⟩
  | closed => exact hok _ _ fun _ _ _ h => h
  | memory writable => exact hok _ _ fun _ _ _ h => h
  | file path passed opening =>
    unfold World.onDatabase
    refine SameAnswer.look ?_
    rw [h.databaseIn]
    exact hok _ _ fun _ _ left h => h.withFile path left

end Alike

end World

/-! ### Command lines -/

lemma retry_alike {probe : StateM World Bool} {note : Nat → StateM World Unit} {wait more : Nat}
    (h : w.Alike strict around v)
    (hprobe : ∀ w v, w.Alike strict around v → SameAnswer strict around (probe w) (probe v))
    (hnote : ∀ n w v, w.Alike strict around v → SameAnswer strict around (note n w) (note n v)) :
    SameAnswer strict around (retry probe note wait more w) (retry probe note wait more v) := by
  induction more generalizing wait w v with
  | zero => exact (hprobe w v h).follow fun _ _ _ _ h₁ => ⟨rfl, h₁⟩
  | succ more ih =>
    refine (hprobe w v h).follow fun found w₁ v₁ _ h₁ => ?_
    cases found with
    | true => exact ⟨rfl, h₁⟩
    | false =>
      refine (hnote wait w₁ v₁ h₁).follow fun _ w₂ v₂ _ h₂ => ?_
      exact (ih h₂).follow fun _ _ _ _ h₃ => ⟨rfl, h₃⟩

namespace CommandLine

lemma create_even {order : Order} : (create store order).Even true around := by
  unfold create
  have hboot : (bootstrapStaffUser store (some order.username)
      (.text Settings.defaultTokenName)).Even true around :=
    fun _ _ h => (bootstrapStaffUser_alike h _ fun _ => .inl rfl).answer trivial
  by_cases htables : order.createTables
  · simp only [if_pos htables]
    exact (Store.changeTables_even _ _).bind fun _ => hboot
  · simp only [if_neg htables]
    exact hboot

lemma carryOut_alike (h : w.Alike true around v) (order : Order) :
    SameAnswer true around (carryOut store order w) (carryOut store order v) := by
  refine SameAnswer.follow (retry_alike h (fun _ _ => Store.isAvailable_alike)
    fun _ w v h => ⟨rfl, h.write⟩) fun waiting w₁ v₁ _ h₁ => ?_
  by_cases hfailed : !waiting.succeeded
  · simp only [if_pos hfailed]
    exact ⟨rfl, h₁⟩
  · simp only [if_neg hfailed]
    refine SameAnswer.follow (a := (create store order).run) (create_even w₁ v₁ h₁)
      fun made w₂ v₂ _ h₂ => ?_
    cases made with
    | ok made => exact ⟨rfl, h₂⟩
    | error failure => exact ⟨rfl, h₂⟩

lemma serve_alike (h : w.Alike strict Surroundings.Same v) (order : Order) :
    SameAnswer strict Surroundings.Same (serve store order w) (serve store order v) := by
  refine SameAnswer.follow (a := (openDatabase order.address poolRequest).run)
    (openDatabase_even _ _ w v h) fun opened w₁ v₁ _ h₁ => ?_
  cases opened with
  | error failure => exact ⟨rfl, h₁⟩
  | ok location =>
    refine SameAnswer.follow (h₁.apart fun w v h => h.onDatabase location fun w v h =>
      carryOut_alike h order) fun carried w₂ v₂ _ h₂ => ?_
    cases carried with
    | ok report => exact ⟨rfl, h₂⟩
    | error cause => exact ⟨rfl, h₂⟩

lemma run_alike (h : w.Alike strict Surroundings.Same v) (words : List Text) (env : Environment) :
    SameAnswer strict Surroundings.Same (run store words env w) (run store words env v) := by
  refine SameAnswer.follow ?_ fun report _ _ _ h₁ => ⟨rfl, h₁⟩
  unfold answer
  cases readProgram words with
  | error halt => exact ⟨rfl, h⟩
  | ok program =>
    obtain ⟨level, rest⟩ := program
    dsimp only
    cases (Level.named level.upperCase).rank? with
    | error failure => exact ⟨rfl, h⟩
    | ok rank =>
      refine SameAnswer.follow ⟨rfl, h.change h.core h.idle rfl rfl⟩ fun _ w₁ v₁ _ h₁ => ?_
      cases readOrder rest env with
      | error halt => exact ⟨rfl, h₁⟩
      | ok order => exact serve_alike h₁ order

end CommandLine

/-! ### Events -/

namespace Event

/-- An event hands plain texts to the database, or meets it furnished: what comes of it does not
depend on what connections have been used for before. A command line has a connection of its own, and
so has an application with a store of its own. -/
def Settled (mishaps : Mishaps) (w : World) : Event → Prop
  | call c => BearerAccess.Settled false c.Plain w.database
  | block script => script.Settled false ⟨mishaps.store⟩ {} w
  | request draft => w.surroundings.manner.ownStore = false →
      BearerAccess.Settled false (PlainHeader draft.authorization) w.database
  | _ => True

/-- What is made of a request that has been served or not. -/
def served : Except Failure Response → Reaction
  | .ok response => .response response
  | .error failure => .answer (.error failure)

lemma request_apply (mishaps : Mishaps) (draft : RequestDraft) (w : World) :
    (request draft).occur mishaps w =
      (served (Application.serve ⟨mishaps.store⟩ ⟨mishaps.others⟩ draft w).1,
        (Application.serve ⟨mishaps.store⟩ ⟨mishaps.others⟩ draft w).2) := by
  have hrun : (request draft).occur mishaps w =
      (match (Application.serve ⟨mishaps.store⟩ ⟨mishaps.others⟩ draft w).1 with
        | .ok response => (return .response response : StateM World Reaction)
        | .error failure => return .answer (.error failure))
        (Application.serve ⟨mishaps.store⟩ ⟨mishaps.others⟩ draft w).2 := rfl
  rw [hrun]
  cases (Application.serve ⟨mishaps.store⟩ ⟨mishaps.others⟩ draft w).1 <;> rfl

/-- Events leave worlds alike that are alike, and are answered alike there if they are settled. -/
lemma occur_alike (h : w.Alike false Surroundings.Same v) (mishaps : Mishaps) (e : Event) :
    SameEnding (e.Settled mishaps w) false Surroundings.Same (e.occur mishaps w)
      (e.occur mishaps v) := by
  have hanswered : ∀ {certain : Prop} {a : Action Answer},
      SameEffect certain false Surroundings.Same (a w) (a v) →
      SameEnding certain false Surroundings.Same (answered a w) (answered a v) :=
    fun ha => ⟨fun hc => congrArg Reaction.answer (ha.1.eq hc), ha.2⟩
  cases e with
  | call c => exact hanswered (Call.perform_alike h id fun _ _ _ h => h.renewed)
  | block script =>
    obtain ⟨hanswer, hworld⟩ : SameEnding (script.Settled false ⟨mishaps.store⟩ {} w) false
        Surroundings.Same (script.run ⟨mishaps.store⟩ w) (script.run ⟨mishaps.store⟩ v) :=
      BlockScript.run_alike (fun _ _ h => h.renewed) h
    refine ⟨fun he => ?_, hworld⟩
    exact congrArg (fun x => Reaction.block x.1 x.2) (hanswer he)
  | install b =>
    refine hanswered (SameAnswer.effect ?_)
    exact (Application.install_even b).bind (fun _ => Action.even_pure _) w v h
  | request draft =>
    obtain ⟨hanswer, hworld⟩ : SameEnding (Settled mishaps w (request draft)) false Surroundings.Same
        (Application.serve ⟨mishaps.store⟩ ⟨mishaps.others⟩ draft w)
        (Application.serve ⟨mishaps.store⟩ ⟨mishaps.others⟩ draft v) :=
      Application.serve_alike h id
    rw [request_apply, request_apply]
    exact ⟨fun he => congrArg served (hanswer he), hworld⟩
  | command words env =>
    refine SameAnswer.ending ?_
    exact SameAnswer.follow (CommandLine.run_alike h words env) fun _ _ _ _ h₁ => ⟨rfl, h₁⟩
  | tick milliseconds =>
    refine hanswered ⟨.same _, h.change ?_ h.idle rfl rfl⟩
    exact congrArg (fun c : Core => { c with clock := c.clock + milliseconds }) h.core
  | entropy draws =>
    refine hanswered ⟨.same _, h.change ?_ h.idle rfl rfl⟩
    exact congrArg (fun c : Core => { c with entropy := c.entropy ++ draws }) h.core
  | lock taken =>
    exact hanswered ⟨.same _, h.change_database fun db => { db with locked := taken }⟩

/-- Two worlds that are alike between events, when no tasks have been given. -/
def Resembles (w v : World) : Prop :=
  w.anew.Alike false Surroundings.Same v.anew

lemma happen_alike (h : Resembles w v) (mishaps : Mishaps) (e : Event) :
    (e.Settled mishaps w.anew → (e.happen mishaps v).1 = (e.happen mishaps w).1) ∧
      Resembles (e.happen mishaps w).2 (e.happen mishaps v).2 := by
  obtain ⟨hreaction, hworld⟩ := occur_alike h mishaps e
  exact ⟨hreaction, congrArg (fun c : Core => { c with tasks := 0 }) hworld.core,
    fun he => (by cases he), hworld.surroundings⟩

/-- Whatever happens, worlds that resemble each other go on to do so. -/
lemma run_resembles {events : List (Mishaps × Event)} (h : Resembles w v) :
    Resembles (run events w).2 (run events v).2 := by
  induction events generalizing w v with
  | nil => exact h
  | cons head rest ih => exact ih (happen_alike h head.1 head.2).2

end Event

end BearerAccess
