import BearerAccess.Proofs.Kept
import BearerAccess.Proofs.Lookup
import BearerAccess.Proofs.Told

/-!
# Failures without a trace

What ends in an error leaves the stored users and tokens as they were, and later events are answered
as if it had not happened. A command line that fails may have made tables without rows, if it was to
make tables, and the file that they belong to.
-/

namespace BearerAccess

variable {store : Store} {made : Prop} {w w' : World}

/-! ### Calls and requests -/

/-- A call that fails leaves all but the log, the draws and the connections as it was. -/
lemma Call.perform_failed {c : Call} {f : Failure} (h : c.perform store w = (.error f, w')) :
    w.Beside w' ∧ w'.database = w.database := by
  have hg := perform_error_ground h
  have hc : c ≠ .disconnect := by
    rintro rfl
    cases h
  have hs : (c.perform store w).2.surroundings = w.surroundings := surroundings_perform hc w
  rw [h] at hs
  exact ⟨.of_ground hg hs, World.database_of_ground hg⟩

/-- A world is kept if no more is made in it than the application that there would have been. -/
lemma World.kept_of_application {a : Application} (hg : w'.ground = w.ground)
    (hmanner : a.manner = w.surroundings.manner)
    (hs : w'.surroundings = { w.surroundings with application := some a }) : w.Kept made w' where
  clock := clock_of_ground hg
  spelling := congrArg Ground.spelling hg
  databaseUrl := congrArg Ground.databaseUrl hg
  renewals := congrArg Surroundings.renewals hs
  folders := congrArg Surroundings.folders hs
  manner := by
    rw [hs]
    exact hmanner
  database := .inl (database_of_ground hg)
  files path := .inl (congrArg (·.files.lookup path) hs)

/-- A request that is not served, or is answered with the status of an error, has made no more than
the application that there would have been. -/
lemma Application.serve_failed {given own : Store} {draft : RequestDraft}
    {x : Except Failure Response} (h : serve given own draft w = (x, w'))
    (hx : ∀ response, x = .ok response → 400 ≤ response.status) :
    w'.ground = w.ground ∧ ∃ a : Application, a.manner = w.surroundings.manner ∧
      w'.surroundings = { w.surroundings with application := some a } := by
  obtain ⟨a, threshold, hcurrent, hmanner⟩ := current_apply w
  unfold serve at h
  rw [Action.bind_apply, hcurrent] at h
  dsimp only at h
  obtain ⟨f, hsent, rfl⟩ | ⟨r, w₁, hsent, hlast⟩ := Action.bind_cases h
  · rw [Action.liftExcept_apply] at hsent
    obtain ⟨-, rfl⟩ := Prod.mk.inj hsent
    exact ⟨rfl, a, hmanner, rfl⟩
  rw [Action.liftExcept_apply] at hsent
  obtain ⟨-, rfl⟩ := Prod.mk.inj hsent
  have hanswered : ∀ (store : Store) (v : World), v.ground = w.ground →
      v.surroundings = { w.surroundings with application := some a } →
      x = .ok (Service.answer store a.settings.tokenName r v).1 →
      (Service.answer store a.settings.tokenName r v).2.ground = w.ground ∧
        (Service.answer store a.settings.tokenName r v).2.surroundings =
          { w.surroundings with application := some a } := by
    intro store v hg hs he
    rw [Service.surroundings_answer, hs]
    rcases hanswer : Service.answer store a.settings.tokenName r v with ⟨response, w₂⟩
    rw [hanswer] at he
    exact ⟨(Service.answer_told hanswer (hx response he)).trans hg, rfl⟩
  by_cases hown : a.ownStore
  · simp only [if_pos hown] at hlast
    obtain ⟨hx', rfl⟩ := Prod.mk.inj hlast
    obtain ⟨hg, hs⟩ := hanswered own { w with threshold, application := some a, idle := [] } rfl rfl
      hx'.symm
    exact ⟨hg, a, hmanner, hs⟩
  · simp only [if_neg hown] at hlast
    obtain ⟨hx', rfl⟩ := Prod.mk.inj hlast
    obtain ⟨hg, hs⟩ := hanswered given { w with threshold, application := some a } rfl rfl hx'.symm
    exact ⟨hg, a, hmanner, hs⟩

/-! ### Events -/

namespace Event

/-- An event has ended in an error: a call has failed, a request has not been served or is answered
with the status of an error, a command line has an exit code other than zero. -/
def Failed : Event → Reaction → Prop
  | call _, .answer (.error _) | request _, .answer (.error _) => True
  | request _, .response r => 400 ≤ r.status
  | command _ _, .report r => r.exitCode ≠ 0
  | _, _ => False

/-- An event that fails may leave tables: it is a command line that is to make them. -/
def LeavesTables : Event → Prop
  | command words env => ∃ order ∈ CommandLine.order? words env, order.createTables = true
  | _ => False

lemma occur_failed {mishaps : Mishaps} {e : Event} {reaction : Reaction}
    (h : e.occur mishaps w = (reaction, w')) (hfailed : e.Failed reaction) :
    w.Kept e.LeavesTables w' ∧ ((∀ words env, e ≠ command words env) →
      w'.database = w.database ∧ w'.files = w.files) := by
  cases e with
  | call c =>
    rcases hperform : c.perform ⟨mishaps.store⟩ w with ⟨f | a, w₁⟩
    · have hrun : (call c).occur mishaps w = (.answer (.error f), w₁) :=
        congrArg (fun x : Except Failure Answer × World => (Reaction.answer x.1, x.2)) hperform
      rw [hrun] at h
      cases h
      obtain ⟨hbeside, hdb⟩ := Call.perform_failed hperform
      exact ⟨hbeside.kept (.inl hdb),
        fun _ => ⟨hdb, congrArg Surroundings.files hbeside.surroundings⟩⟩
    · have hrun : (call c).occur mishaps w = (.answer (.ok a), w₁) :=
        congrArg (fun x : Except Failure Answer × World => (Reaction.answer x.1, x.2)) hperform
      rw [hrun] at h
      cases h
      exact hfailed.elim
  | request draft =>
    rcases hserve : Application.serve ⟨mishaps.store⟩ ⟨mishaps.others⟩ draft w with ⟨x, w₁⟩
    rw [request_apply, hserve] at h
    cases h
    have hx : ∀ response, x = .ok response → 400 ≤ response.status := by
      rintro _ rfl
      exact hfailed
    obtain ⟨hg, a, hmanner, hs⟩ := Application.serve_failed hserve hx
    exact ⟨World.kept_of_application hg hmanner hs,
      fun _ => ⟨World.database_of_ground hg, congrArg Surroundings.files hs⟩⟩
  | command words env =>
    obtain ⟨report, hrun, rfl⟩ := occur_command h
    exact ⟨CommandLine.run_failed hrun hfailed, fun hne => absurd rfl (hne words env)⟩
  | block script => exact hfailed.elim
  | install b => exact hfailed.elim
  | tick milliseconds => exact hfailed.elim
  | entropy draws => exact hfailed.elim
  | lock taken => exact hfailed.elim

/-- Whether a world has been kept or is put together again, what comes is answered alike. -/
lemma resembles_of_kept (h : w.Kept made w') {files : List (Path × Option Tables)}
    (hfiles : ∀ path, files.lookup path = w'.files.lookup path) :
    Resembles w' { w with
      entropy := w'.entropy, draws := w'.draws, database := w'.database, files } := by
  refine ⟨?_, fun he => (by cases he), h.folders.symm, hfiles, h.manner.symm⟩
  dsimp only [World.core, World.anew]
  rw [h.clock, h.databaseUrl, h.renewals, h.spelling]

/-- Failures leave no trace. If a call, a request or a command line ends in an error, then the stored
users and tokens are those from before; so is all else but the log, the draws and the connections,
except that a command line may have made a file, and tables without rows if it was to make tables. So
whatever happens later is answered as if it had not happened, on the draws that are left. The
exception is a text that cannot be handed to a database that can be reached but lacks its tables: there
the failure tells whether the statement has been prepared before. -/
theorem failed_without_trace {mishaps : Mishaps} {e : Event} {reaction : Reaction}
    (h : e.happen mishaps w = (reaction, w')) (hfailed : e.Failed reaction) :
    w'.stored = w.stored ∧ w.Kept e.LeavesTables w' ∧
      ((∀ words env, e ≠ command words env) → w'.database = w.database ∧ w'.files = w.files) ∧
      ∀ (files : List (Path × Option Tables)) (between : List (Mishaps × Event))
        (mishaps' : Mishaps) (next : Event), (∀ path, files.lookup path = w'.files.lookup path) →
          next.Settled mishaps' (run between w').2.anew →
          (next.happen mishaps' (run between w').2).1 =
            (next.happen mishaps' (run between { w with
              entropy := w'.entropy, draws := w'.draws, database := w'.database, files }).2).1 := by
  obtain ⟨hoccurred, hexact⟩ := occur_failed h hfailed
  have hkept : w.Kept e.LeavesTables w' := hoccurred.congr rfl rfl rfl rfl
  refine ⟨hkept.database.stored, hkept, hexact, fun files between mishaps' next hfiles => ?_⟩
  have hresembles : Resembles (run between w').2 (run between { w with
      entropy := w'.entropy, draws := w'.draws, database := w'.database, files }).2 :=
    run_resembles (resembles_of_kept hkept hfiles)
  exact fun hsettled => ((happen_alike hresembles mishaps' next).1 hsettled).symm

/-- Commits fail. -/
def commitFails : Mishaps := ({ commit := some "boom" } : Faults)

/-- The token of b is asked about at the end of 2029. -/
def asking : Event := call (.userByToken (some "d") (some (endOfYear 2029)))

/-- When the deletion of a fails in its commit, the token of b speaks for b as it would have. -/
theorem failed_without_trace_moving : ∃ w',
    ((call (.deleteUser (some "a"))).happen commitFails (run moving {}).2 =
        (.answer (.error (Cause.store (.inOperation "delete_user"))), w') ∧
      (call (.deleteUser (some "a"))).Failed
        (.answer (.error (Cause.store (.inOperation "delete_user")))) ∧
      asking.Settled {} w'.anew) ∧
    w'.stored.tokens.length = 1 ∧ w'.stored = (run moving {}).2.stored ∧
      (asking.happen {} w').1 = (asking.happen {} { (run moving {}).2 with
        entropy := w'.entropy, draws := w'.draws }).1 := by
  obtain ⟨w', h⟩ : ∃ w', (call (.deleteUser (some "a"))).happen commitFails (run moving {}).2 =
    (.answer (.error (Cause.store (.inOperation "delete_user"))), w') := ⟨_, rfl⟩
  have hsettled : asking.Settled {} w'.anew := .inr (.inl (plain_ofString "d"))
  obtain ⟨hstored, hkept, hexact, hlater⟩ := failed_without_trace h trivial
  refine ⟨w', ⟨h, trivial, hsettled⟩, ?_, hstored, ?_⟩
  · rw [hstored]
    rfl
  · obtain ⟨hdatabase, hfiles⟩ := hexact fun _ _ => Event.noConfusion
    have hasked := hlater w'.files [] {} asking (fun _ => rfl) hsettled
    rwa [hdatabase, hfiles] at hasked

def cause? : Reaction → Option Cause
  | .answer (.error f) => some f.cause
  | _ => none

def output? : Reaction → Option String
  | .report r => some r.output
  | _ => none

/-- A code point that no text in the database can have. -/
def surrogate : CodePoint := ⟨0xD800, by decide⟩

/-- The tables are given up, and an id is asked for that cannot be handed over. -/
def stranding : List (Mishaps × Event) :=
  [({}, call .dropTables), ({}, call (.userById (some [surrogate])))]

def creating (username address : String) : Event :=
  command ["create-staff-user", "--username", username, "--database-url", address] []

/-- A user is created in a file whose address passes another file. -/
def detour : List (Mishaps × Event) :=
  [({}, creating "b" "sqlite:///file:/srv/a.db/x/../../b.db?uri=true")]

/-- The exceptions are needed. A lookup that fails shows in a later lookup in a database without
tables, and a command line that fails has made a file, which cannot be passed for a folder. -/
theorem failed_with_trace :
    (cause? ((call (.userById (some "x"))).happen {} {}).1 = some .noSuchUser ∧
      (run stranding ((call (.userById (some "x"))).happen {} {}).2).1.map cause? =
        [none, some (.unencodable 0 [surrogate])] ∧
      (run stranding {}).1.map cause? = [none, some (.store (.inOperation "get_user_by_id"))]) ∧
    output? ((creating "" "sqlite:////srv/a.db").happen {} {}).1 =
        some "Error: Username is required\n" ∧
      (run detour ((creating "" "sqlite:////srv/a.db").happen {} {}).2).1.map output? =
        [some "Error: is_available: Database is not available\n"] ∧
      (run detour {}).1.map output? =
        [some "Error: transaction: insert_user: Could not insert user\n"] := by
  decide +kernel

end Event

end BearerAccess
