import BearerAccess.Proofs.Creation
import BearerAccess.Proofs.Parts
import BearerAccess.Proofs.Success

/-!
# Taken usernames

An insert of a user tells that the username is taken if a user whom the transaction sees has it, and
only then. It sees the stored rows and those that the block has put before. Where the database would
not take any such user, or the id is taken but the name is not, the insert tells that the user could
not be inserted; else it answers with the row.
-/

namespace BearerAccess

variable {α : Type} {store : Store} {s s' : Session} {w w' : World}

/-! ### Sessions that write -/

/-- A session that writes has the database within reach. -/
def Session.Grounded (s : Session) (w : World) : Prop :=
  s.holdsLock = true → w.database.reachable = true

namespace Block

/-- A part of a block that keeps the database within reach of sessions that write. -/
def Grounded (b : Block α) : Prop :=
  ∀ s w, s.Grounded w → (b s w).1.2.Grounded (b s w).2

lemma composes_grounded : Composes Grounded where
  pure _ _ _ h := h
  fail _ _ _ _ h := h
  bind {α β b g} hb hg s w hs := by
    have h := hb s w hs
    rw [bind_apply]
    rcases hx : b s w with ⟨⟨e | a, s₁⟩, w₁⟩
    · rw [hx] at h
      exact h
    · rw [hx] at h
      exact hg a s₁ w₁ h

end Block

lemma Store.insert_grounded (store : Store) (i : Option Stamp → Insertion α) :
    (store.insert i).Grounded := by
  intro s w hs
  rcases hx : store.insert i s w with ⟨⟨r, s'⟩, w'⟩
  obtain ⟨settled, -, -, -, ⟨e, -, rfl, hg⟩ | ⟨e, -, hdead, -⟩ | ⟨a, f, rows, rows', hsees, hput⟩⟩ :=
    insert_cases hx
  · intro hlock
    rw [World.database_of_ground hg]
    exact hs hlock
  · intro hlock
    rw [Session.holdsLock, hdead] at hlock
    cases hlock
  · intro _
    obtain ⟨-, -, -, -, hg⟩ := hput
    have hsame : w'.database.reachable = w.database.reachable :=
      congrArg (·.database.reachable) hg
    rw [hsame]
    unfold Session.Sees at hsees
    cases hstage : s.stage with
    | fresh =>
      rw [hstage] at hsees
      exact Database.reachable_of_rows hsees.1
    | writing own => exact hs (by rw [Session.holdsLock, hstage])
    | dead =>
      rw [hstage] at hsees
      exact hsees.elim

lemma BlockStep.perform_grounded (store : Store) (step : BlockStep) :
    (step.perform store).Grounded := by
  have hcall (call : Call) : (Block.outside (call.perform store)).Grounded := by
    intro s w hs hlock
    have hc := Call.perform_commits (Prod.eta (call.perform store w)).symm
    exact hc.reachable.trans (hs hlock)
  have hparts := Block.composes_grounded
  cases step with
  | insertUser id username isStaff =>
    exact hparts.map (hparts.insertUser store.insert_grounded id username isStaff) _
  | insertToken id userId secret name expiresAt =>
    exact hparts.map (hparts.insertToken store.insert_grounded id userId secret name expiresAt) _
  | raise failure => exact fun _ _ h => h
  | outside call => exact hcall call
  | nested call => exact hcall call

namespace BlockScript

lemma trace_grounded {script : BlockScript} {before after : List Taken} {t : Taken}
    (hs : s.Grounded w) (h : script.trace store s w = before ++ t :: after) :
    t.session.Grounded t.world := by
  induction script generalizing before s w with
  | nil => simp [trace] at h
  | cons head rest ih =>
    obtain ⟨step, caught⟩ := head
    have hnext := step.perform_grounded store s w hs
    rcases hstep : step.perform store s w with ⟨⟨r, s₁⟩, w₁⟩
    rw [hstep] at hnext
    by_cases hon : r.isOk ∨ caught || step.isOutside
    · rw [(perform_on rest hstep hon).2] at h
      cases before with
      | nil =>
        obtain ⟨rfl, -⟩ := List.cons.inj h
        exact hs
      | cons first before => exact ih hnext (List.cons.inj h).2
    · rw [(perform_off rest hstep hon).2] at h
      cases before with
      | nil =>
        obtain ⟨rfl, -⟩ := List.cons.inj h
        exact hs
      | cons first before => simp at h

end BlockScript

/-! ### What a transaction sees -/

namespace Taken

/-- The rows that the transaction sees when a step begins: those that are stored, and what the steps
before it have put. There are none while the stored rows cannot be read. -/
def visible (store : Store) (before : List Taken) (t : Taken) : Option Tables :=
  t.world.database.rows?.map (·.after (before.flatMap (own store)))

/-- Some user could be inserted with an id and a flag like these: the rows are seen, nobody else keeps
them from being changed, and neither the id nor the flag stands in the way. -/
structure Admits (store : Store) (before : List Taken) (t : Taken) (id : Option Text) (isStaff : Flag)
    (rows : Tables) : Prop where
  visible : t.visible store before = some rows
  unshut : t.world.database.isShut = true → t.session.holdsLock = true
  id : id.isSome = true
  flag : isStaff.stored?.isSome = true

end Taken

/-- What a live session meets is what its transaction sees. -/
lemma BlockScript.sees_iff {script : BlockScript} {before after : List Taken} {t : Taken}
    (h : script.trace store {} w = before ++ t :: after) (halive : t.session.stage ≠ .dead)
    {rows : Tables} : t.session.Sees t.world.database rows ↔
      t.visible store before = some rows ∧
        (t.world.database.isShut = true → t.session.holdsLock = true) := by
  have hcarries := (trace_progress (Progress.start w) h).carries
  have hgrounded := trace_grounded (s := {}) nofun h
  unfold Session.Carries at hcarries
  unfold Session.Grounded at hgrounded
  unfold Session.Sees Taken.visible
  cases hstage : t.session.stage with
  | dead => exact absurd hstage halive
  | fresh =>
    rw [hstage, List.nil_append] at hcarries
    rw [hcarries, Session.holdsLock, hstage]
    cases t.world.database.rows? <;> simp [Tables.after]
  | writing own =>
    rw [hstage, List.nil_append] at hcarries
    have hlock : t.session.holdsLock = true := by rw [Session.holdsLock, hstage]
    obtain ⟨stored, htables, rfl, -⟩ := hcarries
    have hrows : t.world.database.rows? = some stored := by
      rw [Database.rows?, if_pos (hgrounded hlock), htables]
    rw [hrows, hlock]
    simp

/-! ### What an insert comes to -/

namespace Session

/-- Values that cannot be handed over, or a moment that cannot be told, are never put among rows. -/
lemma attempt_spoilt (rows? : Option Tables) (shut known : Bool) {i : Insertion α}
    (h : i.obstacle = none → i.apply = none) :
    ∃ e, attempt rows? shut known i = .error e ∧ (e = .refused ∨ i.obstacle = some e) := by
  unfold attempt
  split
  · exact ⟨_, rfl, .inl rfl⟩
  cases hobstacle : i.obstacle with
  | some e => exact ⟨e, rfl, .inr rfl⟩
  | none =>
    rw [h hobstacle]
    exact ⟨_, rfl, .inl rfl⟩

lemma verdict_spoilt {db : Database} {i : Insertion α} (h : i.obstacle = none → i.apply = none) :
    ∃ e, s.verdict db i = .error e ∧ (e = .refused ∨ i.obstacle = some e) := by
  unfold verdict
  cases s.stage with
  | dead => exact ⟨_, rfl, .inl rfl⟩
  | fresh => exact attempt_spoilt _ _ _ h
  | writing own => exact attempt_spoilt _ _ _ h

end Session

lemma textObstacle?_eq_none_iff {t : Option Text} : textObstacle? t = none ↔ Plain t := by
  refine ⟨fun h x hx => ?_, Plain.no_obstacle⟩
  obtain rfl := hx
  unfold textObstacle? surrogates? at h
  rw [Option.bind_some] at h
  split at h
  · assumption
  · cases h

lemma unencodable_of_textObstacle? {t : Option Text} {e : Rejection} (h : textObstacle? t = some e) :
    ∃ position run, e = .unencodable position run := by
  obtain ⟨found, -, rfl⟩ := Option.map_eq_some_iff.mp h
  exact ⟨_, _, rfl⟩

namespace Store

/-- No method of the session fails in the task of an insert. -/
structure Undisturbed (store : Store) (w : World) : Prop where
  add : (store.faults w.tasks).add = none
  flush : (store.faults w.tasks).flush = none
  refresh : (store.faults w.tasks).refresh = none

variable {id : Option Text} {username : Text} {isStaff : Flag} {name key : String} {flag : Bool}
  {now : Stamp} {rows : Tables}

/-- An insert that no method of the session spoils comes to what the database makes of it. -/
lemma insertUser_fst (h : store.Undisturbed w) (id username : Option Text) (isStaff : Flag) :
    (store.insertUser id username isStaff s w).1.1 =
      (((w.assigned.attach s).1.verdict w.database (userInsertion id username isStaff w.stamp?)).map
        (·.1.toUser)).mapError fun e => (userFailure username (.rejected e) : Failure) := by
  have hverdict := handOver_fst (userInsertion id username isStaff) s w.assigned
  rw [World.database_of_ground (World.ground_attach s w.assigned)] at hverdict
  change _ = Except.map Prod.fst ((w.assigned.attach s).1.verdict w.database
    (userInsertion id username isStaff w.stamp?)) at hverdict
  unfold insertUser insert
  rw [Block.bind_apply]
  dsimp only
  rw [h.add, h.flush, h.refresh, if_neg (by decide), if_neg (by decide)]
  generalize (w.assigned.attach s).1.verdict w.database
    (userInsertion id username isStaff w.stamp?) = verdict at hverdict
  rcases hx : handOver (userInsertion id username isStaff) s w.assigned with ⟨⟨r, s₁⟩, w₁⟩
  rw [hx] at hverdict
  cases verdict with
  | error e =>
    obtain rfl : r = .error e := hverdict
    rfl
  | ok result =>
    obtain rfl : r = .ok result.1 := hverdict
    rfl

lemma obstacle_of_plain (hid : Plain id) (hname : Plain (some username)) (isStaff : Flag)
    (now : Option Stamp) : (userInsertion id (some username) isStaff now).obstacle = none := by
  simp only [userInsertion, List.findSome?, hid.no_obstacle, hname.no_obstacle]

/-- Among the rows that it meets, an insert with values that the database takes finds a taken name
first and a taken id next. -/
lemma insertUser_of_sees (h : store.Undisturbed w) (hname : stored? (some username) = some name)
    (hkey : stored? id = some key) (hflag : isStaff.stored? = some flag)
    (hclock : w.stamp? = some now) (hsees : s.Sees w.database rows) :
    (store.insertUser id (some username) isStaff s w).1.1 =
      if rows.users.any (·.username = name) then .error (Cause.usernameTaken name)
      else if rows.users.any (·.id = key) then .error (Cause.store .userNotInserted)
      else .ok (UserRow.toUser ⟨key, name, flag, now⟩) := by
  have hi : Presentable (userInsertion id (some username) isStaff w.stamp?)
      (·.insertUser ⟨some key, some name, flag⟩ now) := by
    refine ⟨by simp only [userInsertion, hflag, Option.isSome_some], ?_, ?_⟩
    · simp only [userInsertion, List.findSome?, textObstacle?_of_stored hname,
        textObstacle?_of_stored hkey]
    · rw [hclock]
      simp only [userInsertion, hname, hkey, hflag, Option.map_some, Option.getD_some]
  rw [insertUser_fst h, hi.verdict ((Session.sees_congr (World.stage_attach s w.assigned)).mpr hsees),
    Tables.insertUser_eq]
  by_cases hnamed : rows.users.any (·.username = name)
  · rw [if_pos hnamed, if_pos hnamed]
    have htold : userFailure (some username) (.rejected (.violated (.taken "users.username"))) =
        .usernameTaken name := by
      rw [userFailure, hname]
      exact if_pos (by decide +kernel)
    exact congrArg (fun c : Cause => Except.error (c : Failure)) htold
  rw [if_neg hnamed, if_neg hnamed]
  by_cases hknown : rows.users.any (·.id = key)
  · rw [if_pos hknown, if_pos hknown]
    have hother : isUsernameViolation none
        (Text.ofString (Violation.taken "users.id").message) = false := by decide +kernel
    have htold : userFailure (some username) (.rejected (.violated (.taken "users.id"))) =
        .store .userNotInserted := userFailure_of_isFault hother
    exact congrArg (fun c : Cause => Except.error (c : Failure)) htold
  · rw [if_neg hknown, if_neg hknown]
    rfl

/-- An insert whose texts can be handed over fails in the store unless it has an id, its flag can be
stored, and its session meets rows. -/
lemma insertUser_of_refused (h : store.Undisturbed w) (hid : Plain id) (hname : Plain (some username))
    (hrefused : ∀ rows, s.Sees w.database rows → id.isSome = true → isStaff.stored?.isSome = true → False) :
    (store.insertUser id (some username) isStaff s w).1.1 = .error (Cause.store .userNotInserted) := by
  have hsees : ∀ rows, (w.assigned.attach s).1.Sees w.database rows ↔ s.Sees w.database rows :=
    fun _ => Session.sees_congr (World.stage_attach s w.assigned)
  have hobstacle := obstacle_of_plain hid hname isStaff w.stamp?
  rw [insertUser_fst h]
  by_cases hput : ∃ f rows, Presentable (userInsertion id (some username) isStaff w.stamp?) f ∧
      (w.assigned.attach s).1.Sees w.database rows
  · -- Only the id can be missing then, and the database finds that out itself.
    obtain ⟨f, rows, hi, hmeets⟩ := hput
    cases id with
    | some x => exact (hrefused rows ((hsees rows).mp hmeets) rfl hi.storable).elim
    | none =>
      have hf : f rows = .error (.missing "users.id") := by
        have happly := hi.apply
        cases hclock : w.stamp? with
        | none =>
          rw [hclock] at happly
          cases happly
        | some now =>
          rw [hclock] at happly
          obtain rfl := Option.some.inj happly
          rfl
      have hother : isUsernameViolation none
          (Text.ofString (Violation.missing "users.id").message) = false := by decide +kernel
      have htold : userFailure (some username) (.rejected (.violated (.missing "users.id"))) =
          .store .userNotInserted := userFailure_of_isFault hother
      rw [hi.verdict hmeets, hf]
      exact congrArg (fun c : Cause => Except.error (c : Failure)) htold
  · rw [verdict_refused hobstacle fun f rows hi hmeets => hput ⟨f, rows, hi, hmeets⟩]
    rfl

/-- Where a text cannot be handed over, or the clock shows no date, an insert tells nothing about
names. -/
lemma insertUser_of_spoilt (h : store.Undisturbed w)
    (hspoilt : ¬(Plain id ∧ Plain (some username) ∧ w.stamp?.isSome = true)) :
    (store.insertUser id (some username) isStaff s w).1.1 = .error (Cause.store .userNotInserted) ∨
      ∃ position run, (store.insertUser id (some username) isStaff s w).1.1 =
        .error (Cause.unencodable position run) := by
  have hidle : (userInsertion id (some username) isStaff w.stamp?).obstacle = none →
      (userInsertion id (some username) isStaff w.stamp?).apply = none := by
    intro hnone
    have hplain := List.findSome?_eq_none_iff.mp hnone
    have hid := textObstacle?_eq_none_iff.mp (hplain id (by simp))
    have hname := textObstacle?_eq_none_iff.mp (hplain (some username) (by simp))
    cases hclock : w.stamp? with
    | none => rfl
    | some now => exact absurd ⟨hid, hname, by rw [hclock]; rfl⟩ hspoilt
  obtain ⟨e, hverdict, hkind⟩ := Session.verdict_spoilt hidle
  rw [insertUser_fst h, hverdict]
  obtain rfl | hobstacle := hkind
  · exact .inl rfl
  · obtain ⟨t, -, ht⟩ := List.exists_of_findSome?_eq_some hobstacle
    obtain ⟨position, run, rfl⟩ := unencodable_of_textObstacle? ht
    exact .inr ⟨position, run, rfl⟩

end Store

namespace BlockScript

variable {script : BlockScript} {before after : List Taken} {t : Taken} {id : Option Text}
  {username : Text} {isStaff : Flag} {name : String} {now : Stamp} {rows : Tables}

lemma result_of_insertUser (htrace : script.trace store s w = before ++ t :: after)
    (hstep : t.step = .insertUser id (some username) isStaff) :
    t.result = (store.insertUser id (some username) isStaff t.session t.world).1.1.map .user := by
  obtain ⟨rest, s₁, w₁, hperform, -⟩ := trace_split htrace
  rw [hstep, BlockStep.perform, Block.map_apply] at hperform
  exact (congrArg (·.1.1) hperform).symm

lemma insertUser_of_admits (htrace : script.trace store {} w = before ++ t :: after)
    (hstep : t.step = .insertUser id (some username) isStaff) (halive : t.session.stage ≠ .dead)
    (hfaults : store.Undisturbed t.world) (hid : Plain id) (hname : username.toString? = some name)
    (hclock : t.world.stamp? = some now) (hadmits : t.Admits store before id isStaff rows) :
    ∃ key, stored? id = some key ∧ t.result =
      if ∃ u ∈ rows.users, u.username = name then .error (Cause.usernameTaken name)
      else if ∃ u ∈ rows.users, u.id = key then .error (Cause.store .userNotInserted)
      else .ok (.user (UserRow.toUser ⟨key, name, isStaff.stored?.getD false, now⟩)) := by
  obtain ⟨x, rfl⟩ := Option.isSome_iff_exists.mp hadmits.id
  obtain ⟨key, hkey⟩ : ∃ key, stored? (some x) = some key :=
    Option.isSome_iff_exists.mp (hid x rfl)
  obtain ⟨flag, hflag⟩ := Option.isSome_iff_exists.mp hadmits.flag
  have hsees := (sees_iff htrace halive).mpr ⟨hadmits.visible, hadmits.unshut⟩
  refine ⟨key, hkey, ?_⟩
  rw [result_of_insertUser htrace hstep,
    Store.insertUser_of_sees hfaults hname hkey hflag hclock hsees, hflag, Option.getD_some]
  simp only [List.any_eq_true, decide_eq_true_eq]
  split
  · rfl
  split <;> rfl

lemma insertUser_of_not_admits (htrace : script.trace store {} w = before ++ t :: after)
    (hstep : t.step = .insertUser id (some username) isStaff) (halive : t.session.stage ≠ .dead)
    (hfaults : store.Undisturbed t.world) (hid : Plain id) (hname : Plain (some username))
    (hadmits : ¬∃ rows, t.Admits store before id isStaff rows) :
    t.result = .error (Cause.store .userNotInserted) := by
  rw [result_of_insertUser htrace hstep, Store.insertUser_of_refused hfaults hid hname]
  · rfl
  · intro rows hsees hthere hflag
    obtain ⟨hvisible, hunshut⟩ := (sees_iff htrace halive).mp hsees
    exact hadmits ⟨rows, hvisible, hunshut, hthere, hflag⟩

/-- What the insert of a user comes to in a live transaction, if no method of its session fails. Where
the texts can be handed over and the clock shows a date, it tells that the name is taken if some user
could be inserted but a user whom the transaction sees has that very name, whether or not the id is
taken too. It tells that the user could not be inserted if no user could be, or the name is free and
the id is taken. Else it answers with the row. Where a text cannot be handed over or the clock shows no
date, it fails and tells nothing about names. -/
theorem insertUser_verdict (store : Store) (script : BlockScript) (w : World)
    (htrace : script.trace store {} w = before ++ t :: after)
    (hstep : t.step = .insertUser id (some username) isStaff) (halive : t.session.stage ≠ .dead)
    (hfaults : store.Undisturbed t.world) :
    (∀ name now, Plain id → username.toString? = some name → t.world.stamp? = some now →
      (t.result = .error (Cause.usernameTaken name) ↔
        ∃ rows, t.Admits store before id isStaff rows ∧ ∃ u ∈ rows.users, u.username = name) ∧
      (t.result = .error (Cause.store .userNotInserted) ↔
        (¬∃ rows, t.Admits store before id isStaff rows) ∨
          ∃ rows, t.Admits store before id isStaff rows ∧ (∀ u ∈ rows.users, u.username ≠ name) ∧
            ∃ u ∈ rows.users, some u.id = stored? id) ∧
      ∀ rows, t.Admits store before id isStaff rows → (∀ u ∈ rows.users, u.username ≠ name) →
        (∀ u ∈ rows.users, some u.id ≠ stored? id) → ∃ key, stored? id = some key ∧
          t.result = .ok (.user (UserRow.toUser ⟨key, name, isStaff.stored?.getD false, now⟩))) ∧
    (¬(Plain id ∧ Plain (some username) ∧ t.world.stamp?.isSome = true) →
      t.result = .error (Cause.store .userNotInserted) ∨
        ∃ position run, t.result = .error (Cause.unencodable position run)) := by
  refine ⟨fun name now hid hname hclock => ?_, fun hspoilt => ?_⟩
  · by_cases hadmits : ∃ rows, t.Admits store before id isStaff rows
    · obtain ⟨rows, hrows⟩ := hadmits
      obtain ⟨key, hkey, hresult⟩ :=
        insertUser_of_admits htrace hstep halive hfaults hid hname hclock hrows
      have hsame : ∀ rows', t.Admits store before id isStaff rows' → rows' = rows := fun rows' h =>
        Option.some.inj (h.visible.symm.trans hrows.visible)
      rw [hresult, hkey]
      simp only [Option.some.injEq]
      by_cases hnamed : ∃ u ∈ rows.users, u.username = name
      · rw [if_pos hnamed]
        obtain ⟨u, hu, hu'⟩ := hnamed
        refine ⟨iff_of_true rfl ⟨rows, hrows, u, hu, hu'⟩, iff_of_false nofun ?_, ?_⟩
        · rintro (hnone | ⟨rows', h, hfree, -⟩)
          · exact hnone ⟨rows, hrows⟩
          · obtain rfl := hsame rows' h
            exact hfree u hu hu'
        · intro rows' h hfree
          obtain rfl := hsame rows' h
          exact absurd hu' (hfree u hu)
      rw [if_neg hnamed]
      have hfree : ∀ u ∈ rows.users, u.username ≠ name := fun u hu hu' => hnamed ⟨u, hu, hu'⟩
      have hnot : ¬∃ rows, t.Admits store before id isStaff rows ∧
          ∃ u ∈ rows.users, u.username = name := by
        rintro ⟨rows', h, htaken⟩
        obtain rfl := hsame rows' h
        exact hnamed htaken
      by_cases hknown : ∃ u ∈ rows.users, u.id = key
      · rw [if_pos hknown]
        refine ⟨iff_of_false nofun hnot, iff_of_true rfl (.inr ⟨rows, hrows, hfree, hknown⟩), ?_⟩
        intro rows' h _ hunknown
        obtain rfl := hsame rows' h
        obtain ⟨u, hu, hu'⟩ := hknown
        exact absurd (congrArg some hu') (hunknown u hu)
      · rw [if_neg hknown]
        refine ⟨iff_of_false nofun hnot, iff_of_false nofun ?_, fun _ _ _ _ => ⟨key, rfl, rfl⟩⟩
        rintro (hnone | ⟨rows', h, -, htaken⟩)
        · exact hnone ⟨rows, hrows⟩
        · obtain rfl := hsame rows' h
          exact hknown htaken
    · have hname' : Plain (some username) := by
        rintro _ ⟨⟩
        rw [hname, Option.isSome_some]
      rw [insertUser_of_not_admits htrace hstep halive hfaults hid hname' hadmits]
      refine ⟨iff_of_false nofun ?_, iff_of_true rfl (.inl hadmits), ?_⟩
      · rintro ⟨rows, h, -⟩
        exact hadmits ⟨rows, h⟩
      · intro rows h
        exact absurd ⟨rows, h⟩ hadmits
  · rw [result_of_insertUser htrace hstep]
    obtain h | ⟨position, run, h⟩ := Store.insertUser_of_spoilt hfaults hspoilt
    · rw [h]
      exact .inl rfl
    · rw [h]
      exact .inr ⟨position, run, rfl⟩

/-- A block that inserts Ann twice. -/
def twice : BlockScript := [(addAnn, false), (addAnn, true)]

/-- Ann is taken for the block that has inserted her, though her id is taken too. -/
theorem insertUser_verdict_twice :
    ∃ first second, trace {} twice {} {} = [first] ++ second :: [] ∧
      second.result = .error (Cause.usernameTaken "ann") := by
  refine ⟨_, _, rfl, ?_⟩
  obtain ⟨htold, -⟩ := insertUser_verdict {} twice {}
    (show trace {} twice {} {} = [_] ++ _ :: [] from rfl) rfl (by decide) ⟨rfl, rfl, rfl⟩
  obtain ⟨htaken, -⟩ := htold "ann" _ (plain_ofString "a") (Text.toString?_ofString "ann") rfl
  exact htaken.mpr ⟨_, ⟨rfl, fun _ => rfl, rfl, rfl⟩, _, List.mem_singleton_self _, rfl⟩

/-- A code point that stands for nothing by itself. -/
def half : CodePoint := ⟨0xD800, Nat.le_of_ble_eq_true rfl⟩

/-- A block that inserts a user whose name is a surrogate. -/
def illegible : BlockScript :=
  [(.insertUser (some (Text.ofString "a")) (some [half]) .unset, false)]

/-- A name that is free is not always inserted, though some user could be: it may be that it cannot be
handed over, or that the clock shows a moment after the last year. -/
theorem insertUser_fails_free :
    (∃ t, trace {} illegible {} {} = [t] ∧ t.session.stage ≠ .dead ∧
      t.Admits {} [] (some (Text.ofString "a")) .unset {} ∧
      t.result = .error (Cause.unencodable 0 [half])) ∧
    ∃ t, trace {} [(addAnn, false)] {} { clock := 253402300800000 } = [t] ∧
      t.session.stage ≠ .dead ∧ t.Admits {} [] (some (Text.ofString "a")) .unset {} ∧
      t.result = .error (Cause.store .userNotInserted) :=
  ⟨⟨_, rfl, by decide, ⟨rfl, nofun, rfl, rfl⟩, rfl⟩, ⟨_, rfl, by decide, ⟨rfl, nofun, rfl, rfl⟩, rfl⟩⟩

end BlockScript

end BearerAccess
