import BearerAccess.Proofs.Block

/-!
# Rejected inserts

An insert that the database rejects leaves its session dead, and a dead session stays dead: nothing
can be inserted in it any more and it cannot be committed. An insert whose expiry has no universal
time fails before the session is used and leaves no mark on it.
-/

namespace BearerAccess

variable {α : Type} {store : Store} {s s' : Session} {w w₀ w' : World}

/-! ### Dead sessions -/

namespace Store

/-- What the database makes of an insert in a session decides whether the session dies of it. -/
lemma handOver_of_error {i : Option Stamp → Insertion α} {e : Rejection}
    (h : (handOver i s w).1.1 = .error e) : (handOver i s w).1.2.stage = .dead := by
  rcases hx : handOver i s w with ⟨⟨r, s'⟩, w'⟩
  rw [hx] at h
  obtain ⟨-, -, hdead, -⟩ | ⟨a, f, rows, rows', -, -, -, rfl, -⟩ := handOver_cases hx
  · exact hdead
  · cases h

lemma handOver_of_dead (hdead : s.stage = .dead) (i : Option Stamp → Insertion α) :
    (handOver i s w).1.1 = .error .refused := by
  unfold handOver
  have hstage := World.stage_attach s w
  generalize w.attach s = attached at hstage
  obtain ⟨s₁, w₁⟩ := attached
  dsimp only at hstage ⊢
  unfold Session.execute
  rw [hstage, hdead]

/-- An insert comes to what the database makes of it, unless the session fails before or after. -/
lemma insert_of_error {i : Option Stamp → Insertion α} {e : Rejection}
    (hadd : (store.faults w.tasks).add = none) (hflush : (store.faults w.tasks).flush = none)
    (h : (handOver i s w.assigned).1.1 = .error e) :
    (store.insert i s w).1.1 = .ok (.error (.rejected e)) ∧
      (store.insert i s w).1.2.stage = .dead := by
  have hdead := handOver_of_error h
  unfold insert
  dsimp only
  rw [hadd, hflush, if_neg (by decide), if_neg (by decide)]
  rcases hx : handOver i s w.assigned with ⟨⟨r, s₁⟩, w₁⟩
  rw [hx] at h hdead
  dsimp only at h
  subst h
  exact ⟨rfl, hdead⟩

lemma insert_of_dead (store : Store) (hdead : s.stage = .dead) (i : Option Stamp → Insertion α)
    (w : World) :
    (∃ refusal, (refusal = .unavailable ∨ refusal = .rejected .refused) ∧
        (store.insert i s w).1.1 = .ok (.error refusal)) ∧
      (store.insert i s w).1.2.stage = .dead := by
  cases hadd : (store.faults w.tasks).add with
  | some message =>
    unfold insert
    dsimp only
    rw [hadd, if_pos (by rfl)]
    exact ⟨⟨_, .inl rfl, rfl⟩, hdead⟩
  | none =>
    cases hflush : (store.faults w.tasks).flush with
    | some message =>
      unfold insert
      dsimp only
      rw [hadd, hflush, if_neg (by decide), if_pos (by rfl)]
      exact ⟨⟨_, .inl rfl, rfl⟩, rfl⟩
    | none =>
      obtain ⟨hresult, hstage⟩ :=
        insert_of_error hadd hflush (handOver_of_dead (w := w.assigned) hdead i)
      exact ⟨⟨_, .inr rfl, hresult⟩, hstage⟩

/-- A dead session cannot be committed. -/
lemma finish_of_dead (store : Store) (hdead : s.stage = .dead) (result : Except Failure α)
    (w : World) :
    ∃ f, (store.finish result s w).1 = .error f ∧
      (result.isOk → f.cause = .store .notCommitted) := by
  cases result with
  | error failure =>
    obtain ⟨f, w', hfinish, -⟩ :
        ∃ f w', store.finish (.error failure : Except Failure α) s w = (.error f, w') ∧
          f.cause = failure.cause := finish_error s w
    rw [hfinish]
    exact ⟨f, rfl, nofun⟩
  | ok a =>
    have hcommit : s.commit? (store.faults w.tasks) w.assigned.database = none := by
      unfold Session.commit?
      rw [hdead]
      split <;> rfl
    unfold finish
    dsimp only
    rw [hcommit]
    obtain ⟨f, w', hfails, hcause⟩ := rollBack_error (α := α) (store.faults w.tasks)
      (Cause.store .notCommitted) s (w.assigned.raising ((store.faults w.tasks).commit.map .method))
    dsimp only
    rw [hfails]
    exact ⟨f, rfl, fun _ => hcause⟩

end Store

/-! ### One step -/

/-- What an insert fails with when its session is dead. -/
def BlockStep.deadEnd? : BlockStep → Option Cause
  | insertUser _ _ _ => some (.store .userNotInserted)
  | insertToken _ _ _ _ expiresAt =>
    if expiresAt.all (·.toUniversal?.isSome) then some (.store .tokenNotInserted)
    else some (.range .date)
  | _ => none

/-- The step is an insert that came as far as the database, which rejected it. -/
def Taken.Rejected (store : Store) (t : Taken) : Prop :=
  (store.faults t.world.tasks).add = none ∧ (store.faults t.world.tasks).flush = none ∧
    ∃ reason, match t.step with
      | .insertUser id username isStaff =>
        (Store.handOver (Store.userInsertion id username isStaff) t.session
          t.world.assigned).1.1 = .error reason
      | .insertToken id userId secret name expiresAt =>
        expiresAt.all (·.toUniversal?.isSome) ∧
          (Store.handOver (Store.tokenInsertion id userId secret name (storedExpiry expiresAt))
            t.session t.world.assigned).1.1 = .error reason
      | _ => False

namespace Store

lemma expiryStamp_of_universal {expiresAt : Option DateTime}
    (h : expiresAt.all (·.toUniversal?.isSome)) (s : Session) (w : World) :
    expiryStamp expiresAt s w = ((.ok (storedExpiry expiresAt), s), w) := by
  cases expiresAt with
  | none => rfl
  | some e =>
    obtain ⟨u, hu⟩ := Option.isSome_iff_exists.mp (show e.toUniversal?.isSome from h)
    unfold expiryStamp storedExpiry DateTime.universal
    dsimp only
    rw [Block.map_apply, Option.bind_some, hu]
    rfl

lemma expiryStamp_of_none {e : DateTime} (h : e.toUniversal? = none) (s : Session) (w : World) :
    expiryStamp (some e) s w = ((.error (Cause.range .date), s), w) := by
  unfold expiryStamp DateTime.universal
  dsimp only
  rw [Block.map_apply, h]
  rfl

/-- An insert whose expiry has no universal time leaves the session and the world as they were. -/
lemma insertToken_overflow (store : Store) {e : DateTime} (h : e.toUniversal? = none)
    (id userId secret : Option Text) (name : Label) (s : Session) (w : World) :
    store.insertToken id userId secret name (some e) s w =
      ((.error (Cause.range .date), s), w) := by
  rw [Store.insertToken, Block.bind_apply, expiryStamp_of_none h]

end Store

lemma overflows_of_not_all {expiresAt : Option DateTime}
    (h : expiresAt.all (·.toUniversal?.isSome) = false) :
    ∃ e, expiresAt = some e ∧ e.toUniversal? = none := by
  cases expiresAt with
  | none => cases h
  | some e => exact ⟨e, rfl, by simpa using h⟩

namespace BlockStep

lemma insertUser_of_refusal {id username : Option Text} {isStaff : Flag} {refusal : Store.Refusal}
    (h : (store.insert (Store.userInsertion id username isStaff) s w).1.1 = .ok (.error refusal)) :
    ((insertUser id username isStaff).perform store s w).1 =
      (.error ⟨Store.userFailure username refusal, none⟩,
        (store.insert (Store.userInsertion id username isStaff) s w).1.2) := by
  rcases hx : store.insert (Store.userInsertion id username isStaff) s w with ⟨⟨r, s₁⟩, w₁⟩
  rw [hx] at h
  dsimp only at h
  subst h
  rw [perform, Block.map_apply, Store.insertUser, Block.bind_apply, hx]
  rfl

lemma insertToken_of_refusal {id userId secret : Option Text} {name : Label}
    {expiresAt : Option DateTime} {refusal : Store.Refusal}
    (huniversal : expiresAt.all (·.toUniversal?.isSome))
    (h : (store.insert (Store.tokenInsertion id userId secret name (storedExpiry expiresAt))
      s w).1.1 = .ok (.error refusal)) :
    ((insertToken id userId secret name expiresAt).perform store s w).1 =
      (.error ⟨Store.tokenFailure refusal, none⟩,
        (store.insert (Store.tokenInsertion id userId secret name (storedExpiry expiresAt))
          s w).1.2) := by
  rcases hx : store.insert (Store.tokenInsertion id userId secret name (storedExpiry expiresAt)) s w
    with ⟨⟨r, s₁⟩, w₁⟩
  rw [hx] at h
  dsimp only at h
  subst h
  rw [perform, Block.map_apply, Store.insertToken, Block.bind_apply,
    Store.expiryStamp_of_universal huniversal]
  dsimp only
  rw [Block.bind_apply, hx]
  rfl

lemma insertToken_overflow (store : Store) (id userId secret : Option Text) (name : Label)
    {e : DateTime} (h : e.toUniversal? = none) (s : Session) (w : World) :
    (insertToken id userId secret name (some e)).perform store s w =
      ((.error (Cause.range .date), s), w) := by
  rw [perform, Block.map_apply, store.insertToken_overflow h]
  rfl

/-- A dead session stays dead, and no insert comes through in it. -/
lemma perform_of_dead (store : Store) (hdead : s.stage = .dead) (step : BlockStep) (w : World) :
    (step.perform store s w).1.2.stage = .dead ∧
      ∀ c ∈ step.deadEnd?, (step.perform store s w).1.1 = .error ⟨c, none⟩ := by
  cases step with
  | insertUser id username isStaff =>
    obtain ⟨⟨refusal, hrefusal, hresult⟩, hstage⟩ :=
      store.insert_of_dead hdead (Store.userInsertion id username isStaff) w
    rw [insertUser_of_refusal hresult]
    refine ⟨hstage, ?_⟩
    rintro _ ⟨⟩
    obtain rfl | rfl := hrefusal <;> rfl
  | insertToken id userId secret name expiresAt =>
    cases hexpiry : expiresAt.all (·.toUniversal?.isSome) with
    | true =>
      obtain ⟨⟨refusal, hrefusal, hresult⟩, hstage⟩ := store.insert_of_dead hdead
        (Store.tokenInsertion id userId secret name (storedExpiry expiresAt)) w
      rw [insertToken_of_refusal hexpiry hresult, deadEnd?, if_pos hexpiry]
      refine ⟨hstage, ?_⟩
      rintro _ ⟨⟩
      obtain rfl | rfl := hrefusal <;> rfl
    | false =>
      obtain ⟨e, rfl, hnone⟩ := overflows_of_not_all hexpiry
      rw [insertToken_overflow store id userId secret name hnone, deadEnd?, hexpiry]
      refine ⟨hdead, ?_⟩
      rintro _ ⟨⟩
      rfl
  | raise failure => exact ⟨hdead, fun _ h => by cases h⟩
  | outside call => exact ⟨hdead, fun _ h => by cases h⟩
  | nested call => exact ⟨hdead, fun _ h => by cases h⟩

end BlockStep

/-- A session dies of an insert that the database rejects. -/
lemma Taken.Rejected.perform {t : Taken} (h : t.Rejected store) :
    (∃ f, (t.step.perform store t.session t.world).1.1 = .error f) ∧
      (t.step.perform store t.session t.world).1.2.stage = .dead := by
  obtain ⟨step, s, w, result⟩ := t
  obtain ⟨hadd, hflush, reason, hreason⟩ := h
  cases step with
  | insertUser id username isStaff =>
    obtain ⟨hresult, hstage⟩ := Store.insert_of_error hadd hflush hreason
    rw [BlockStep.insertUser_of_refusal hresult]
    exact ⟨⟨_, rfl⟩, hstage⟩
  | insertToken id userId secret name expiresAt =>
    obtain ⟨huniversal, hreason⟩ := hreason
    obtain ⟨hresult, hstage⟩ := Store.insert_of_error hadd hflush hreason
    rw [BlockStep.insertToken_of_refusal huniversal hresult]
    exact ⟨⟨_, rfl⟩, hstage⟩
  | raise failure => cases hreason
  | outside call => cases hreason
  | nested call => cases hreason

/-! ### The rest of a block -/

namespace BlockScript

/-- A block that is carried out in a dead session leaves it dead, and none of its inserts comes
through. -/
lemma trace_of_dead (store : Store) (hdead : s.stage = .dead) (script : BlockScript) (w : World) :
    (script.perform store s w).1.2.stage = .dead ∧
      ∀ t ∈ script.trace store s w, ∀ c ∈ t.step.deadEnd?, t.result = .error ⟨c, none⟩ := by
  induction script generalizing s w with
  | nil => exact ⟨hdead, fun _ h => by cases h⟩
  | cons head rest ih =>
    obtain ⟨step, caught⟩ := head
    obtain ⟨hstage, hresult⟩ := BlockStep.perform_of_dead store hdead step w
    rcases hstep : step.perform store s w with ⟨⟨r, s₁⟩, w₁⟩
    rw [hstep] at hstage hresult
    by_cases hon : r.isOk ∨ caught || step.isOutside
    · obtain ⟨hperform, htrace⟩ := perform_on rest hstep hon
      obtain ⟨hfinal, hrest⟩ := ih hstage w₁
      rw [hperform, htrace]
      exact ⟨hfinal, List.forall_mem_cons.mpr ⟨hresult, hrest⟩⟩
    · obtain ⟨⟨f, -, hperform⟩, htrace⟩ := perform_off rest hstep hon
      rw [hperform, htrace]
      exact ⟨hstage, List.forall_mem_singleton.mpr hresult⟩

/-- Each step of a block starts where those before it have led, and those after it start where it
leads. -/
lemma trace_split {script : BlockScript} {before after : List Taken} {t : Taken}
    (h : script.trace store s w = before ++ t :: after) :
    ∃ (rest : BlockScript) (s₁ : Session) (w₁ : World),
      t.step.perform store t.session t.world = ((t.result, s₁), w₁) ∧
        after = rest.trace store s₁ w₁ ∧
        (script.perform store s w).1.2 = (rest.perform store s₁ w₁).1.2 := by
  induction script generalizing before s w with
  | nil => simp [trace] at h
  | cons head rest ih =>
    obtain ⟨step, caught⟩ := head
    rcases hstep : step.perform store s w with ⟨⟨r, s₁⟩, w₁⟩
    by_cases hon : r.isOk ∨ caught || step.isOutside
    · obtain ⟨hperform, htrace⟩ := perform_on rest hstep hon
      rw [htrace] at h
      rw [hperform]
      cases before with
      | nil =>
        obtain ⟨rfl, rfl⟩ := List.cons.inj h
        exact ⟨rest, s₁, w₁, hstep, rfl, rfl⟩
      | cons first before => exact ih (List.cons.inj h).2
    · obtain ⟨⟨f, -, hperform⟩, htrace⟩ := perform_off rest hstep hon
      rw [htrace] at h
      rw [hperform]
      cases before with
      | nil =>
        obtain ⟨rfl, rfl⟩ := List.cons.inj h
        exact ⟨[], s₁, w₁, hstep, rfl, rfl⟩
      | cons first before => simp at h

/-- What a transaction has come to when a step of its block begins. -/
lemma trace_progress {script : BlockScript} {earlier own : List Change} {before after : List Taken}
    {t : Taken} (hp : Progress w₀ earlier own s w)
    (h : script.trace store s w = before ++ t :: after) :
    Progress w₀ (earlier ++ before.flatMap Taken.beside) (own ++ before.flatMap (Taken.own store))
      t.session t.world := by
  induction script generalizing before earlier own s w with
  | nil => simp [trace] at h
  | cons head rest ih =>
    obtain ⟨step, caught⟩ := head
    rcases hstep : step.perform store s w with ⟨⟨r, s₁⟩, w₁⟩
    by_cases hon : r.isOk ∨ caught || step.isOutside
    · rw [(perform_on rest hstep hon).2] at h
      cases before with
      | nil =>
        obtain ⟨rfl, -⟩ := List.cons.inj h
        simpa using hp
      | cons first before =>
        obtain ⟨rfl, hrest⟩ := List.cons.inj h
        simpa using ih (BlockStep.perform_progress hp hstep) hrest
    · rw [(perform_off rest hstep hon).2] at h
      cases before with
      | nil =>
        obtain ⟨rfl, -⟩ := List.cons.inj h
        simpa using hp
      | cons first before => simp at h

/-- Wherever a block stands, the stored rows are those that were committed beside it. -/
lemma trace_stored {script : BlockScript} {before after : List Taken} {t : Taken}
    (h : script.trace store {} w = before ++ t :: after) :
    t.world.stored = w.stored.after (before.flatMap Taken.beside) := by
  simpa using (trace_progress (Progress.start w) h).stored

/-- A caught step that changes neither the session nor the world might as well not be there. -/
lemma perform_without {step : BlockStep} {f : Failure}
    (hstep : ∀ s w, step.perform store s w = ((.error f, s), w)) (before after : BlockScript)
    (s : Session) (w : World) :
    let ((((results, ending), s₁), w₁)) :=
      (before ++ (step, true) :: after : BlockScript).perform store s w
    let ((((results', ending'), s₁'), w₁')) := (before ++ after : BlockScript).perform store s w
    ending = ending' ∧ s₁ = s₁' ∧ w₁ = w₁' ∧ results' = results.eraseIdx before.length ∧
      ∀ r ∈ results[before.length]?, r = .error f := by
  induction before generalizing s w with
  | nil =>
    have hon : (Except.error f : Except Failure Answer).isOk ∨ true || step.isOutside :=
      .inr (Bool.true_or _)
    obtain ⟨hperform, -⟩ := perform_on after (hstep s w) hon
    rw [List.nil_append, List.nil_append, hperform]
    refine ⟨rfl, rfl, rfl, rfl, ?_⟩
    rintro _ ⟨⟩
    rfl
  | cons head before ih =>
    obtain ⟨first, caught⟩ := head
    rcases hfirst : first.perform store s w with ⟨⟨r, s₁⟩, w₁⟩
    rw [List.cons_append, List.cons_append]
    by_cases hon : r.isOk ∨ caught || first.isOutside
    · rw [(perform_on _ hfirst hon).1, (perform_on _ hfirst hon).1]
      obtain ⟨hending, hsession, hworld, hresults, hthere⟩ := ih s₁ w₁
      exact ⟨hending, hsession, hworld, congrArg (r :: ·) hresults, hthere⟩
    · obtain ⟨f₁, rfl, hperform⟩ := (perform_off (before ++ (step, true) :: after) hfirst hon).1
      obtain ⟨f₂, hf₂, hperform'⟩ := (perform_off (before ++ after) hfirst hon).1
      cases hf₂
      rw [hperform, hperform']
      exact ⟨rfl, rfl, rfl, rfl, fun _ h => by simp at h⟩

/-- A rejected insert spoils its block, also if its failure is caught: no later insert comes through,
the block cannot be committed, and none of its rows is ever stored, for at each of its steps and
after it the stored rows are those that have been committed beside it. An insert whose expiry has no
universal time spoils nothing: all else comes to what it would come to without it. -/
theorem run_rejected (store : Store) (w : World) :
    (∀ (script : BlockScript) (before after : List Taken) (failed : Taken),
      script.trace store {} w = before ++ failed :: after → failed.Rejected store →
        (∃ f, failed.result = .error f) ∧
        (∀ t ∈ after, ∀ c ∈ t.step.deadEnd?, t.result = .error ⟨c, none⟩) ∧
        (∃ f, (script.run store w).1.2 = .error f ∧
          ((script.perform store {} w).1.1.2 = .ok () → f.cause = .store .notCommitted)) ∧
        (∀ earlier t later, script.trace store {} w = earlier ++ t :: later →
          t.world.stored = w.stored.after (earlier.flatMap Taken.beside)) ∧
        (script.run store w).2.stored =
          w.stored.after ((script.trace store {} w).flatMap Taken.beside)) ∧
    ∀ (before after : BlockScript) (id userId secret : Option Text) (name : Label) (e : DateTime),
      e.toUniversal? = none →
        let ((results, outcome), w₁) :=
          (before ++ (.insertToken id userId secret name (some e), true) :: after : BlockScript).run
            store w
        let ((results', outcome'), w₁') := (before ++ after : BlockScript).run store w
        outcome = outcome' ∧ w₁ = w₁' ∧ results' = results.eraseIdx before.length ∧
          ∀ r ∈ results[before.length]?, r = .error (Cause.range .date) := by
  refine ⟨fun script before after failed htrace hfailed => ?_,
    fun before after id userId secret name e he => ?_⟩
  · obtain ⟨rest, s₁, w₁, hstep, rfl, hfinal⟩ := trace_split htrace
    obtain ⟨hfails, hdead⟩ := hfailed.perform
    rw [hstep] at hfails hdead
    obtain ⟨hlast, hlater⟩ := trace_of_dead store hdead rest w₁
    rw [← hfinal] at hlast
    rcases hrun : script.run store w with ⟨⟨results, outcome⟩, w'⟩
    obtain ⟨-, hcommits⟩ := run_commits hrun
    obtain ⟨f, hf, hcause⟩ := store.finish_of_dead hlast (script.perform store {} w).1.1.2
      (script.perform store {} w).2
    have houtcome : outcome = .error f := by
      rw [← hf]
      exact (congrArg (·.1.2) hrun).symm
    subst houtcome
    refine ⟨hfails, hlater, ⟨f, rfl, fun hok => hcause (by rw [hok]; rfl)⟩,
      fun _ _ _ => trace_stored, ?_⟩
    simpa [changes, changesOf] using hcommits.stored
  · have hwithout := perform_without (BlockStep.insertToken_overflow store id userId secret name he)
      before after {} w
    unfold run
    rcases hwith : perform store
      (before ++ (.insertToken id userId secret name (some e), true) :: after) {} w
      with ⟨⟨⟨results, ending⟩, s₁⟩, w₁⟩
    rcases hsans : perform store (before ++ after) {} w with ⟨⟨⟨results', ending'⟩, s₁'⟩, w₁'⟩
    rw [hwith, hsans] at hwithout
    obtain ⟨rfl, rfl, rfl, hresults, hthere⟩ := hwithout
    exact ⟨rfl, rfl, hresults, hthere⟩

/-- A step that inserts Ann. -/
def addAnn : BlockStep :=
  .insertUser (some (Text.ofString "a")) (some (Text.ofString "ann")) .unset

/-- A step that is to insert a user without a name. -/
def addNobody : BlockStep := .insertUser (some (Text.ofString "b")) none .unset

/-- The beginning of the first year, by a clock that is an hour ahead. -/
def beforeYears : DateTime := ⟨1, 1, 1, 0, 0, 0, 0, some 3600000000⟩

theorem run_rejected_nobody :
    (∃ f, (run {} [(addAnn, true), (addNobody, true)] {}).1.2 = .error f ∧
        f.cause = .store .notCommitted) ∧
      (run {} [(addAnn, true), (addNobody, true)] {}).2.stored = {} ∧
      (run {} [(.insertToken none none none .missing (some beforeYears), true), (addAnn, true)]
        {}).1.2 = .ok () := by
  obtain ⟨hspoiled, hoverflow⟩ := run_rejected {} {}
  obtain ⟨-, -, ⟨f, hf, hcause⟩, -, hstored⟩ :=
    hspoiled [(addAnn, true), (addNobody, true)] [_] [] _ rfl ⟨rfl, rfl, _, rfl⟩
  obtain ⟨houtcome, -⟩ := hoverflow [] [(addAnn, true)] none none none .missing beforeYears (by decide)
  exact ⟨⟨f, hf, hcause rfl⟩, hstored.trans rfl, houtcome.trans rfl⟩

end BlockScript

end BearerAccess
