import BearerAccess.Http.Application
import BearerAccess.Proofs.Request

/-!
# Applications

Making an application commits nothing, and what it serves commits what can be told from its
responses, whichever store it works on.
-/

namespace BearerAccess

variable {w w' : World}

namespace Action

lemma quiet_modify {f : World → World} (hf : ∀ w, (f w).ground = w.ground) :
    (modify f : Action PUnit).Quiet := hf

end Action

lemma openDatabase_quiet (address : Text) (request : PoolRequest) :
    (openDatabase address request).Quiet := by
  refine .bind ?_ fun opened => Action.quiet_liftExcept _
  refine (Action.quiet_liftExcept _).bind fun url => ?_
  refine (Action.quiet_liftExcept _).bind fun options => ?_
  refine (Action.quiet_liftExcept _).bind fun shown => ?_
  exact (Action.quiet_writeLog _ _ _).bind fun _ => Action.quiet_pure _

namespace Application

lemma make_still (b : Blueprint) : (make b).Still := by
  refine Action.quiet_get.still.bind fun w => ?_
  refine (Action.quiet_liftExcept _).still.bind fun settings => ?_
  refine (Action.quiet_liftExcept _).still.bind fun rank => ?_
  refine .bind (Action.quiet_modify ?_).still fun _ => ?_
  · exact fun _ => rfl
  have hlast : (if settings.createTables then Store.createTables >>= fun _ =>
      pure ⟨settings, b.hasStore⟩ else pure ⟨settings, b.hasStore⟩ : Action Application).Still := by
    by_cases htables : settings.createTables
    · rw [if_pos htables]
      exact Store.createTables_still.bind fun _ => (Action.quiet_pure _).still
    · rw [if_neg htables]
      exact (Action.quiet_pure _).still
  by_cases hstore : b.hasStore
  · simp only [if_pos hstore]
    exact (openDatabase_quiet _ _).still.bind fun _ => hlast
  · simp only [if_neg hstore]
    exact hlast

lemma install_still (b : Blueprint) : (install b).Still := by
  refine .bind (Action.quiet_modify ?_).still fun _ => ?_
  · exact fun _ => rfl
  refine (make_still b).bind fun application => ?_
  refine .bind (Action.quiet_modify ?_).still fun _ => (Action.quiet_pure _).still
  exact fun _ => rfl

lemma make_ok {b : Blueprint} {application : Application} (h : make b w = (.ok application, w')) :
    b.settings w.databaseUrl = .ok application.settings := by
  obtain ⟨e, -, he⟩ | ⟨w₀, w₁, hget, h₁⟩ := Action.bind_cases h
  · cases he
  cases hget
  obtain ⟨e, -, he⟩ | ⟨settings, w₂, hread, h₂⟩ := Action.bind_cases h₁
  · cases he
  rw [Action.liftExcept_apply] at hread
  obtain ⟨hsettings, rfl⟩ := Prod.mk.inj hread
  obtain ⟨e, -, he⟩ | ⟨rank, w₃, -, h₃⟩ := Action.bind_cases h₂
  · cases he
  obtain ⟨e, -, he⟩ | ⟨u, w₄, -, h₄⟩ := Action.bind_cases h₃
  · cases he
  have hlast : ∀ v : World, (if settings.createTables then Store.createTables >>= fun _ =>
      pure ⟨settings, b.hasStore⟩ else pure ⟨settings, b.hasStore⟩ : Action Application) v =
      (.ok application, w') → settings = application.settings := by
    intro v hv
    by_cases htables : settings.createTables
    · rw [if_pos htables] at hv
      obtain ⟨e, -, he⟩ | ⟨_, _, -, hend⟩ := Action.bind_cases hv
      · cases he
      · cases hend
        rfl
    · rw [if_neg htables] at hv
      cases hv
      rfl
  rw [hsettings]
  by_cases hstore : b.hasStore
  · simp only [if_pos hstore] at h₄
    obtain ⟨e, -, he⟩ | ⟨_, _, -, h₅⟩ := Action.bind_cases h₄
    · cases he
    · exact congrArg Except.ok (hlast _ h₅)
  · simp only [if_neg hstore] at h₄
    exact congrArg Except.ok (hlast _ h₄)

end Application

lemma Settings.serverName_read {env : Environment} {s : Settings} (h : Settings.read env = .ok s) :
    s.serverName = (env.lookup "SERVER_NAME").map .text := by
  obtain ⟨_, -, h⟩ := Tables.bind_ok h
  obtain ⟨_, -, h⟩ := Tables.bind_ok h
  obtain ⟨_, -, h⟩ := Tables.bind_ok h
  obtain ⟨_, -, h⟩ := Tables.bind_ok h
  cases h
  rfl

namespace Application

def nameIn (w : World) : Option ServerName := w.application.bind (·.settings.serverName)

lemma serverName_default {application : Application}
    (h : install (.givenStore {}) w = (.ok application, w')) :
    application.settings.serverName = none := by
  obtain ⟨e, -, he⟩ | ⟨_, w₁, -, hrest⟩ := Action.bind_cases h
  · cases he
  obtain ⟨e, -, he⟩ | ⟨made, w₂, hmade, hend⟩ := Action.bind_cases hrest
  · cases he
  obtain ⟨e, -, he⟩ | ⟨_, w₃, -, hlast⟩ := Action.bind_cases hend
  · cases he
  cases hlast
  have hsettings := make_ok hmade
  unfold Blueprint.settings at hsettings
  cases hread : Settings.read [("DATABASE_URL", w₁.databaseUrl)] with
  | error f =>
    rw [hread] at hsettings
    cases hsettings
  | ok settings =>
    rw [hread] at hsettings
    rw [← Except.ok.inj hsettings]
    exact Settings.serverName_read hread

end Application

/-- The changes that a request has made, told from the response, where the service goes by a name. -/
def RequestDraft.changes (now : Option Stamp) (server : Option ServerName) (draft : RequestDraft)
    (response : Response) : List Change :=
  match draft.sent server with
  | .ok request => request.changes now response
  | .error _ => []

lemma RequestDraft.parts_of_sent {draft : RequestDraft} {server : Option ServerName} {r : Request}
    (h : draft.sent server = .ok r) : r.toRequestParts = draft.toRequestParts := by
  obtain ⟨target, -, h⟩ := Tables.bind_ok h
  obtain ⟨inner, -, h⟩ := Tables.bind_ok h
  obtain ⟨path, -, h⟩ := Tables.bind_ok h
  obtain ⟨place, -, h⟩ := Tables.bind_ok h
  obtain ⟨site, -, h⟩ := Tables.bind_ok h
  obtain ⟨ascii, -, h⟩ := Tables.bind_ok h
  obtain ⟨home, -, h⟩ := Tables.bind_ok h
  obtain ⟨-, h⟩ := Tables.throw_if_ok h
  obtain ⟨-, h⟩ := Tables.throw_if_ok h
  obtain ⟨line, -, h⟩ := Tables.bind_ok h
  obtain ⟨host, -, h⟩ := Tables.bind_ok h
  obtain ⟨misnamed, -, h⟩ := Tables.bind_ok h
  cases h
  rfl

namespace Application

lemma current_still : current.Still := by
  refine Action.quiet_get.still.bind fun w => ?_
  cases w.application with
  | none => exact install_still _
  | some application => exact (Action.quiet_pure _).still

lemma current_ok {application : Application} (h : current w = (.ok application, w')) :
    application.settings.serverName = nameIn w := by
  unfold current at h
  rw [Action.bind_apply, Action.get_apply] at h
  dsimp only at h
  unfold nameIn
  cases hthere : w.application with
  | none =>
    rw [hthere] at h
    exact serverName_default h
  | some there =>
    rw [hthere] at h
    cases h
    rfl

lemma serve_cases {given own : Store} {draft : RequestDraft} {r : Except Failure Response}
    (h : serve given own draft w = (r, w')) :
    ((∃ f, r = .error f) ∧ w.Commits [] w') ∨
      ∃ store tokenName request response w₁ w₂, draft.sent (nameIn w) = .ok request ∧
        r = .ok response ∧ Service.answer store tokenName request w₁ = (response, w₂) ∧
        w.Commits [] w₁ ∧ w'.ground = w₂.ground := by
  obtain ⟨e, happ, rfl⟩ | ⟨application, w₁, happ, hrest⟩ := Action.bind_cases h
  · exact .inl ⟨⟨e, rfl⟩, current_still.commits happ⟩
  have hc := current_still.commits happ
  obtain ⟨e, hsent, rfl⟩ | ⟨request, w₂, hsent, hlast⟩ := Action.bind_cases hrest
  · rw [Action.liftExcept_apply] at hsent
    obtain ⟨-, rfl⟩ := Prod.mk.inj hsent
    exact .inl ⟨⟨e, rfl⟩, hc⟩
  rw [Action.liftExcept_apply, current_ok happ] at hsent
  obtain ⟨hrequest, rfl⟩ := Prod.mk.inj hsent
  refine .inr ?_
  by_cases hown : application.ownStore
  · simp only [if_pos hown] at hlast
    cases hlast
    exact ⟨own, application.settings.tokenName, request, _, { w₁ with idle := [] }, _, hrequest, rfl,
      rfl, hc.before_ground rfl, rfl⟩
  · simp only [if_neg hown] at hlast
    cases hlast
    exact ⟨given, application.settings.tokenName, request, _, w₁, _, hrequest, rfl, rfl, hc, rfl⟩

/-- What a request commits can be told from the response; and it is something only if the request
presents a secret of a staff user. -/
lemma serve_commits {given own : Store} {draft : RequestDraft} {r : Except Failure Response}
    (h : serve given own draft w = (r, w')) :
    let changes := changesOf (draft.changes w.stamp? (nameIn w)) r
    w.Commits changes w' ∧ Paired w.spelling w.stamp? changes ∧
      (changes ≠ [] → ∃ secret row, bearerSecret draft.authorization = .ok secret ∧
        w.Finds (some secret) none row ∧ row.isStaff = true) := by
  obtain ⟨⟨f, rfl⟩, hc⟩ | ⟨store, tokenName, request, response, w₁, w₂, hsent, rfl, hanswer,
    hbefore, hafter⟩ := serve_cases h
  · exact ⟨hc, .nothing, fun hne => absurd rfl hne⟩
  obtain ⟨hc, hstaff, hpaired⟩ := Service.answer_commits hanswer
  rw [hbefore.toSteady.stamp, hbefore.spelling] at *
  rw [changesOf, RequestDraft.changes, hsent]
  refine ⟨(hbefore.trans hc).before_ground hafter, hpaired, fun hne => ?_⟩
  obtain ⟨secret, row, hsecret, hrow, hs⟩ := hstaff hne
  rw [RequestDraft.parts_of_sent hsent] at hsecret
  exact ⟨secret, row, hsecret, hrow.of_commits hbefore, hs⟩

end Application

end BearerAccess
