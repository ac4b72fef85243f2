import BearerAccess.Proofs.AlikeEvent
import BearerAccess.Proofs.Lookup
import BearerAccess.Proofs.TwinCall

/-!
# Secrets are opaque

Whatever happens, it would happen in the same way with other secrets: a run on renamed secrets is the
renamed run. Answers differ in the secrets that they tell, and no response differs but the one that
shows the credentials of a new user. The messages of the log are the same; what differs in it is the
exceptions that show a statement which the database has refused, with the secret that it was given.
-/

namespace BearerAccess

variable {r : Renaming} {w v : World}

/-! ### Requests -/

lemma Text.IsWord.unbroken {t : Text} (h : t.IsWord) :
    (t.any fun p => p.is '\r' || p.is '\n') = false := by
  refine List.any_eq_false.mpr fun p hp => ?_
  have hblank := h.2 p hp
  rw [Bool.or_eq_true, not_or]
  constructor
  · intro hr
    rw [CodePoint.isBlank, of_decide_eq_true hr] at hblank
    cases hblank
  · intro hn
    rw [CodePoint.isBlank, of_decide_eq_true hn] at hblank
    cases hblank

/-- A header is not broken into lines by the secret that it presents. -/
lemma RequestDraft.isBroken_renamed (draft : RequestDraft) :
    (draft.renamed r).isBroken = draft.isBroken := by
  have hheader (h : Text) : ((r.header h).any fun p => p.is '\r' || p.is '\n') =
      h.any fun p => p.is '\r' || p.is '\n' := by
    cases hsecret : bearerSecret (some h) with
    | error problem => rw [Renaming.header, hsecret]
    | ok secret =>
      have hpresents := bearerSecret_iff.mp hsecret
      obtain ⟨front, after, hsplit, hrenamed, hpresents'⟩ :=
        Renaming.header_of_presents (r := r) hpresents
      rw [hrenamed]
      conv_rhs => rw [hsplit]
      simp only [List.any_append, hpresents.isWord.unbroken, hpresents'.isWord.unbroken]
  unfold RequestParts.isBroken renamed
  cases draft.authorization with
  | none => rfl
  | some h => simp only [List.any_cons, Option.map_some, Option.any_some, hheader]

namespace Twins

/-- Requests are served alike with other secrets. -/
lemma serve (h : w.Twin r True v) (draft : RequestDraft) (given own : Store) :
    Coupled (Under (Except.map (Response.renamed r))) (World.Twin r True)
      (Application.serve given own draft w) (Application.serve given own (draft.renamed r) v) := by
  obtain ⟨a, threshold, hcurrent, -⟩ := Application.current_apply w
  obtain ⟨hanswer, hworld⟩ := current h
  have hcurrent' : Application.current v = (.ok a, (Application.current v).2) := by
    rw [hcurrent] at hanswer
    exact Prod.ext hanswer.same rfl
  rw [hcurrent] at hworld
  obtain ⟨hserved, hlast⟩ : (Nearness.twins r True).Actions (Response.Same (Under (Credentials.renamed r)))
      (Application.serve given own draft w) (Application.serve given own (draft.renamed r) v) :=
    Nearness.serve hcurrent hcurrent' rfl hworld draft.isBroken_renamed
      (fun store => hears (.refl store) draft.authorization)
      (fun _ _ _ store => issues (.refl store) a.settings.tokenName) given own
  exact ⟨(hserved.mono (fun _ _ => id) fun _ _ => Response.Same.renamed).eq_map, hlast⟩

end Twins

/-! ### The log -/

namespace LogEntry

/-- The exception that is logged shows a secret among the texts of what it was raised from. -/
def Discloses (e : LogEntry) (secret : Text) : Prop :=
  ∃ x ∈ e.exception, ∃ o ∈ x.origin, .secret (some secret) ∈ o.parameters

lemma text_renamed (e : LogEntry) : (e.renamed r).text = e.text := rfl

/-- With other secrets an entry differs only if it discloses one. -/
lemma renamed_of_veiled {e : LogEntry} (h : ∀ secret, ¬e.Discloses secret) : e.renamed r = e := by
  obtain ⟨severity, source, message, _ | ⟨cause, _ | o⟩⟩ := e
  · rfl
  · rfl
  · have hveiled : o.Veiled := fun secret hsecret => h secret ⟨_, rfl, o, rfl, hsecret⟩
    simp only [renamed, LoggedException.renamed, Option.map_some, Origin.renamed_of_veiled hveiled]

end LogEntry

/-! ### Events -/

namespace Event

def isCommand : Event → Bool
  | command _ _ => true
  | _ => false

end Event

namespace Twins

/-- Whatever happens comes to the same with other secrets. -/
lemma occur (h : w.Twin r True v) {e : Event} (he : e.isCommand = false) (mishaps : Mishaps) :
    Coupled (Under (Reaction.renamed r)) (World.Twin r True) (e.occur mishaps w)
      ((e.renamed r).occur mishaps v) := by
  have hanswered {a a' : Action Answer} (ha : Actions r True (Under (Answer.renamed r)) (a w) (a' v)) :
      Coupled (Under (Reaction.renamed r)) (World.Twin r True) (Event.answered a w)
        (Event.answered a' v) :=
    ⟨congrArg Reaction.answer ha.1.eq_map, ha.2⟩
  cases e with
  | call c => exact hanswered (call h (.refl _) c)
  | block script =>
    obtain ⟨hending, hworld⟩ := block h ⟨mishaps.store⟩ script
    exact ⟨congrArg (fun x : List (Except Failure Answer) × Except Failure Unit =>
      Reaction.block x.1 x.2) hending, hworld⟩
  | install b =>
    exact hanswered (Coupled.bind (install h b) fun _ _ _ _ _ h₁ => ⟨.answers rfl, h₁⟩)
  | request draft =>
    obtain ⟨hresponse, hworld⟩ := serve h draft ⟨mishaps.store⟩ ⟨mishaps.others⟩
    have hrenamed : (Event.request draft).renamed r = .request (draft.renamed r) := rfl
    rw [hrenamed, Event.request_apply, Event.request_apply]
    refine ⟨?_, hworld⟩
    dsimp only
    rw [hresponse]
    cases (Application.serve ⟨mishaps.store⟩ ⟨mishaps.others⟩ draft w).1 <;> rfl
  | command words env => cases he
  | tick milliseconds =>
    refine hanswered ⟨.answers rfl, ?_⟩
    obtain ⟨log, rfl, hlog⟩ := h
    exact ⟨log, rfl, hlog⟩
  | entropy draws =>
    refine hanswered ⟨.answers rfl, ?_⟩
    obtain ⟨log, rfl, hlog⟩ := h
    exact ⟨log, rfl, hlog⟩
  | lock taken =>
    refine hanswered ⟨.answers rfl, with_database h ?_⟩
    rw [database h]
    rfl

end Twins

namespace Event

lemma happen_renamed {e : Event} (he : e.isCommand = false) (mishaps : Mishaps) (w : World) :
    (e.renamed r).happen mishaps (w.renamed r) =
      ((e.happen mishaps w).1.renamed r, (e.happen mishaps w).2.renamed r) := by
  have hstart : w.anew.Twin r True (w.renamed r).anew := ⟨(w.anew.renamed r).notes, rfl, fun _ => rfl⟩
  obtain ⟨hreaction, notes, hworld, hnotes⟩ := Twins.occur hstart he mishaps
  refine Prod.ext hreaction (hworld.trans ?_)
  rw [hnotes trivial]
  rfl

lemma run_steps (mishaps : Mishaps) (e : Event) (rest : List (Mishaps × Event)) (w : World) :
    run ((mishaps, e) :: rest) w =
      ((e.happen mishaps w).1 :: (run rest (e.happen mishaps w).2).1,
        (run rest (e.happen mishaps w).2).2) := rfl

/-- A run with its events under a renaming. -/
def renamedRun (r : Renaming) (events : List (Mishaps × Event)) : List (Mishaps × Event) :=
  events.map fun x => (x.1, x.2.renamed r)

lemma run_renamed {events : List (Mishaps × Event)} (h : ∀ x ∈ events, x.2.isCommand = false)
    (w : World) : run (renamedRun r events) (w.renamed r) =
      ((run events w).1.map (·.renamed r), (run events w).2.renamed r) := by
  induction events generalizing w with
  | nil => rfl
  | cons head rest ih =>
    obtain ⟨mishaps, e⟩ := head
    obtain ⟨he, hrest⟩ := List.forall_mem_cons.mp h
    have hcons : renamedRun r ((mishaps, e) :: rest) =
        (mishaps, e.renamed r) :: renamedRun r rest := rfl
    rw [hcons, run_steps, run_steps, happen_renamed he, ih hrest]
    rfl

/-- What a run has in common with the same run on other secrets. -/
structure Opaque (r : Renaming) (events : List (Mishaps × Event)) (w : World) : Prop where
  answers : (run (renamedRun r events) (w.renamed r)).1 = (run events w).1.map (·.renamed r)
  world : (run (renamedRun r events) (w.renamed r)).2 = (run events w).2.renamed r
  messages : (run (renamedRun r events) (w.renamed r)).2.log.map LogEntry.text =
    (run events w).2.log.map LogEntry.text
  /-- An entry of the log differs only if its exception discloses a secret. -/
  entries : ∀ (i : Nat) (e : LogEntry), (run events w).2.log[i]? = some e →
    (∀ secret, ¬e.Discloses secret) →
      (run (renamedRun r events) (w.renamed r)).2.log[i]? = some e
  counts : (run (renamedRun r events) (w.renamed r)).2.database.counts? =
    (run events w).2.database.counts?
  /-- A response differs only if it shows a new user. -/
  responses : ∀ (i : Nat) (x : Response), (run events w).1[i]? = some (Reaction.response x) →
    x.status ≠ 201 →
      (run (renamedRun r events) (w.renamed r)).1[i]? = some (Reaction.response x)

/-- Secrets are opaque: whatever happens short of command lines, with other secrets in the place of
those given and drawn, it is answered in the same way but for the secrets told, leaves the same rows
but for the secrets in them, as many of them, and writes the same messages. Of the responses, none
differs but one that shows a new user; of the entries of the log, none but one with an exception that
discloses a secret. -/
theorem run_opaque (r : Renaming) {events : List (Mishaps × Event)}
    (h : ∀ x ∈ events, x.2.isCommand = false) (w : World) : Opaque r events w := by
  have hrun := run_renamed (r := r) h w
  have hlog (w : World) : (w.renamed r).log = w.log.map (·.renamed r) := rfl
  refine ⟨congrArg Prod.fst hrun, congrArg Prod.snd hrun, ?_, fun i e he hveiled => ?_, ?_,
    fun i x hx hstatus => ?_⟩
  all_goals rw [hrun]
  · dsimp only
    rw [hlog, List.map_map]
    exact List.map_congr_left fun e _ => e.text_renamed
  · dsimp only
    rw [hlog, List.getElem?_map, he, Option.map_some, e.renamed_of_veiled hveiled]
  · exact Database.counts?_renamed _
  · rw [List.getElem?_map, hx, Option.map_some, Reaction.renamed, Response.renamed, if_neg hstatus]

/-- Two secrets change places. -/
def exchange : Renaming :=
  (Equiv.swap ⟨Text.ofString "d", by decide +kernel⟩
    ⟨Text.ofString "w", by decide +kernel⟩).toEmbedding

/-- A token is stored, and its secret is presented in a request. -/
def visiting : List (Mishaps × Event) :=
  moving ++
    [(({} : Mishaps), .request
      { method := "GET", authorization := some (Text.ofString "Bearer d"), target := "/me" })]

theorem run_opaque_visiting :
    (∀ x ∈ visiting, x.2.isCommand = false) ∧
      exchange.header (Text.ofString "Bearer d") = Text.ofString "Bearer w" ∧
      (run (renamedRun exchange visiting) (World.renamed exchange {})).2 =
        (run visiting {}).2.renamed exchange ∧
      (run (renamedRun exchange visiting) (World.renamed exchange {})).2.log.map LogEntry.text =
        (run visiting {}).2.log.map LogEntry.text := by
  have hcommands : ∀ x ∈ visiting, x.2.isCommand = false := by
    intro x hx
    obtain rfl | hx := List.mem_cons.mp hx
    · rfl
    · rw [List.mem_singleton.mp hx]
      rfl
  have hopaque := run_opaque exchange hcommands {}
  exact ⟨hcommands, by decide +kernel, hopaque.world, hopaque.messages⟩

/-- A secret is presented while the database lacks its tables. -/
def knocking : List (Mishaps × Event) :=
  [(({} : Mishaps), .request
    { method := "GET", authorization := some (Text.ofString "Bearer d"), target := "/users/me" })]

/-- What is logged with the messages of a request whose secret could not be looked up. -/
def refusedLookup (secret : Text) : List (Option LoggedException) :=
  [none, some ⟨.store (.inOperation "get_user_by_token"),
    some (.refused (some .ownerOfSecret) [.secret (some secret)])⟩, none]

/-- The log discloses the secret that was presented: it differs with another one. -/
theorem run_disclosed :
    (∀ x ∈ knocking, x.2.isCommand = false) ∧
      (∃ e ∈ (run knocking { database := { tables := none } }).2.log,
        e.Discloses (Text.ofString "d")) ∧
      (run (renamedRun exchange knocking)
          (World.renamed exchange { database := { tables := none } })).2.log ≠
        (run knocking { database := { tables := none } }).2.log := by
  have hlogged : (run knocking { database := { tables := none } }).2.log.map LogEntry.exception =
      refusedLookup (Text.ofString "d") := by decide +kernel
  have hother : (run (renamedRun exchange knocking)
      (World.renamed exchange { database := { tables := none } })).2.log.map LogEntry.exception =
      refusedLookup (Text.ofString "w") := by decide +kernel
  refine ⟨by decide, ?_, fun hsame => ?_⟩
  · have hmem : some _ ∈ refusedLookup (Text.ofString "d") :=
      List.mem_cons_of_mem _ List.mem_cons_self
    rw [← hlogged, List.mem_map] at hmem
    obtain ⟨e, he, hexception⟩ := hmem
    exact ⟨e, he, _, hexception, _, rfl, List.mem_cons_self⟩
  · rw [hsame, hlogged] at hother
    exact absurd hother (by decide +kernel)

end Event

end BearerAccess
