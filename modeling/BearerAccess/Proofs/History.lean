import BearerAccess.Event
import BearerAccess.Proofs.Block
import BearerAccess.Proofs.Command

/-!
# Histories

The history of a run is the list of the changes that its events have committed, told from what they
were answered with. What is stored after a run is what its history has left.
-/

namespace BearerAccess

variable {mishaps : Mishaps} {w w' : World} {reaction : Reaction}

lemma World.Follows.trans {w'' : World} {changes more : List Change} (h : w.Follows changes w')
    (h' : w'.Follows more w'') : w.Follows (changes ++ more) w'' where
  spelling := h'.spelling.trans h.spelling
  admits := Tables.admits_append.mpr ⟨h.admits, h.stored ▸ h'.admits⟩
  stored := by rw [h'.stored, h.stored, Tables.after_append]

namespace Event

/-- The changes that an event has committed, told from the reaction to it. -/
def changes (mishaps : Mishaps) (w : World) : Event → Reaction → List Change
  | call c, .answer r => c.changes w.stamp? r
  | block script, .block _ outcome => script.changes ⟨mishaps.store⟩ w outcome
  | request draft, .response response => draft.changes w.stamp? (Application.nameIn w) response
  | command words env, .report r => CommandLine.changes w words env r
  | _, _ => []

lemma occur_request {draft : RequestDraft}
    (h : (request draft).occur mishaps w = (reaction, w')) :
    ∃ r, Application.serve ⟨mishaps.store⟩ ⟨mishaps.others⟩ draft w = (r, w') ∧
      (request draft).changes mishaps w reaction =
        changesOf (draft.changes w.stamp? (Application.nameIn w)) r := by
  rcases hserve : Application.serve ⟨mishaps.store⟩ ⟨mishaps.others⟩ draft w with ⟨r, w₁⟩
  have hrun : (Application.serve ⟨mishaps.store⟩ ⟨mishaps.others⟩ draft).run w = (r, w₁) := hserve
  rw [occur, Computation.bind_apply, hrun] at h
  cases r with
  | ok response =>
    cases h
    exact ⟨_, rfl, rfl⟩
  | error failure =>
    cases h
    exact ⟨_, rfl, rfl⟩

lemma occur_command {words : List Text} {env : Environment}
    (h : (command words env).occur mishaps w = (reaction, w')) :
    ∃ report, CommandLine.run ⟨mishaps.others⟩ words env w = (report, w') ∧
      reaction = .report report := by
  rcases hrun : CommandLine.run ⟨mishaps.others⟩ words env w with ⟨report, w₁⟩
  rw [occur, Computation.bind_apply, hrun] at h
  cases h
  exact ⟨report, rfl, rfl⟩

lemma occur_follows {e : Event} (h : e.occur mishaps w = (reaction, w')) :
    w.Follows (e.changes mishaps w reaction) w' := by
  cases e with
  | call c =>
    cases h
    exact .of_commits (Call.perform_commits rfl)
  | block script =>
    rcases hrun : script.run ⟨mishaps.store⟩ w with ⟨⟨results, outcome⟩, w₁⟩
    rw [occur, Computation.bind_apply, hrun] at h
    cases h
    exact .of_commits (BlockScript.run_commits hrun).2
  | install b =>
    have hc : w.Commits [] (occur mishaps (install b) w).2 :=
      (Application.install_still b).bind (fun _ => (Action.quiet_pure Answer.nothing).still) w
    rw [h] at hc
    exact .of_commits hc
  | request draft =>
    obtain ⟨r, hserve, hchanges⟩ := occur_request h
    rw [hchanges]
    exact .of_commits (Application.serve_commits hserve).1
  | command words env =>
    obtain ⟨report, hrun, rfl⟩ := occur_command h
    exact (CommandLine.run_follows hrun).1
  | tick milliseconds =>
    cases h
    exact ⟨rfl, trivial, rfl⟩
  | entropy draws =>
    cases h
    exact ⟨rfl, trivial, rfl⟩
  | lock taken =>
    cases h
    exact ⟨rfl, trivial, rfl⟩

lemma happen_follows {e : Event} (h : e.happen mishaps w = (reaction, w')) :
    w.Follows (e.changes mishaps w.anew reaction) w' := by
  have hg : w.anew.ground = w.ground := rfl
  exact (occur_follows h).after_ground hg

/-! ### Runs -/

/-- All changes of a run, one event after the other. -/
def history : List (Mishaps × Event) → World → List Change
  | [], _ => []
  | (mishaps, event) :: rest, w =>
    event.changes mishaps w.anew (event.happen mishaps w).1 ++
      history rest (event.happen mishaps w).2

lemma run_cons (mishaps : Mishaps) (e : Event) (rest : List (Mishaps × Event)) (w : World) :
    (run ((mishaps, e) :: rest) w).2 = (run rest (e.happen mishaps w).2).2 := rfl

lemma run_append (before after : List (Mishaps × Event)) (w : World) :
    (run (before ++ after) w).2 = (run after (run before w).2).2 := by
  induction before generalizing w with
  | nil => rfl
  | cons head rest ih =>
    obtain ⟨mishaps, e⟩ := head
    rw [List.cons_append, run_cons, run_cons, ih]

/-- What is stored after a run is what its history has left. -/
theorem run_follows (events : List (Mishaps × Event)) (w : World) :
    w.Follows (history events w) (run events w).2 := by
  induction events generalizing w with
  | nil => exact .of_ground rfl
  | cons head rest ih =>
    obtain ⟨mishaps, e⟩ := head
    rw [history, run_cons]
    exact (happen_follows rfl).trans (ih _)

/-- From empty tables, every run leaves consistent rows. -/
lemma run_consistent {events : List (Mishaps × Event)} {w : World} (h : w.stored = {}) :
    (run events w).2.stored.Consistent := by
  obtain ⟨-, hadmits, hstored⟩ := run_follows events w
  rw [hstored]
  rw [h] at hadmits ⊢
  exact Tables.consistent_empty.after hadmits

end Event

end BearerAccess
