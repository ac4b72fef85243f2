import BearerAccess.Proofs.History
import BearerAccess.Proofs.Stamp

/-!
# Expiries

As long as the times that events bring are those of the calendar, every expiry that is stored was
written for a universal time.
-/

namespace BearerAccess

/-- The expiry that a token is to have, if any, is a time of the calendar. -/
def ExpiryValid (expiresAt : Option DateTime) : Prop := ∀ e ∈ expiresAt, e.Valid

def Call.Timely : Call → Prop
  | insertToken _ _ _ _ expiresAt | issue _ _ _ _ expiresAt => ExpiryValid expiresAt
  | _ => True

def BlockStep.Timely : BlockStep → Prop
  | insertToken _ _ _ _ expiresAt => ExpiryValid expiresAt
  | outside call | nested call => call.Timely
  | _ => True

/-- The times that an event brings are those of the calendar. -/
def Event.Timely : Event → Prop
  | call c => c.Timely
  | block script => ∀ s ∈ script, s.1.Timely
  | _ => True

/-- A token that is added has an expiry that was written for a universal time, if it has any. -/
def Change.Dated : Change → Prop
  | addToken row => ∀ e ∈ row.expiresAt, e.Sound
  | _ => True

lemma expiryValid_none : ExpiryValid none := by
  intro e he
  cases he

lemma storedExpiry_sound {expiresAt : Option DateTime} (h : ExpiryValid expiresAt) :
    ∀ e ∈ storedExpiry expiresAt, e.Sound := by
  intro e he
  cases expiresAt with
  | none => cases he
  | some given =>
    obtain ⟨u, hu, rfl⟩ := Option.map_eq_some_iff.mp he
    exact ⟨u, (DateTime.toUniversal?_spec (h given rfl) hu).1, rfl⟩

lemma User.added_dated (now : Option Stamp) (u : User) : ∀ c ∈ u.added now, c.Dated := by
  intro c hc
  cases now with
  | none => cases hc
  | some t =>
    rw [List.mem_singleton.mp hc]
    trivial

lemma Token.added_dated {expiresAt : Option DateTime} (h : ExpiryValid expiresAt)
    (now : Option Stamp) (k : Token) : ∀ c ∈ k.added now expiresAt, c.Dated := by
  intro c hc
  cases now with
  | none => cases hc
  | some t =>
    rw [List.mem_singleton.mp hc]
    exact storedExpiry_sound h

lemma Credentials.added_dated {expiresAt : Option DateTime} (h : ExpiryValid expiresAt)
    (now : Option Stamp) (m : Credentials) : ∀ c ∈ m.added now expiresAt, c.Dated := by
  intro c hc
  obtain hc | hc := List.mem_append.mp hc
  · exact User.added_dated now m.user c hc
  · exact Token.added_dated h now m.token c hc

lemma Call.changes_dated {c : Call} (h : c.Timely) (now : Option Stamp) (r : Except Failure Answer) :
    ∀ x ∈ c.changes now r, x.Dated := by
  intro x hx
  unfold changes at hx
  split at hx
  · exact User.added_dated now _ x hx
  · exact Token.added_dated h now _ x hx
  · obtain ⟨id, -, rfl⟩ := List.mem_map.mp hx
    trivial
  · obtain ⟨id, -, rfl⟩ := List.mem_map.mp hx
    trivial
  · rw [List.mem_singleton.mp hx]
    trivial
  · exact Credentials.added_dated h now _ x hx
  · exact Credentials.added_dated expiryValid_none now _ x hx
  · cases hx

namespace BlockStep

lemma rows_dated {step : BlockStep} (h : step.Timely) (now : Option Stamp)
    (r : Except Failure Answer) : ∀ x ∈ step.rows now r, x.Dated := by
  intro x hx
  unfold rows at hx
  split at hx
  · exact User.added_dated now _ x hx
  · exact Token.added_dated h now _ x hx
  · cases hx

lemma commits_dated {step : BlockStep} (h : step.Timely) (now : Option Stamp)
    (r : Except Failure Answer) : ∀ x ∈ step.commits now r, x.Dated := by
  intro x hx
  unfold commits at hx
  split at hx
  · exact Call.changes_dated h now r x hx
  · exact Call.changes_dated h now r x hx
  · cases hx

end BlockStep

namespace BlockScript

lemma mem_of_mem_trace {store : Store} {script : BlockScript} {s : Session} {w : World} {t : Taken}
    (h : t ∈ script.trace store s w) : ∃ caught, (t.step, caught) ∈ script := by
  induction script generalizing s w with
  | nil => cases h
  | cons head rest ih =>
    obtain ⟨step, caught⟩ := head
    have hlater : ∀ {s₁ w₁}, t ∈ trace store rest s₁ w₁ →
        ∃ caught', (t.step, caught') ∈ (step, caught) :: rest := by
      intro s₁ w₁ ht
      obtain ⟨caught', hmem⟩ := ih ht
      exact ⟨caught', List.mem_cons_of_mem _ hmem⟩
    rcases hstep : step.perform store s w with ⟨⟨r, s₁⟩, w₁⟩
    have hfirst : t = ⟨step, s, w, r⟩ → ∃ caught', (t.step, caught') ∈ (step, caught) :: rest := by
      intro ht
      rw [ht]
      exact ⟨caught, List.mem_cons_self⟩
    by_cases hon : r.isOk ∨ caught || step.isOutside
    · rw [(perform_on rest hstep hon).2] at h
      obtain ht | ht := List.mem_cons.mp h
      · exact hfirst ht
      · exact hlater ht
    · rw [(perform_off rest hstep hon).2] at h
      exact hfirst (List.mem_singleton.mp h)

lemma changes_dated {store : Store} {script : BlockScript} (h : ∀ s ∈ script, s.1.Timely)
    (w : World) (outcome : Except Failure Unit) : ∀ x ∈ script.changes store w outcome, x.Dated := by
  have hsteps : ∀ t ∈ script.trace store {} w, t.step.Timely := by
    intro t ht
    obtain ⟨caught, hmem⟩ := mem_of_mem_trace ht
    exact h _ hmem
  have hown : ∀ x ∈ (script.trace store {} w).flatMap (Taken.own store), x.Dated := by
    intro x hx
    obtain ⟨t, ht, hx⟩ := List.mem_flatMap.mp hx
    unfold Taken.own at hx
    split at hx
    · exact BlockStep.rows_dated (hsteps t ht) _ _ x hx
    · exact BlockStep.rows_dated (hsteps t ht) _ _ x hx
  intro x hx
  obtain hx | hx := List.mem_append.mp hx
  · obtain ⟨t, ht, hx⟩ := List.mem_flatMap.mp hx
    exact BlockStep.commits_dated (hsteps t ht) _ _ x hx
  · cases outcome with
    | ok u => exact hown x hx
    | error e => cases hx

end BlockScript

lemma RequestDraft.changes_dated (now : Option Stamp) (server : Option ServerName)
    (draft : RequestDraft) (response : Response) :
    ∀ x ∈ draft.changes now server response, x.Dated := by
  intro x hx
  unfold changes at hx
  split at hx
  · unfold Request.changes at hx
    split at hx
    · cases hbody : response.content.bind Credentials.ofJson? with
      | none =>
        rw [hbody] at hx
        cases hx
      | some m =>
        rw [hbody] at hx
        exact Credentials.added_dated expiryValid_none now m x hx
    · rw [List.mem_singleton.mp hx]
      trivial
    · cases hx
  · cases hx

lemma CommandLine.changes_dated (w : World) (words : List Text) (env : Environment) (r : Report) :
    ∀ x ∈ changes w words env r, x.Dated := by
  intro x hx
  unfold changes at hx
  split at hx
  · unfold World.atHome at hx
    split at hx
    · cases hcreated : r.created with
      | none =>
        rw [reported, hcreated] at hx
        cases hx
      | some m =>
        rw [reported, hcreated] at hx
        exact Credentials.added_dated expiryValid_none _ m x hx
    · cases hx
  · cases hx

namespace Event

lemma changes_dated {e : Event} (h : e.Timely) (mishaps : Mishaps) (w : World) (r : Reaction) :
    ∀ x ∈ e.changes mishaps w r, x.Dated := by
  intro x hx
  unfold changes at hx
  split at hx
  · exact Call.changes_dated h _ _ x hx
  · exact BlockScript.changes_dated h _ _ x hx
  · exact RequestDraft.changes_dated _ _ _ _ x hx
  · exact CommandLine.changes_dated _ _ _ _ x hx
  · cases hx

/-- No token of a run has an expiry that was written for anything but a universal time. -/
lemma history_dated {events : List (Mishaps × Event)} (h : ∀ e ∈ events, e.2.Timely) (w : World) :
    ∀ x ∈ history events w, x.Dated := by
  induction events generalizing w with
  | nil =>
    intro x hx
    cases hx
  | cons head rest ih =>
    obtain ⟨mishaps, e⟩ := head
    obtain ⟨he, hrest⟩ := List.forall_mem_cons.mp h
    intro x hx
    obtain hx | hx := List.mem_append.mp hx
    · exact changes_dated he mishaps _ _ x hx
    · exact ih hrest _ x hx

end Event

end BearerAccess
