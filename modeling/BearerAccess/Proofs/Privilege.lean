import BearerAccess.Proofs.Bearer
import BearerAccess.Proofs.Lookup

/-!
# Staff and the rows

Requests change the rows for staff alone: as long as no secret of staff is presented that may be used
at that moment, whatever is requested leaves everything as it is.
-/

namespace BearerAccess

namespace World

/-- The instant that the clock shows, in microseconds from the beginning of year 1. -/
def instant (w : World) : Int := DateTime.epoch + w.clock * 1000

/-- A secret is that of a stored token that may be used at this moment and belongs to staff. -/
def StaffSecret (w : World) (secret : Text) : Prop :=
  ∃ u ∈ w.stored.users, ∃ k ∈ w.stored.tokens, u.id = k.userId ∧ u.isStaff = true ∧
    Text.ofString k.secret = secret ∧ k.toToken.LiveAt w.instant

/-- A header presents, under the bearer scheme, a secret of staff. -/
def StaffHeader (w : World) (header : Option Text) : Prop :=
  ∃ h secret, header = some h ∧ Presents h secret ∧ w.StaffSecret secret

/-- The expiries that are stored were written for universal times. -/
def Dated (w : World) : Prop := ∀ k ∈ w.stored.tokens, ∀ e ∈ k.expiresAt, e.Sound

variable {w : World}

/-- Staff that is found by a secret owns a token with it that may be used. -/
lemma Finds.staffSecret {secret : Text} {u : UserRow} (hdated : w.Dated)
    (h : w.Finds (some secret) none u) (hstaff : u.isStaff = true) : w.StaffSecret secret := by
  obtain ⟨stamp, hasked, hfound⟩ := h
  obtain ⟨now, hnow, rfl⟩ := Option.map_eq_some_iff.mp hasked
  obtain ⟨k, hk, hsecret, hlive, hu, hid⟩ := Tables.ownerOfSecret?_some hfound
  obtain ⟨huniversal, hinstant⟩ := DateTime.ofInstant?_spec hnow
  refine ⟨u, hu, k, hk, hid, hstaff, ofString_of_stored hsecret.symm, ?_⟩
  rw [instant, ← hinstant]
  exact (TokenRow.liveAt_iff (hdated k hk) huniversal).mpr hlive

lemma staffHeader_of_secret {header : Option Text} {secret : Text}
    (h : bearerSecret header = .ok secret) (hstaff : w.StaffSecret secret) :
    w.StaffHeader header := by
  cases header with
  | none => cases h
  | some text => exact ⟨text, secret, rfl, bearerSecret_iff.mp h, hstaff⟩

end World

namespace Event

lemma run_dated {events : List (Mishaps × Event)} {w : World} (hempty : w.stored = {})
    (htimely : ∀ e ∈ events, e.2.Timely) : (run events w).2.Dated := by
  intro k hk
  have hstored := (run_follows events w).stored
  rw [hempty] at hstored
  rw [hstored] at hk
  obtain ⟨hnone, -⟩ | ⟨before, later, hhistory, -⟩ := Tables.mem_tokens_after.mp hk
  · cases hnone
  · refine history_dated htimely w (.addToken k) ?_
    rw [hhistory]
    exact List.mem_append_right _ List.mem_cons_self

/-- A request, or something that may happen between requests. -/
def Visit : Event → Prop
  | request _ | tick _ | entropy _ | lock _ => True
  | _ => False

/-- An event does not present a secret of staff. -/
def Unprivileged (w : World) : Event → Prop
  | request draft => ¬w.StaffHeader draft.authorization
  | _ => True

lemma happen_unprivileged {mishaps : Mishaps} {e : Event} {w : World} (hdated : w.Dated)
    (hvisit : e.Visit) (hnone : e.Unprivileged w) : (e.happen mishaps w).2.stored = w.stored := by
  cases e with
  | request draft =>
    rcases hoccur : (request draft).occur mishaps w.anew with ⟨reaction, w'⟩
    obtain ⟨r, hserve, -⟩ := occur_request hoccur
    obtain ⟨hc, -, hstaff⟩ := Application.serve_commits hserve
    have hnothing : changesOf (draft.changes w.stamp? (Application.nameIn w)) r = [] := by
      by_contra hne
      obtain ⟨secret, u, hsecret, hfinds, hu⟩ := hstaff hne
      exact hnone (World.staffHeader_of_secret hsecret (World.Finds.staffSecret hdated hfinds hu))
    have hstored : w'.stored = w.stored.after [] := hnothing ▸ hc.stored
    rw [happen, hoccur]
    exact hstored
  | tick milliseconds => rfl
  | entropy draws => rfl
  | lock taken => rfl
  | call c => exact hvisit.elim
  | block script => exact hvisit.elim
  | install b => exact hvisit.elim
  | command words env => exact hvisit.elim

/-- At no point of a run is a secret of staff presented. -/
def NeverPrivileged (w : World) (events : List (Mishaps × Event)) : Prop :=
  ∀ before mishaps e after, events = before ++ (mishaps, e) :: after →
    e.Unprivileged (run before w).2

lemma visits_unprivileged {events : List (Mishaps × Event)} {w : World} (hdated : w.Dated)
    (hvisits : ∀ e ∈ events, e.2.Visit) (hnever : NeverPrivileged w events) :
    (run events w).2.stored = w.stored := by
  induction events generalizing w with
  | nil => rfl
  | cons head rest ih =>
    obtain ⟨mishaps, e⟩ := head
    obtain ⟨hvisit, hrest⟩ := List.forall_mem_cons.mp hvisits
    have hsame : (e.happen mishaps w).2.stored = w.stored :=
      happen_unprivileged hdated hvisit (hnever [] mishaps e rest rfl)
    rw [run_cons, ← hsame]
    refine ih ?_ hrest fun before m f after heq => ?_
    · unfold World.Dated
      rw [hsame]
      exact hdated
    · exact hnever ((mishaps, e) :: before) m f after (by rw [heq]; rfl)

/-- Only staff can change the rows by requests. Whatever has happened since there was nobody, and
whatever is then requested, with whatever failures: as long as no request presents the secret of a
token that may be used at that moment and belongs to staff, the rows stay as they are. -/
theorem run_without_staff {earlier events : List (Mishaps × Event)} {w : World}
    (hempty : w.stored = {}) (htimely : ∀ e ∈ earlier, e.2.Timely)
    (hvisits : ∀ e ∈ events, e.2.Visit) (hnever : NeverPrivileged (run earlier w).2 events) :
    (run (earlier ++ events) w).2.stored = (run earlier w).2.stored := by
  rw [run_append]
  exact visits_unprivileged (run_dated hempty htimely) hvisits hnever

/-- The removal of a user is requested with a secret e, which nobody has. -/
def guessing : List (Mishaps × Event) :=
  [({}, .request
      { method := "DELETE", authorization := some (Text.ofString "Bearer e"), target := "/users/a" }),
    ({}, .tick 1)]

theorem run_without_staff_guessing :
    (({} : World).stored = {} ∧ (∀ e ∈ moving, e.2.Timely) ∧ (∀ e ∈ guessing, e.2.Visit) ∧
      NeverPrivileged (run moving {}).2 guessing) ∧
    (run (moving ++ guessing) {}).2.stored = (run moving {}).2.stored := by
  have hvisits : ∀ e ∈ guessing, e.2.Visit := by
    intro e he
    obtain rfl | he := List.mem_cons.mp he
    · trivial
    · rw [List.mem_singleton.mp he]
      trivial
  have hunknown : ∀ k ∈ (run moving {}).2.stored.tokens, k.secret ≠ "e" := by
    decide +kernel
  have hguess : bearerSecret (some (Text.ofString "Bearer e")) = .ok "e" := by decide +kernel
  have hnever : NeverPrivileged (run moving {}).2 guessing := by
    intro before mishaps e after heq
    obtain _ | ⟨first, _ | ⟨second, before⟩⟩ := before
    · cases heq
      rintro ⟨header, secret, hheader, hpresents, u, -, k, hk, -, -, hsecret, -⟩
      cases hheader
      rw [bearerSecret_iff.mpr hpresents] at hguess
      exact hunknown k hk (Text.ofString_injective (hsecret.trans (Except.ok.inj hguess)))
    · cases heq
      trivial
    · have hlength := congrArg List.length heq
      simp [guessing] at hlength
  exact ⟨⟨rfl, moving_timely, hvisits, hnever⟩, run_without_staff rfl moving_timely hvisits hnever⟩

end Event

end BearerAccess
