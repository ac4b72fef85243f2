import BearerAccess.Proofs.Reread

/-!
# Timelines

The changes of a run, each with what the clock showed when it was made. A row that is added bears the
stamp of this time. The worlds that a run meets are those between its events, and those that the steps
of its blocks find.
-/

namespace BearerAccess

/-- The stamp of a time that the clock may show. -/
def stampAt? (clock : Int) : Option Stamp := (DateTime.ofClock? clock).map Stamp.ofDateTime

/-- A row that is added bears a stamp as that of its creation. -/
def Change.Stamped (now : Option Stamp) : Change → Prop
  | addUser row => now = some row.createdAt
  | addToken row => now = some row.createdAt
  | _ => True

/-! ### The stamp of an event -/

section

variable {c : Change} {now : Option Stamp}

lemma User.added_stamped {u : User} (h : c ∈ u.added now) : c.Stamped now := by
  obtain ⟨t, ht, rfl⟩ := List.mem_map.mp h
  exact Option.mem_toList.mp ht

lemma Token.added_stamped {k : Token} {expiresAt : Option DateTime} (h : c ∈ k.added now expiresAt) :
    c.Stamped now := by
  obtain ⟨t, ht, rfl⟩ := List.mem_map.mp h
  exact Option.mem_toList.mp ht

lemma Credentials.added_stamped {m : Credentials} {expiresAt : Option DateTime}
    (h : c ∈ m.added now expiresAt) : c.Stamped now := by
  obtain h | h := List.mem_append.mp h
  · exact User.added_stamped h
  · exact Token.added_stamped h

lemma stamped_of_created {m : Option Credentials} (h : c ∈ (m.map (·.added now none)).getD []) :
    c.Stamped now := by
  cases m with
  | none => cases h
  | some m => exact Credentials.added_stamped h

lemma Call.changes_stamped {call : Call} {r : Except Failure Answer} (h : c ∈ call.changes now r) :
    c.Stamped now := by
  unfold changes at h
  split at h
  · exact User.added_stamped h
  · exact Token.added_stamped h
  · obtain ⟨id, -, rfl⟩ := List.mem_map.mp h
    trivial
  · obtain ⟨id, -, rfl⟩ := List.mem_map.mp h
    trivial
  · rw [List.mem_singleton.mp h]
    trivial
  · exact Credentials.added_stamped h
  · exact Credentials.added_stamped h
  · cases h

namespace Taken

lemma beside_stamped {t : Taken} (h : c ∈ t.beside) : c.Stamped t.world.stamp? := by
  unfold beside BlockStep.commits at h
  split at h
  · exact Call.changes_stamped h
  · exact Call.changes_stamped h
  · cases h

lemma own_stamped {t : Taken} {store : Store} (h : c ∈ t.own store) :
    c.Stamped t.world.stamp? := by
  have hrows : ∀ r, c ∈ t.step.rows t.world.stamp? r → c.Stamped t.world.stamp? := by
    intro r hr
    unfold BlockStep.rows at hr
    split at hr
    · exact User.added_stamped hr
    · exact Token.added_stamped hr
    · cases hr
  unfold own at h
  split at h
  · exact hrows _ h
  · exact hrows _ h

end Taken

lemma RequestDraft.changes_stamped {server : Option ServerName} {draft : RequestDraft}
    {response : Response} (h : c ∈ draft.changes now server response) : c.Stamped now := by
  unfold changes at h
  split at h
  · unfold Request.changes at h
    split at h
    · exact stamped_of_created h
    · rw [List.mem_singleton.mp h]
      trivial
    · cases h
  · cases h

lemma CommandLine.changes_stamped {w : World} {words : List Text} {env : Environment} {r : Report}
    (h : c ∈ changes w words env r) : c.Stamped w.stamp? := by
  unfold changes at h
  split at h
  · unfold World.atHome at h
    split at h
    · exact stamped_of_created h
    · cases h
  · cases h

end

namespace BlockScript

variable {store : Store} {script : BlockScript} {w : World} {before later : List Taken} {t : Taken}

/-- The clock stands still while a block is carried out. -/
lemma clock_of_trace (h : script.trace store {} w = before ++ t :: later) :
    t.world.clock = w.clock :=
  (trace_progress (Progress.start w) h).clock

lemma stamp_of_mem_trace (h : t ∈ script.trace store {} w) : t.world.stamp? = w.stamp? := by
  obtain ⟨before, later, htrace⟩ := List.append_of_mem h
  rw [World.stamp?, World.stamp?, clock_of_trace htrace]

lemma changes_stamped {outcome : Except Failure Unit} {c : Change}
    (h : c ∈ script.changes store w outcome) : c.Stamped w.stamp? := by
  obtain h | h := List.mem_append.mp h
  · obtain ⟨t, ht, h⟩ := List.mem_flatMap.mp h
    rw [← stamp_of_mem_trace ht]
    exact Taken.beside_stamped h
  · cases outcome with
    | error e => cases h
    | ok u =>
      obtain ⟨t, ht, h⟩ := List.mem_flatMap.mp h
      rw [← stamp_of_mem_trace ht]
      exact Taken.own_stamped h

end BlockScript

namespace Event

lemma changes_stamped {e : Event} {mishaps : Mishaps} {w : World} {r : Reaction} {c : Change}
    (h : c ∈ e.changes mishaps w r) : c.Stamped w.stamp? := by
  unfold changes at h
  split at h
  · exact Call.changes_stamped h
  · exact BlockScript.changes_stamped h
  · exact RequestDraft.changes_stamped h
  · exact CommandLine.changes_stamped h
  · cases h

/-! ### Timelines of runs -/

/-- All changes of a run, one event after the other, each with what the clock showed at its event. -/
def timeline : List (Mishaps × Event) → World → List (Int × Change)
  | [], _ => []
  | (mishaps, event) :: rest, w =>
    (event.changes mishaps w.anew (event.happen mishaps w).1).map (w.clock, ·) ++
      timeline rest (event.happen mishaps w).2

/-- The changes of a timeline are the history of the run. -/
lemma map_timeline (events : List (Mishaps × Event)) (w : World) :
    (timeline events w).map Prod.snd = history events w := by
  induction events generalizing w with
  | nil => rfl
  | cons head rest ih =>
    obtain ⟨mishaps, e⟩ := head
    rw [timeline, history, List.map_append, ih, List.map_map]
    exact congrArg (· ++ _) (List.map_id _)

lemma timeline_stamped {events : List (Mishaps × Event)} {w : World} :
    ∀ x ∈ timeline events w, x.2.Stamped (stampAt? x.1) := by
  induction events generalizing w with
  | nil => exact fun _ h => nomatch h
  | cons head rest ih =>
    obtain ⟨mishaps, e⟩ := head
    intro x hx
    obtain hx | hx := List.mem_append.mp hx
    · obtain ⟨c, hc, rfl⟩ := List.mem_map.mp hx
      have hstamped := changes_stamped hc
      exact hstamped
    · exact ih x hx

/-- A run from a world meets another world, with the timeline so far: between two events, or at a step
of a block, where the changes are those that have been committed beside the block. -/
inductive Meets (w : World) : List (Int × Change) → World → Prop where
  | between (events : List (Mishaps × Event)) : Meets w (timeline events w) (run events w).2
  | within {events : List (Mishaps × Event)} {mishaps : Mishaps} {script : BlockScript}
      {before later : List Taken} {t : Taken}
      (h : script.trace ⟨mishaps.store⟩ {} (run events w).2.anew =
        before ++ t :: later) :
    Meets w (timeline events w ++
      (before.flatMap Taken.beside).map ((run events w).2.clock, ·)) t.world

end Event

/-! ### What a timeline accounts for -/

/-- A timeline accounts for what is stored in a world: the rows are those that its changes have left,
and they bear the stamps of its times. -/
structure Accounts (line : List (Int × Change)) (v : World) : Prop where
  admits : ({} : Tables).Admits (line.map Prod.snd)
  stored : v.stored = ({} : Tables).after (line.map Prod.snd)
  stamped : ∀ x ∈ line, x.2.Stamped (stampAt? x.1)

lemma map_snd_at (clock : Int) (changes : List Change) :
    (changes.map (clock, ·)).map Prod.snd = changes := by
  rw [List.map_map]
  exact List.map_id _

lemma stamped_at {v : World} {changes : List Change} (h : ∀ c ∈ changes, c.Stamped v.stamp?) :
    ∀ x ∈ changes.map (v.clock, ·), x.2.Stamped (stampAt? x.1) := by
  intro x hx
  obtain ⟨c, hc, rfl⟩ := List.mem_map.mp hx
  exact h c hc

namespace Accounts

variable {line : List (Int × Change)} {v v' : World}

lemma follows (h : Accounts line v) {changes : List Change} (hc : v.Follows changes v')
    (hs : ∀ c ∈ changes, c.Stamped v.stamp?) :
    Accounts (line ++ changes.map (v.clock, ·)) v' where
  admits := by
    rw [List.map_append, map_snd_at]
    exact Tables.admits_append.mpr ⟨h.admits, h.stored ▸ hc.admits⟩
  stored := by rw [List.map_append, map_snd_at, hc.stored, h.stored, Tables.after_append]
  stamped x hx := by
    obtain hx | hx := List.mem_append.mp hx
    · exact h.stamped x hx
    · exact stamped_at hs x hx

/-- After a call the timeline goes on with what the call has changed. -/
lemma call (h : Accounts line v) {store : Store} {c : Call} {r : Except Failure Answer}
    (hc : c.perform store v = (r, v')) :
    Accounts (line ++ (c.changes v.stamp? r).map (v.clock, ·)) v' :=
  h.follows (.of_commits (Call.perform_commits hc)) fun _ => Call.changes_stamped

variable (h : Accounts line v)

include h

lemma consistent : v.stored.Consistent := h.stored ▸ Tables.consistent_empty.after h.admits

lemma clock_of_mem {c : Change} (hc : c ∈ line.map Prod.snd) :
    ∃ clock, (clock, c) ∈ line ∧ c.Stamped (stampAt? clock) := by
  obtain ⟨⟨clock, c⟩, hx, rfl⟩ := List.mem_map.mp hc
  exact ⟨clock, hx, h.stamped _ hx⟩

/-- A stored row has been added at some time, and bears the stamp of this time. -/
lemma user_added {u : UserRow} (hu : u ∈ v.stored.users) :
    ∃ clock, (clock, .addUser u) ∈ line ∧ stampAt? clock = some u.createdAt := by
  rw [h.stored] at hu
  obtain ⟨hnone, -⟩ | ⟨before, later, hline, -⟩ := Tables.mem_users_after.mp hu
  · cases hnone
  · exact h.clock_of_mem (hline ▸ List.mem_append_right _ List.mem_cons_self)

lemma token_added {k : TokenRow} (hk : k ∈ v.stored.tokens) :
    ∃ clock, (clock, .addToken k) ∈ line ∧ stampAt? clock = some k.createdAt := by
  rw [h.stored] at hk
  obtain ⟨hnone, -⟩ | ⟨before, later, hline, -⟩ := Tables.mem_tokens_after.mp hk
  · cases hnone
  · exact h.clock_of_mem (hline ▸ List.mem_append_right _ List.mem_cons_self)

end Accounts

namespace Event

variable {w v : World} {line : List (Int × Change)}

lemma timeline_accounts (hempty : w.stored = {}) (events : List (Mishaps × Event)) :
    Accounts (timeline events w) (run events w).2 := by
  obtain ⟨-, hadmits, hstored⟩ := run_follows events w
  rw [hempty] at hadmits hstored
  rw [← map_timeline] at hadmits hstored
  exact ⟨hadmits, hstored, timeline_stamped⟩

/-- The timeline of a world that is met accounts for what is stored in it. -/
lemma Meets.accounts (h : Meets w line v) (hempty : w.stored = {}) : Accounts line v := by
  cases h with
  | between events => exact timeline_accounts hempty events
  | @within events mishaps script before later t htrace =>
    have hp := BlockScript.trace_progress (Progress.start _) htrace
    refine (timeline_accounts hempty events).follows ⟨hp.spelling, hp.admits, hp.stored⟩ fun c hc => ?_
    obtain ⟨u, hu, hc⟩ := List.mem_flatMap.mp hc
    have hmem : u ∈ script.trace ⟨mishaps.store⟩ {} (run events w).2.anew :=
      htrace ▸ List.mem_append_left _ hu
    have hstamped := Taken.beside_stamped hc
    rw [BlockScript.stamp_of_mem_trace hmem] at hstamped
    exact hstamped

end Event

end BearerAccess
