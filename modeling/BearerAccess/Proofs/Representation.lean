import BearerAccess.Proofs.Lookup
import Mathlib.Data.List.Chain

/-!
# The stored rows

Through whatever the stored rows pass in a run, also between the steps of a block: they keep to their
constraints, and each step only adds rows or only removes rows, so that no row is ever altered.
-/

namespace BearerAccess

/-! ### Adding or removing -/

/-- The change adds a row; any other removes rows. -/
def Change.Adds : Change → Prop
  | addUser _ | addToken _ => True
  | _ => False

/-- Changes that all add rows, or all remove rows. -/
def Uniform (changes : List Change) : Prop := (∀ c ∈ changes, c.Adds) ∨ ∀ c ∈ changes, ¬c.Adds

namespace Tables

/-- What a step does to the rows: it adds rows behind those that are there, or removes some of
them. -/
inductive Step (t : Tables) : Tables → Prop where
  | added (users : List UserRow) (tokens : List TokenRow) :
      Step t ⟨t.users ++ users, t.tokens ++ tokens⟩
  | removed (user : UserRow → Bool) (token : TokenRow → Bool) :
      Step t ⟨t.users.filter user, t.tokens.filter token⟩

/-- A row that has the id of an earlier one is this row, in all its columns. -/
structure Unaltered (t t' : Tables) : Prop where
  users : ∀ u ∈ t.users, ∀ v ∈ t'.users, v.id = u.id → v = u
  tokens : ∀ k ∈ t.tokens, ∀ l ∈ t'.tokens, l.id = k.id → l = k

/-- The rows come from others by changes that fit them and are of one kind. -/
def Advances (t t' : Tables) : Prop :=
  ∃ changes, t.Admits changes ∧ Uniform changes ∧ t' = t.after changes

variable {t t' : Tables} {changes : List Change}

/-- Rows that are only added to are those that were there and those that have been added. -/
lemma after_of_adds (h : ∀ c ∈ changes, c.Adds) : t.after changes =
    ⟨t.users ++ changes.filterMap Change.user?, t.tokens ++ changes.filterMap Change.token?⟩ := by
  induction changes generalizing t with
  | nil => simp
  | cons c rest ih =>
    obtain ⟨hc, hrest⟩ := List.forall_mem_cons.mp h
    rw [after_cons, ih hrest]
    cases c with
    | addUser row => simp [Change.apply, Change.user?, Change.token?, List.filterMap_cons]
    | addToken row => simp [Change.apply, Change.user?, Change.token?, List.filterMap_cons]
    | removeUser id => exact hc.elim
    | removeToken id => exact hc.elim
    | clear => exact hc.elim

lemma step_of_adds (h : ∀ c ∈ changes, c.Adds) : t.Step (t.after changes) := by
  rw [after_of_adds h]
  exact .added _ _

lemma step_of_removes (h : ∀ c ∈ changes, ¬c.Adds) : t.Step (t.after changes) := by
  have hafter : ∃ user token,
      t.after changes = ⟨t.users.filter user, t.tokens.filter token⟩ := by
    induction changes generalizing t with
    | nil => exact ⟨fun _ => true, fun _ => true, by simp⟩
    | cons c rest ih =>
      obtain ⟨hc, hrest⟩ := List.forall_mem_cons.mp h
      obtain ⟨user, token, he⟩ := ih (t := c.apply t) hrest
      rw [after_cons, he]
      cases c with
      | addUser row => exact (hc trivial).elim
      | addToken row => exact (hc trivial).elim
      | removeUser id =>
        exact ⟨fun u => user u && u.id ≠ id, fun k => token k && k.userId ≠ id, by
          simp [Change.apply, deleteUser]⟩
      | removeToken id =>
        exact ⟨user, fun k => token k && k.id ≠ id, by simp [Change.apply, deleteToken]⟩
      | clear => exact ⟨fun _ => false, fun _ => false, by simp [Change.apply]⟩
  obtain ⟨user, token, he⟩ := hafter
  rw [he]
  exact .removed user token

namespace Advances

lemma refl (t : Tables) : t.Advances t := ⟨[], trivial, .inl (by simp), rfl⟩

lemma consistent (h : t.Advances t') (ht : t.Consistent) : t'.Consistent := by
  obtain ⟨changes, hadmits, -, rfl⟩ := h
  exact ht.after hadmits

lemma step (h : t.Advances t') : t.Step t' := by
  obtain ⟨changes, -, hadds | hremoves, rfl⟩ := h
  · exact step_of_adds hadds
  · exact step_of_removes hremoves

end Advances

/-- Where ids are unique, a step that adds or removes rows leaves the others as they are. -/
lemma Step.unaltered (h : t.Step t') (ht : t.Consistent) (ht' : t'.Consistent) :
    t.Unaltered t' := by
  cases h with
  | added users tokens =>
    exact
      { users := fun u hu v hv hid =>
          List.inj_on_of_nodup_map ht'.userIds hv (List.mem_append_left _ hu) hid
        tokens := fun k hk l hl hid =>
          List.inj_on_of_nodup_map ht'.tokenIds hl (List.mem_append_left _ hk) hid }
  | removed user token =>
    exact
      { users := fun u hu v hv hid =>
          List.inj_on_of_nodup_map ht.userIds (List.mem_filter.mp hv).1 hu hid
        tokens := fun k hk l hl hid =>
          List.inj_on_of_nodup_map ht.tokenIds (List.mem_filter.mp hl).1 hk hid }

/-- Rows that advance from consistent ones stay consistent, and none of them is altered. -/
lemma chain_of_advances {list : List Tables} (h : (t :: list).IsChain Advances) (ht : t.Consistent) :
    (∀ x ∈ t :: list, x.Consistent) ∧
      (t :: list).IsChain fun x y => x.Step y ∧ x.Unaltered y := by
  induction list generalizing t with
  | nil => exact ⟨by simpa using ht, List.isChain_singleton _⟩
  | cons next rest ih =>
    obtain ⟨hnext, hrest⟩ := List.isChain_cons_cons.mp h
    have hconsistent := hnext.consistent ht
    obtain ⟨hall, hchain⟩ := ih hrest hconsistent
    refine ⟨List.forall_mem_cons.mpr ⟨ht, hall⟩, List.isChain_cons_cons.mpr ⟨⟨hnext.step, ?_⟩, hchain⟩⟩
    exact hnext.step.unaltered ht hconsistent

end Tables

/-! ### The changes of an event are of one kind -/

lemma uniform_nil : Uniform [] := .inl (by simp)

lemma User.added_adds (now : Option Stamp) (u : User) : ∀ c ∈ u.added now, c.Adds := by
  intro c hc
  obtain ⟨t, -, rfl⟩ := List.mem_map.mp hc
  trivial

lemma Token.added_adds (now : Option Stamp) (expiresAt : Option DateTime) (k : Token) :
    ∀ c ∈ k.added now expiresAt, c.Adds := by
  intro c hc
  obtain ⟨t, -, rfl⟩ := List.mem_map.mp hc
  trivial

lemma Credentials.added_adds (now : Option Stamp) (expiresAt : Option DateTime) (m : Credentials) :
    ∀ c ∈ m.added now expiresAt, c.Adds := by
  intro c hc
  obtain hc | hc := List.mem_append.mp hc
  · exact User.added_adds now m.user c hc
  · exact Token.added_adds now expiresAt m.token c hc

lemma uniform_removed {ι : Type} {list : List ι} {f : ι → Change} (hf : ∀ i, ¬(f i).Adds) :
    Uniform (list.map f) := by
  refine .inr fun c hc => ?_
  obtain ⟨i, -, rfl⟩ := List.mem_map.mp hc
  exact hf i

lemma Call.changes_uniform (call : Call) (now : Option Stamp) (r : Except Failure Answer) :
    Uniform (call.changes now r) := by
  unfold changes
  split
  · exact .inl (User.added_adds now _)
  · exact .inl (Token.added_adds now _ _)
  · exact uniform_removed fun _ => id
  · exact uniform_removed fun _ => id
  · exact .inr fun c hc => by rw [List.mem_singleton.mp hc]; exact id
  · exact .inl (Credentials.added_adds now _ _)
  · exact .inl (Credentials.added_adds now _ _)
  · exact uniform_nil

namespace BlockStep

lemma rows_adds (step : BlockStep) (now : Option Stamp) (r : Except Failure Answer) :
    ∀ c ∈ step.rows now r, c.Adds := by
  unfold rows
  split
  · exact User.added_adds now _
  · exact Token.added_adds now _ _
  · simp

lemma commits_uniform (step : BlockStep) (now : Option Stamp) (r : Except Failure Answer) :
    Uniform (step.commits now r) := by
  unfold commits
  split
  · exact Call.changes_uniform _ now r
  · exact Call.changes_uniform _ now r
  · exact uniform_nil

end BlockStep

lemma Taken.own_adds (store : Store) (taken : Taken) : ∀ c ∈ taken.own store, c.Adds := by
  unfold own
  split
  · exact BlockStep.rows_adds _ _ _
  · exact BlockStep.rows_adds _ _ _

lemma RequestDraft.changes_uniform (now : Option Stamp) (server : Option ServerName)
    (draft : RequestDraft) (response : Response) : Uniform (draft.changes now server response) := by
  unfold changes
  split
  · unfold Request.changes
    split
    · cases response.content.bind Credentials.ofJson? with
      | none => exact uniform_nil
      | some m => exact .inl (Credentials.added_adds now none m)
    · exact .inr fun c hc => by rw [List.mem_singleton.mp hc]; exact id
    · exact uniform_nil
  · exact uniform_nil

lemma CommandLine.changes_uniform (w : World) (words : List Text) (env : Environment) (r : Report) :
    Uniform (changes w words env r) := by
  unfold changes
  split
  · unfold World.atHome
    split
    · cases hcreated : r.created with
      | none =>
        rw [reported, hcreated]
        exact uniform_nil
      | some m =>
        rw [reported, hcreated]
        exact .inl (Credentials.added_adds _ none m)
    · exact uniform_nil
  · exact uniform_nil

/-! ### Through a block -/

namespace BlockScript

variable {store : Store} {w₀ w w' : World} {earlier own : List Change} {s : Session}

/-- The rows that are stored before each step of a block, and before its end. -/
def passes (store : Store) (script : BlockScript) (s : Session) (w : World) : List Tables :=
  (script.trace store s w).map (·.world.stored) ++ [(script.perform store s w).2.stored]

lemma step_advances {step : BlockStep} {r : Except Failure Answer} {s' : Session}
    (h : Progress w₀ earlier own s w) (hx : step.perform store s w = ((r, s'), w')) :
    w.stored.Advances w'.stored := by
  have hp := BlockStep.perform_progress h hx
  refine ⟨_, ?_, BlockStep.commits_uniform step w.stamp? r, ?_⟩
  · rw [h.stored]
    exact (Tables.admits_append.mp hp.admits).2
  · rw [hp.stored, Tables.after_append, ← h.stored]
    rfl

lemma passes_advance {script : BlockScript} (h : Progress w₀ earlier own s w) :
    ∃ later, script.passes store s w = w.stored :: later ∧
      (w.stored :: later).IsChain Tables.Advances := by
  induction script generalizing earlier own s w with
  | nil => exact ⟨[], rfl, List.isChain_singleton _⟩
  | cons head rest ih =>
    obtain ⟨step, caught⟩ := head
    rcases hstep : step.perform store s w with ⟨⟨r, s₁⟩, w₁⟩
    have hadvance := step_advances h hstep
    by_cases hon : r.isOk ∨ caught || step.isOutside
    · obtain ⟨hperform, htrace⟩ := perform_on rest hstep hon
      obtain ⟨later, hlater, hchain⟩ := ih (BlockStep.perform_progress h hstep)
      refine ⟨w₁.stored :: later, ?_, List.isChain_cons_cons.mpr ⟨hadvance, hchain⟩⟩
      rw [← hlater, passes, htrace, hperform]
      rfl
    · obtain ⟨⟨f, -, hperform⟩, htrace⟩ := perform_off rest hstep hon
      refine ⟨[w₁.stored], ?_, List.isChain_cons_cons.mpr ⟨hadvance, List.isChain_singleton _⟩⟩
      rw [passes, htrace, hperform]
      rfl

/-- What a block passes through, up to what its end leaves. -/
lemma run_advances (script : BlockScript) (w : World) :
    ∃ later, script.passes store {} w = w.stored :: later ∧
      (w.stored :: (later ++ [(script.run store w).2.stored])).IsChain Tables.Advances := by
  rcases hblock : script.perform store {} w with ⟨⟨⟨answers, ending⟩, s⟩, w₁⟩
  rcases hend : store.finish ending s w₁ with ⟨finished, w₂⟩
  have hrun : (script.run store w).2 = w₂ := by
    rw [run, hblock]
    dsimp only
    rw [hend]
  have hpasses : ∃ later, script.passes store {} w = w.stored :: later ∧
      (w.stored :: later).IsChain Tables.Advances := passes_advance (Progress.start w)
  obtain ⟨later, hlater, hchain⟩ := hpasses
  refine ⟨later, hlater, ?_⟩
  obtain ⟨-, hp⟩ := perform_progress (Progress.start w) hblock
  have hown : ∀ c ∈ [] ++ (script.trace store {} w).flatMap (Taken.own store), c.Adds := by
    intro c hc
    obtain ⟨taken, -, hc⟩ := List.mem_flatMap.mp hc
    exact taken.own_adds store c hc
  have hlast : w₁.stored.Advances w₂.stored := by
    obtain ⟨a, -, -, hc⟩ | ⟨f, -, hc⟩ := hp.finish hend
    · refine ⟨_, hp.stored ▸ (Tables.admits_append.mp hc.admits).2, .inl hown, ?_⟩
      rw [hc.stored, Tables.after_append, ← hp.stored]
    · rw [hc.stored, ← hp.stored]
      exact .refl _
  rw [hrun, ← List.cons_append, ← hlater]
  rw [← hlater] at hchain
  refine hchain.append (List.isChain_singleton _) ?_
  intro x hx y hy
  rw [passes, List.getLast?_concat, hblock] at hx
  cases hx
  cases hy
  exact hlast

end BlockScript

/-! ### Through a run -/

namespace Event

/-- The rows that are stored while an event happens, before its end. -/
def passes (mishaps : Mishaps) (w : World) : Event → List Tables
  | block script => script.passes ⟨mishaps.store⟩ {} w
  | _ => [w.stored]

/-- All that the stored rows pass through in a run. -/
def course : List (Mishaps × Event) → World → List Tables
  | [], w => [w.stored]
  | (mishaps, e) :: rest, w =>
    e.passes mishaps w.anew ++ course rest (e.happen mishaps w).2

lemma changes_uniform {e : Event} (hblock : ∀ script, e ≠ block script) (mishaps : Mishaps)
    (w : World) (r : Reaction) : Uniform (e.changes mishaps w r) := by
  unfold changes
  split
  · exact Call.changes_uniform _ _ _
  · exact absurd rfl (hblock _)
  · exact RequestDraft.changes_uniform _ _ _ _
  · exact CommandLine.changes_uniform _ _ _ _
  · exact uniform_nil

lemma happen_advances (mishaps : Mishaps) (e : Event) (w : World) :
    ∃ later, e.passes mishaps w.anew = w.stored :: later ∧
      (w.stored :: (later ++ [(e.happen mishaps w).2.stored])).IsChain Tables.Advances := by
  by_cases hblock : ∃ script, e = block script
  · obtain ⟨script, rfl⟩ := hblock
    exact BlockScript.run_advances script w.anew
  · have hfollows := happen_follows (rfl : e.happen mishaps w = (_, _))
    refine ⟨[], ?_, List.isChain_cons_cons.mpr ⟨⟨_, hfollows.admits, ?_, hfollows.stored⟩,
      List.isChain_singleton _⟩⟩
    · cases e with
      | block script => exact absurd ⟨script, rfl⟩ hblock
      | _ => rfl
    · exact changes_uniform (fun script hscript => hblock ⟨script, hscript⟩) _ _ _

lemma course_advances (events : List (Mishaps × Event)) (w : World) :
    ∃ later, course events w = w.stored :: later ∧
      (w.stored :: later).IsChain Tables.Advances := by
  induction events generalizing w with
  | nil => exact ⟨[], rfl, List.isChain_singleton _⟩
  | cons head rest ih =>
    obtain ⟨mishaps, e⟩ := head
    obtain ⟨first, hfirst, hchain⟩ := happen_advances mishaps e w
    obtain ⟨later, hlater, hrest⟩ := ih (e.happen mishaps w).2
    refine ⟨first ++ (e.happen mishaps w).2.stored :: later, ?_, ?_⟩
    · rw [course, hfirst, hlater, List.cons_append]
    · rw [← List.cons_append] at hchain
      have hall := hchain.append_overlap hrest (List.cons_ne_nil _ _)
      simpa using hall

lemma course_last (events : List (Mishaps × Event)) (w : World) :
    (course events w).getLast? = some (run events w).2.stored := by
  induction events generalizing w with
  | nil => rfl
  | cons head rest ih =>
    obtain ⟨mishaps, e⟩ := head
    rw [course, List.getLast?_append, ih, run_cons]
    rfl

end Event

/-! ### Columns that must not be null -/

/-- An insert is given no value for a column that must have one. -/
def BlockStep.Null : BlockStep → Prop
  | insertUser id username _ => id = none ∨ username = none
  | insertToken id userId secret name _ =>
    id = none ∨ userId = none ∨ secret = none ∨ name = .missing
  | _ => False

lemma Store.tokenInsertion_given {id userId secret : Option Text} {name : Label}
    {expiry now : Option Stamp} {f : Tables → Except Violation (TokenRow × Tables)}
    {rows rows' : Tables} {row : TokenRow}
    (hf : (tokenInsertion id userId secret name expiry now).apply = some f)
    (hok : f rows = .ok (row, rows')) :
    stored? id = some row.id ∧ stored? name.text? = some row.name := by
  cases now with
  | none => cases hf
  | some stamp =>
    cases hf
    obtain ⟨hnew, -⟩ := Tables.insertToken_ok hok
    obtain ⟨hid, -, -, hname, -⟩ := NewToken.mk.inj hnew
    exact ⟨hid, hname⟩

lemma Block.map_ok {α β : Type} {f : α → β} {b : Block α} {s s' : Session} {w w' : World} {y : β}
    (h : (f <$> b) s w = ((.ok y, s'), w')) : ∃ x, b s w = ((.ok x, s'), w') ∧ f x = y := by
  rw [Block.map_apply] at h
  rcases hb : b s w with ⟨⟨e | x, s₁⟩, w₁⟩
  · rw [hb] at h
    cases h
  · rw [hb] at h
    cases h
    exact ⟨x, rfl, rfl⟩

variable {store : Store} {s s' : Session} {w w' : World}

lemma Store.insertUser_given {id username : Option Text} {isStaff : Flag} {u : User}
    (h : store.insertUser id username isStaff s w = ((.ok u, s'), w')) :
    id ≠ none ∧ username ≠ none := by
  unfold Store.insertUser at h
  obtain ⟨e, -, he⟩ | ⟨result, s₁, w₁, hinsert, hrest⟩ := Block.bind_cases h
  · cases he
  cases result with
  | error e => cases hrest
  | ok row =>
    obtain ⟨f, rows, rows', hf, hok, -⟩ := Store.insert_applies hinsert
    obtain ⟨-, hid, hname, -⟩ := Store.userInsertion_puts hf hok
    constructor
    · rintro rfl
      cases hid
    · rintro rfl
      cases hname

lemma Store.insertToken_told {id userId secret : Option Text} {name : Label}
    {expiresAt : Option DateTime} {k : Token}
    (h : store.insertToken id userId secret name expiresAt s w = ((.ok k, s'), w')) :
    stored? id = some k.tokenId ∧ stored? userId = some k.userId ∧ stored? secret = some k.secret ∧
      stored? name.text? = some k.name := by
  unfold Store.insertToken at h
  obtain ⟨e, -, he⟩ | ⟨expiry, s₁, w₁, -, hrest⟩ := Block.bind_cases h
  · cases he
  obtain ⟨e, -, he⟩ | ⟨result, s₂, w₂, hinsert, hlast⟩ := Block.bind_cases hrest
  · cases he
  cases result with
  | error e => cases hlast
  | ok row =>
    cases hlast
    obtain ⟨f, rows, rows', hf, hok, -⟩ := Store.insert_applies hinsert
    obtain ⟨-, -, huser, hsecret, -⟩ := Store.tokenInsertion_puts hf hok
    obtain ⟨hid, hname⟩ := Store.tokenInsertion_given hf hok
    exact ⟨hid, huser, hsecret, hname⟩

lemma Store.insertToken_given {id userId secret : Option Text} {name : Label}
    {expiresAt : Option DateTime} {k : Token}
    (h : store.insertToken id userId secret name expiresAt s w = ((.ok k, s'), w')) :
    id ≠ none ∧ userId ≠ none ∧ secret ≠ none ∧ name ≠ .missing := by
  obtain ⟨hid, huser, hsecret, hname⟩ := insertToken_told h
  refine ⟨?_, ?_, ?_, ?_⟩
  · rintro rfl
    cases hid
  · rintro rfl
    cases huser
  · rintro rfl
    cases hsecret
  · rintro rfl
    cases hname

/-- An insert without a value for a column that must have one does not come through. -/
lemma BlockStep.perform_null {step : BlockStep} (h : step.Null) {a : Answer} :
    step.perform store s w ≠ ((.ok a, s'), w') := by
  intro hok
  cases step with
  | insertUser id username isStaff =>
    obtain ⟨u, hu, -⟩ := Block.map_ok hok
    obtain ⟨hid, hname⟩ := Store.insertUser_given hu
    exact h.elim hid hname
  | insertToken id userId secret name expiresAt =>
    obtain ⟨k, hk, -⟩ := Block.map_ok hok
    obtain ⟨hid, huser, hsecret, hname⟩ := Store.insertToken_given hk
    obtain h | h | h | h := h
    · exact hid h
    · exact huser h
    · exact hsecret h
    · exact hname h
  | _ => exact h

/-! ### The invariant -/

namespace Event

/-- From empty tables, whatever happens: at every point of a run the ids of users and of tokens, the
usernames and the secrets are unique, and every token belongs to a user that is there. From one point
to the next rows are only added or only removed, and a row that stays is the same in all its columns.
No column that must have a value is ever without one, since no insert comes through that lacks it. -/
theorem run_representation (events : List (Mishaps × Event)) {w : World} (hempty : w.stored = {}) :
    (course events w).head? = some {} ∧
      (course events w).getLast? = some (run events w).2.stored ∧
      (∀ t ∈ course events w, t.Consistent) ∧
      ((course events w).IsChain fun t t' => t.Step t' ∧ t.Unaltered t') ∧
      ∀ (store : Store) (step : BlockStep) s v a s' v', step.Null →
        step.perform store s v ≠ ((.ok a, s'), v') := by
  obtain ⟨later, hcourse, hchain⟩ := course_advances events w
  obtain ⟨hconsistent, hsteps⟩ :=
    Tables.chain_of_advances hchain (hempty ▸ Tables.consistent_empty)
  refine ⟨?_, course_last events w, ?_, ?_, fun _ _ _ _ _ _ _ hnull => BlockStep.perform_null hnull⟩
  · rw [hcourse, List.head?_cons, hempty]
  · rw [hcourse]
    exact hconsistent
  · rw [hcourse]
    exact hsteps

/-- A user is stored with a token, and deleted again. -/
def passing : List (Mishaps × Event) := moving ++ [(({} : Mishaps), .call (.deleteUser (some "a")))]

theorem run_representation_passing :
    ({} : World).stored = {} ∧ (course passing {}).head? = some {} ∧
      (course passing {}).getLast? = some (run passing {}).2.stored ∧
      (∀ t ∈ course passing {}, t.Consistent) ∧
      ((course passing {}).IsChain fun t t' => t.Step t' ∧ t.Unaltered t') ∧
      ∀ (store : Store) (step : BlockStep) s v a s' v', step.Null →
        step.perform store s v ≠ ((.ok a, s'), v') :=
  ⟨rfl, run_representation passing rfl⟩

end Event

end BearerAccess
