import BearerAccess.Event
import BearerAccess.Proofs.Creation
import BearerAccess.Proofs.Reread
import BearerAccess.Proofs.Success

/-!
# Entries

An entry is the insert of a user or of a token, as data. What it adds is told from the entry and the
moment alone, and it comes through just if that fits the rows that its session meets. The same goes for
a batch of entries, which is one with a transaction of its own or some in a block, and for one batch
after the other.
-/

namespace BearerAccess

/-- The insert of a user or of a token. -/
inductive Entry where
  | user (id username : Option Text) (isStaff : Flag)
  | token (id userId secret : Option Text) (name : Label) (expiresAt : Option DateTime)
  deriving DecidableEq, Repr

/-- What an insert answers with when it has added a row. -/
def Change.answer : Change → Answer
  | addUser row => .user row.toUser
  | addToken row => .token row.toToken
  | _ => .nothing

namespace Entry

def step : Entry → BlockStep
  | user id username isStaff => .insertUser id username isStaff
  | token id userId secret name expiresAt => .insertToken id userId secret name expiresAt

def call : Entry → Call
  | user id username isStaff => .insertUser id username isStaff
  | token id userId secret name expiresAt => .insertToken id userId secret name expiresAt

/-- The row that an entry adds at a moment if it comes through. There is none if it lacks a value, or
has one that cannot be stored. -/
def change? (now : Option Stamp) : Entry → Option Change
  | user id username isStaff => do
    let createdAt ← now
    return .addUser ⟨← stored? id, ← stored? username, ← isStaff.stored?, createdAt⟩
  | token id userId secret name expiresAt =>
    if expiresAt.all (·.toUniversal?.isSome) then do
      let createdAt ← now
      return .addToken ⟨← stored? id, ← stored? userId, ← stored? secret, ← stored? name.text?,
        storedExpiry expiresAt, createdAt⟩
    else none

/-- What some entries add at a moment, one after the other. -/
def changes (now : Option Stamp) (entries : List Entry) : List Change :=
  entries.filterMap (·.change? now)

/-- All of some entries add a row at a moment, and these fit some rows. -/
structure Fit (now : Option Stamp) (rows : Tables) (entries : List Entry) : Prop where
  adds : ∀ e ∈ entries, (e.change? now).isSome
  admits : rows.Admits (changes now entries)

instance (now : Option Stamp) (rows : Tables) (entries : List Entry) :
    Decidable (Fit now rows entries) :=
  decidable_of_iff
    ((∀ e ∈ entries, (e.change? now).isSome) ∧ rows.Admits (changes now entries))
    ⟨fun h => ⟨h.1, h.2⟩, fun h => ⟨h.adds, h.admits⟩⟩

end Entry

variable {α β : Type} {store : Store} {s s' : Session} {w w' : World} {rows : Tables}
  {now : Option Stamp} {c : Change} {e : Entry}

/-! ### Rows that fit -/

namespace Tables

lemma insertUser_of_fits {row : UserRow} (h : (Change.addUser row).Fits rows) :
    rows.insertUser ⟨some row.id, some row.username, row.isStaff⟩ row.createdAt =
      .ok (row, (Change.addUser row).apply rows) := by
  have hname : ¬rows.users.any (·.username = row.username) := by
    rw [List.any_eq_true]
    rintro ⟨u, hu, he⟩
    exact (h u hu).1 (of_decide_eq_true he)
  have hid : ¬rows.users.any (·.id = row.id) := by
    rw [List.any_eq_true]
    rintro ⟨u, hu, he⟩
    exact (h u hu).2 (of_decide_eq_true he)
  rw [insertUser_eq, if_neg hname, if_neg hid]

lemma insertToken_of_fits {row : TokenRow} (h : (Change.addToken row).Fits rows) :
    rows.insertToken ⟨some row.id, some row.userId, some row.secret, some row.name, row.expiresAt⟩
      row.createdAt = .ok (row, (Change.addToken row).apply rows) := by
  obtain ⟨hkeys, owner, howner, hid⟩ := h
  have hsecret : ¬rows.tokens.any (·.secret = row.secret) := by
    rw [List.any_eq_true]
    rintro ⟨k, hk, he⟩
    exact (hkeys k hk).1 (of_decide_eq_true he)
  have hid' : ¬rows.tokens.any (·.id = row.id) := by
    rw [List.any_eq_true]
    rintro ⟨k, hk, he⟩
    exact (hkeys k hk).2 (of_decide_eq_true he)
  have hthere : rows.users.any (·.id = row.userId) = true :=
    List.any_eq_true.mpr ⟨owner, howner, decide_eq_true hid⟩
  unfold insertToken
  dsimp only [present, Bind.bind, Except.bind]
  rw [if_neg hsecret, if_neg hid', hthere]
  rfl

end Tables

/-! ### One entry -/

lemma Session.Sees.unique {db : Database} {met : Tables} (h : s.Sees db rows) (h' : s.Sees db met) :
    met = rows := by
  unfold Sees at h h'
  cases hstage : s.stage with
  | fresh =>
    rw [hstage] at h h'
    exact Option.some.inj (h'.1.symm.trans h.1)
  | writing own =>
    rw [hstage] at h h'
    exact h'.symm.trans h
  | dead =>
    rw [hstage] at h
    exact h.elim

/-- A session puts what a change adds among the rows that it meets, which it fits, and writes them from
then on under the lock. -/
structure Session.Takes (s : Session) (w : World) (rows : Tables) (c : Change) (s' : Session)
    (w' : World) : Prop where
  sees : s.Sees w.database rows
  fits : c.Fits rows
  stage : s'.stage = .writing (c.apply rows)
  ground : w'.ground = { w.ground with database := { w.database with locked := true } }

lemma Session.Takes.steady (h : s.Takes w rows c s' w') : w.Steady w' :=
  .of_database h.ground rfl rfl

lemma Session.Takes.sees_later (h : s.Takes w rows c s' w') :
    s'.Sees w'.database (c.apply rows) := by
  rw [Sees, h.stage]

namespace Store

/-- An insert that comes through has values that the database takes. -/
lemma presentable_of_insert {i : Option Stamp → Insertion α} {a : α}
    (h : store.insert i s w = ((.ok (.ok a), s'), w')) : ∃ f, Presentable (i w.stamp?) f := by
  unfold insert at h
  dsimp only at h
  split at h
  · cases h
  split at h
  · cases h
  rcases hhanded : handOver i s w.assigned with ⟨⟨e | b, s₁⟩, w₁⟩
  · rw [hhanded] at h
    cases h
  have hfirst := handOver_fst i s w.assigned
  rw [hhanded] at hfirst
  cases hverdict : (w.assigned.attach s).1.verdict (w.assigned.attach s).2.database
      (i w.assigned.stamp?) with
  | error e =>
    rw [hverdict] at hfirst
    cases hfirst
  | ok result =>
    obtain ⟨f, -, -, hi, -⟩ := Session.verdict_ok hverdict
    exact ⟨f, hi⟩

/-- An insert that comes through puts a row among those that its session meets. -/
lemma insert_ok {i : Option Stamp → Insertion α} {a : α}
    (h : store.insert i s w = ((.ok (.ok a), s'), w')) :
    ∃ f rows rows', Presentable (i w.stamp?) f ∧ s.Sees w.database rows ∧ f rows = .ok (a, rows') ∧
      s'.stage = .writing rows' ∧
      w'.ground = { w.ground with database := { w.database with locked := true } } := by
  obtain ⟨f, hi⟩ := presentable_of_insert h
  obtain ⟨settled, -, -, hresult, hcases⟩ := insert_cases h
  obtain rfl : settled = .ok a := by
    obtain hok | ⟨e, he⟩ := hresult
    · exact (Except.ok.inj hok).symm
    · cases he
  obtain ⟨e, he, -⟩ | ⟨e, he, -⟩ | ⟨b, g, rows, rows', hsees, hg, hput, hb, hlast⟩ := hcases
  · cases he
  · cases he
  · cases hb
    obtain rfl : f = g := Option.some.inj (hi.apply.symm.trans hg)
    exact ⟨f, rows, rows', hi, hsees, hput, hlast⟩

/-- So does what passes its answer on. -/
lemma insert_bind_ok {i : Option Stamp → Insertion α} {g : Except Refusal α → Block β} {f : α → β}
    {told : Refusal → Cause} {b : β} (h : (store.insert i >>= g) s w = ((.ok b, s'), w'))
    (hok : ∀ a, g (.ok a) = pure (f a)) (herror : ∀ e, g (.error e) = fail (told e)) :
    ∃ a put rows rows', b = f a ∧ Presentable (i w.stamp?) put ∧ s.Sees w.database rows ∧
      put rows = .ok (a, rows') ∧ s'.stage = .writing rows' ∧
      w'.ground = { w.ground with database := { w.database with locked := true } } := by
  obtain ⟨e, -, he⟩ | ⟨x, s₁, w₁, hinsert, hrest⟩ := Block.bind_cases h
  · cases he
  cases x with
  | error e =>
    rw [herror] at hrest
    cases hrest
  | ok a =>
    rw [hok] at hrest
    cases hrest
    obtain ⟨put, rows, rows', hput⟩ := insert_ok hinsert
    exact ⟨a, put, rows, rows', rfl, hput⟩

end Store

namespace Entry

lemma change_of_userInsertion {id username : Option Text} {isStaff : Flag}
    {f : Tables → Except Violation (UserRow × Tables)} {row : UserRow} {rows' : Tables}
    (hi : Store.Presentable (Store.userInsertion id username isStaff now) f)
    (hok : f rows = .ok (row, rows')) :
    (user id username isStaff).change? now = some (.addUser row) ∧ (Change.addUser row).Fits rows ∧
      rows' = (Change.addUser row).apply rows := by
  cases now with
  | none => cases hi.apply
  | some stamp =>
    cases hi.apply
    obtain ⟨hnew, rfl, hfits, hrows⟩ := Tables.insertUser_ok hok
    obtain ⟨hid, hname, hstaff⟩ := NewUser.mk.inj hnew
    obtain ⟨flag, hflag⟩ := Option.isSome_iff_exists.mp hi.storable
    rw [hflag, Option.getD_some] at hstaff
    refine ⟨?_, hfits, hrows⟩
    simp only [change?, hid, hname, hflag, hstaff, Option.bind_eq_bind, Option.bind_some,
      Option.pure_def]

lemma change_of_tokenInsertion {id userId secret : Option Text} {name : Label}
    {expiresAt : Option DateTime} (huniversal : expiresAt.all (·.toUniversal?.isSome))
    {f : Tables → Except Violation (TokenRow × Tables)} {row : TokenRow} {rows' : Tables}
    (hi : Store.Presentable (Store.tokenInsertion id userId secret name (storedExpiry expiresAt) now)
      f)
    (hok : f rows = .ok (row, rows')) :
    (token id userId secret name expiresAt).change? now = some (.addToken row) ∧
      (Change.addToken row).Fits rows ∧ rows' = (Change.addToken row).apply rows := by
  cases now with
  | none => cases hi.apply
  | some stamp =>
    cases hi.apply
    obtain ⟨hnew, rfl, hfits, hrows⟩ := Tables.insertToken_ok hok
    obtain ⟨hid, howner, hsecret, hname, hexpiry⟩ := NewToken.mk.inj hnew
    refine ⟨?_, hfits, hrows⟩
    simp only [change?, hid, howner, hsecret, hname, hexpiry, if_pos huniversal,
      Option.bind_eq_bind, Option.bind_some, Option.pure_def]

/-- An entry that comes through has added its row, and answers with it. -/
lemma perform_ok {a : Answer} (h : e.step.perform store s w = ((.ok a, s'), w')) :
    ∃ c rows, e.change? w.stamp? = some c ∧ a = c.answer ∧ s.Takes w rows c s' w' := by
  cases e with
  | user id username isStaff =>
    obtain ⟨u, hinsert, rfl⟩ := Block.map_ok h
    unfold Store.insertUser at hinsert
    obtain ⟨row, f, rows, rows', rfl, hi, hsees, hok, hstage, hground⟩ :=
      Store.insert_bind_ok hinsert (fun _ => rfl) fun _ => rfl
    obtain ⟨hc, hfits, rfl⟩ := change_of_userInsertion hi hok
    exact ⟨_, rows, hc, rfl, hsees, hfits, hstage, hground⟩
  | token id userId secret name expiresAt =>
    cases huniversal : expiresAt.all (·.toUniversal?.isSome) with
    | false =>
      obtain ⟨given, rfl, hnone⟩ := overflows_of_not_all huniversal
      rw [step, BlockStep.insertToken_overflow store id userId secret name hnone] at h
      cases h
    | true =>
      obtain ⟨k, hinsert, rfl⟩ := Block.map_ok h
      unfold Store.insertToken at hinsert
      rw [Block.bind_apply, Store.expiryStamp_of_universal huniversal] at hinsert
      obtain ⟨row, f, rows, rows', rfl, hi, hsees, hok, hstage, hground⟩ :=
        Store.insert_bind_ok hinsert (fun _ => rfl) fun _ => rfl
      obtain ⟨hc, hfits, rfl⟩ := change_of_tokenInsertion huniversal hi hok
      exact ⟨_, rows, hc, rfl, hsees, hfits, hstage, hground⟩

lemma change?_user {id username : Option Text} {isStaff : Flag}
    (h : (user id username isStaff).change? now = some c) :
    ∃ row, c = .addUser row ∧ now = some row.createdAt ∧ stored? id = some row.id ∧
      stored? username = some row.username ∧ isStaff.stored? = some row.isStaff := by
  simp only [change?, Option.bind_eq_bind, Option.bind_eq_some_iff, Option.pure_def,
    Option.some.injEq] at h
  obtain ⟨createdAt, hnow, id', hid, name, hname, flag, hflag, rfl⟩ := h
  exact ⟨_, rfl, hnow, hid, hname, hflag⟩

lemma change?_token {id userId secret : Option Text} {name : Label} {expiresAt : Option DateTime}
    (h : (token id userId secret name expiresAt).change? now = some c) :
    expiresAt.all (·.toUniversal?.isSome) = true ∧ ∃ row, c = .addToken row ∧
      now = some row.createdAt ∧ stored? id = some row.id ∧ stored? userId = some row.userId ∧
      stored? secret = some row.secret ∧ stored? name.text? = some row.name ∧
      storedExpiry expiresAt = row.expiresAt := by
  by_cases huniversal : expiresAt.all (·.toUniversal?.isSome)
  · rw [change?, if_pos huniversal] at h
    simp only [Option.bind_eq_bind, Option.bind_eq_some_iff, Option.pure_def,
      Option.some.injEq] at h
    obtain ⟨createdAt, hnow, id', hid, owner, howner, secret', hsecret, label, hname, rfl⟩ := h
    exact ⟨huniversal, _, rfl, hnow, hid, howner, hsecret, hname, rfl⟩
  · rw [change?, if_neg huniversal] at h
    cases h

lemma userInsertion_of_change {id username : Option Text} {isStaff : Flag}
    (hc : (user id username isStaff).change? now = some c) :
    ∃ row f, c = .addUser row ∧
      Store.Presentable (Store.userInsertion id username isStaff now) f ∧
      ∀ rows, c.Fits rows → f rows = .ok (row, c.apply rows) := by
  obtain ⟨row, rfl, rfl, hid, hname, hflag⟩ := change?_user hc
  refine ⟨row, (·.insertUser ⟨some row.id, some row.username, row.isStaff⟩ row.createdAt), rfl,
    ⟨?_, ?_, ?_⟩, fun rows hfits => Tables.insertUser_of_fits hfits⟩
  · rw [Store.userInsertion, hflag, Option.isSome_some]
  · simp only [Store.userInsertion, List.findSome?, textObstacle?_of_stored hid,
      textObstacle?_of_stored hname]
  · simp only [Store.userInsertion, hid, hname, hflag, Option.map_some, Option.getD_some]

lemma tokenInsertion_of_change {id userId secret : Option Text} {name : Label}
    {expiresAt : Option DateTime}
    (hc : (token id userId secret name expiresAt).change? now = some c) :
    ∃ row f, c = .addToken row ∧
      Store.Presentable (Store.tokenInsertion id userId secret name (storedExpiry expiresAt) now) f ∧
      ∀ rows, c.Fits rows → f rows = .ok (row, c.apply rows) := by
  obtain ⟨-, row, rfl, rfl, hid, howner, hsecret, hname, hexpiry⟩ := change?_token hc
  refine ⟨row, (·.insertToken ⟨some row.id, some row.userId, some row.secret, some row.name,
    row.expiresAt⟩ row.createdAt), rfl, ⟨rfl, ?_, ?_⟩,
    fun rows hfits => Tables.insertToken_of_fits hfits⟩
  · cases name with
    | text t =>
      simp only [Store.tokenInsertion, List.findSome?, textObstacle?_of_stored hid,
        textObstacle?_of_stored howner, textObstacle?_of_stored hsecret, Option.none_or]
      exact textObstacle?_of_stored hname
    | _ => cases hname
  · simp only [Store.tokenInsertion, hid, howner, hsecret, hname, hexpiry, Option.map_some]

/-- An entry that adds a row comes through in a working store if this fits the rows that its session
meets. -/
lemma perform_of_fits (hc : e.change? w.stamp? = some c) (hsees : s.Sees w.database rows)
    (hfits : c.Fits rows) : ∃ s' w', e.step.perform {} s w = ((.ok c.answer, s'), w') ∧
      s.Takes w rows c s' w' := by
  cases e with
  | user id username isStaff =>
    obtain ⟨row, f, rfl, hi, hput⟩ := userInsertion_of_change hc
    obtain ⟨s', w', hinsert, hstage, hground, -⟩ := Store.insert_puts hi hsees (hput rows hfits)
    refine ⟨s', w', ?_, hsees, hfits, hstage, hground⟩
    rw [step, BlockStep.perform, Block.map_apply, Store.insertUser, Block.bind_apply, hinsert]
    rfl
  | token id userId secret name expiresAt =>
    obtain ⟨huniversal, -⟩ := change?_token hc
    obtain ⟨row, f, rfl, hi, hput⟩ := tokenInsertion_of_change hc
    obtain ⟨s', w', hinsert, hstage, hground, -⟩ := Store.insert_puts hi hsees (hput rows hfits)
    refine ⟨s', w', ?_, hsees, hfits, hstage, hground⟩
    rw [step, BlockStep.perform, Block.map_apply, Store.insertToken, Block.bind_apply,
      Store.expiryStamp_of_universal huniversal]
    dsimp only
    rw [Block.bind_apply, hinsert]
    rfl

end Entry

/-! ### Entries in a block -/

/-- Entries as the steps of a block, each with whether its failure would be caught. -/
def BlockScript.ofEntries (steps : List (Entry × Bool)) : BlockScript :=
  steps.map fun x => (x.1.step, x.2)

lemma ofEntries_cons (e : Entry) (caught : Bool) (rest : List (Entry × Bool)) :
    BlockScript.ofEntries ((e, caught) :: rest) = (e.step, caught) :: BlockScript.ofEntries rest :=
  rfl

namespace Entry

variable {steps : List (Entry × Bool)}

lemma changes_cons (hc : e.change? now = some c) (rest : List Entry) :
    changes now (e :: rest) = c :: changes now rest :=
  List.filterMap_cons_some hc

lemma Fit.nil : Fit now rows [] := by
  refine ⟨fun e he => ?_, trivial⟩
  cases he

lemma Fit.cons_iff (hc : e.change? now = some c) {rest : List Entry} :
    Fit now rows (e :: rest) ↔ c.Fits rows ∧ Fit now (c.apply rows) rest := by
  constructor
  · rintro ⟨hadds, hadmits⟩
    rw [changes_cons hc] at hadmits
    exact ⟨hadmits.1, (List.forall_mem_cons.mp hadds).2, hadmits.2⟩
  · rintro ⟨hfits, hadds, hadmits⟩
    refine ⟨List.forall_mem_cons.mpr ⟨by rw [hc, Option.isSome_some], hadds⟩, ?_⟩
    rw [changes_cons hc]
    exact ⟨hfits, hadmits⟩

/-- What an entry answers with at a moment when it comes through. -/
def answer (now : Option Stamp) (e : Entry) : Answer :=
  ((e.change? now).map Change.answer).getD .nothing

def answers (now : Option Stamp) (entries : List Entry) : List Answer := entries.map (·.answer now)

lemma answers_cons (hc : e.change? now = some c) (rest : List Entry) :
    answers now (e :: rest) = c.answer :: answers now rest := by
  rw [answers, List.map_cons, answer, hc, Option.map_some, Option.getD_some, answers]

/-- Rows with all that entries add at a moment. -/
def added (now : Option Stamp) (rows : Tables) (entries : List Entry) : Tables :=
  rows.after (changes now entries)

lemma added_cons (hc : e.change? now = some c) (rest : List Entry) :
    added now rows (e :: rest) = added now (c.apply rows) rest := by
  rw [added, changes_cons hc, Tables.after_cons, added]

/-- If the steps of a block have all come through in a session that meets some rows, then what they
add fits these. -/
lemma script_ok {told : List Answer} (hsees : s.Sees w.database rows)
    (h : (BlockScript.ofEntries steps).perform store s w =
      (((told.map .ok, .ok ()), s'), w')) :
    Fit w.stamp? rows (steps.map Prod.fst) ∧ told = answers w.stamp? (steps.map Prod.fst) ∧
      s'.Sees w'.database (added w.stamp? rows (steps.map Prod.fst)) ∧ w.Steady w' := by
  induction steps generalizing s w rows told with
  | nil =>
    obtain ⟨hanswer, rfl⟩ := Prod.mk.inj h
    obtain ⟨htold, rfl⟩ := Prod.mk.inj hanswer
    obtain rfl := List.map_eq_nil_iff.mp (Prod.mk.inj htold).1.symm
    exact ⟨.nil, rfl, hsees, .refl _⟩
  | cons head rest ih =>
    obtain ⟨e, caught⟩ := head
    rcases hstep : e.step.perform store s w with ⟨⟨r, s₁⟩, w₁⟩
    by_cases hon : r.isOk ∨ caught || e.step.isOutside
    · rw [ofEntries_cons, (BlockScript.perform_on _ hstep hon).1] at h
      rcases hrest : (BlockScript.ofEntries rest).perform store s₁ w₁
        with ⟨⟨⟨later, outcome⟩, s₂⟩, w₂⟩
      rw [hrest] at h
      obtain ⟨hanswer, rfl⟩ := Prod.mk.inj h
      obtain ⟨htold, rfl⟩ := Prod.mk.inj hanswer
      obtain ⟨hresults, rfl⟩ := Prod.mk.inj htold
      obtain ⟨a, more, rfl, rfl, rfl⟩ := List.map_eq_cons_iff.mp hresults.symm
      obtain ⟨c, met, hc, rfl, htakes⟩ := perform_ok hstep
      obtain rfl := hsees.unique htakes.sees
      obtain ⟨hfit, rfl, hlast, hsteady⟩ := ih htakes.sees_later hrest
      rw [htakes.steady.stamp] at hfit hlast ⊢
      rw [List.map_cons, answers_cons hc, added_cons hc]
      exact ⟨(Fit.cons_iff hc).mpr ⟨htakes.fits, hfit⟩, rfl, hlast, htakes.steady.trans hsteady⟩
    · obtain ⟨⟨f, rfl, hperform⟩, -⟩ := BlockScript.perform_off (BlockScript.ofEntries rest) hstep hon
      rw [ofEntries_cons, hperform] at h
      have hfailed : Except.error f = .ok () := congrArg (·.1.1.2) h
      cases hfailed

/-- If what the steps of a block add fits the rows that a session meets, then they all come through in
it in a working store. -/
lemma script_of_fit (hsees : s.Sees w.database rows)
    (hfit : Fit w.stamp? rows (steps.map Prod.fst)) : ∃ s' w',
    (BlockScript.ofEntries steps).perform {} s w =
        ((((answers w.stamp? (steps.map Prod.fst)).map .ok, .ok ()), s'), w') ∧
      s'.Sees w'.database (added w.stamp? rows (steps.map Prod.fst)) ∧ w.Steady w' := by
  induction steps generalizing s w rows with
  | nil => exact ⟨s, w, rfl, hsees, .refl w⟩
  | cons head rest ih =>
    obtain ⟨e, caught⟩ := head
    rw [List.map_cons] at hfit ⊢
    obtain ⟨c, hc⟩ := Option.isSome_iff_exists.mp (hfit.adds e List.mem_cons_self)
    obtain ⟨hfits, hrest⟩ := (Fit.cons_iff hc).mp hfit
    obtain ⟨s₁, w₁, hstep, htakes⟩ := perform_of_fits hc hsees hfits
    have hstamp := htakes.steady.stamp
    obtain ⟨s₂, w₂, hlater, hlast, hsteady⟩ := ih htakes.sees_later (hstamp ▸ hrest)
    rw [hstamp] at hlater hlast
    rw [answers_cons hc, added_cons hc]
    refine ⟨s₂, w₂, ?_, hlast, htakes.steady.trans hsteady⟩
    rw [ofEntries_cons, (BlockScript.perform_on _ hstep (.inl rfl)).1, hlater]
    rfl

/-- Some entries that have all come through in a block have met rows. -/
lemma script_meets {first : Entry × Bool} {rest : List (Entry × Bool)}
    {outcome : Except Failure Unit} {told : List Answer}
    (h : (BlockScript.ofEntries (first :: rest)).perform store s w =
      (((told.map .ok, outcome), s'), w')) : ∃ rows, s.Sees w.database rows := by
  obtain ⟨e, caught⟩ := first
  rcases hstep : e.step.perform store s w with ⟨⟨r, s₁⟩, w₁⟩
  have hfirst : ∃ later, told.map .ok = r :: later := by
    rw [ofEntries_cons] at h
    by_cases hon : r.isOk ∨ caught || e.step.isOutside
    · rw [(BlockScript.perform_on _ hstep hon).1] at h
      exact ⟨_, (congrArg (·.1.1.1) h).symm⟩
    · obtain ⟨⟨f, rfl, hperform⟩, -⟩ :=
        BlockScript.perform_off (BlockScript.ofEntries rest) hstep hon
      rw [hperform] at h
      exact ⟨_, (congrArg (·.1.1.1) h).symm⟩
  obtain ⟨later, hlater⟩ := hfirst
  obtain ⟨a, more, -, rfl, -⟩ := List.map_eq_cons_iff.mp hlater
  obtain ⟨c, rows, -, -, htakes⟩ := perform_ok hstep
  exact ⟨rows, htakes.sees⟩

end Entry

/-! ### Transactions of entries -/

/-- A world that has some rows, which a transaction can add to. -/
def World.Takes (w : World) (rows : Tables) : Prop := ({} : Session).Sees w.database rows

lemma World.Takes.unique {met : Tables} (h : w.Takes rows) (h' : w.Takes met) : met = rows :=
  Session.Sees.unique h h'

/-- The database that a commit leaves can be added to as before. -/
lemma Session.commit?_sees {v : World} {before : Tables} {faults : Faults} {db : Database}
    (hv : v.Takes before) (hsteady : v.Steady w) (hsees : s.Sees w.database rows)
    (h : s.commit? faults w.database = some db) : ({} : Session).Sees db rows := by
  obtain ⟨hbefore, hopen⟩ := hv
  rw [Database.isShut, Bool.or_eq_false_iff] at hopen
  unfold commit? at h
  split at h
  · cases h
  unfold Sees at hsees
  cases hstage : s.stage with
  | dead =>
    rw [hstage] at hsees
    exact hsees.elim
  | fresh =>
    rw [hstage] at h hsees
    cases h
    exact hsees
  | writing own =>
    rw [hstage] at h hsees
    cases h
    refine ⟨?_, ?_⟩
    · have hreachable : w.database.reachable = true :=
        hsteady.reachable.trans (Database.reachable_of_rows hbefore)
      rw [Database.rows?, if_pos hreachable, hsees]
    · rw [Database.isShut, hsteady.barrier, hopen.2]
      rfl

namespace Store

/-- A transaction that is committed leaves the rows that its session has met or made. -/
lemma finish_sees {v : World} {a b : α} {before : Tables} (hv : v.Takes before)
    (hsteady : v.Steady w) (hsees : s.Sees w.database rows)
    (h : store.finish (.ok a : Except Failure α) s w = (.ok b, w')) :
    b = a ∧ w'.Takes rows ∧ w'.clock = v.clock := by
  unfold finish at h
  dsimp only at h
  split at h
  · obtain ⟨f, w₁, hfails, -⟩ := rollBack_error (α := α) (store.faults w.tasks)
      (Cause.store .notCommitted) s (w.assigned.raising ((store.faults w.tasks).commit.map .method))
    rw [hfails] at h
    cases h
  · rename_i db hdb
    cases h
    have hground : (World.detach s { w.assigned with database := db }).ground =
        { w.ground with database := db } := World.ground_detach _ _
    refine ⟨rfl, ?_, (congrArg Ground.clock hground).trans hsteady.clock⟩
    have hdatabase : (World.detach s { w.assigned with database := db }).database = db :=
      congrArg Ground.database hground
    rw [World.Takes, hdatabase]
    exact Session.commit?_sees hv hsteady hsees hdb

/-- In a working store a transaction that went well is committed. -/
lemma finish_of_sees {v : World} (a : α) {before : Tables} (hv : v.Takes before)
    (hsteady : v.Steady w) (hsees : s.Sees w.database rows) :
    ∃ w', ({} : Store).finish (.ok a : Except Failure α) s w = (.ok a, w') ∧ w'.Takes rows ∧
      w'.clock = v.clock := by
  have halive : s.stage ≠ .dead := by
    intro hdead
    rw [Session.Sees, hdead] at hsees
    exact hsees
  obtain ⟨w', hfinish⟩ := finish_ok a halive w
  exact ⟨w', hfinish, (finish_sees hv hsteady hsees hfinish).2⟩

lemma finish_map (store : Store) (f : α → β) (result : Except Failure α) (s : Session) (w : World) :
    store.finish (result.map f) s w =
      ((store.finish result s w).1.map f, (store.finish result s w).2) := by
  have hundone (faults : Faults) (failure : Failure) (w : World) :
      (rollBack faults failure s w : Except Failure β × World) =
        ((rollBack faults failure s w : Except Failure α × World).1.map f,
          (rollBack faults failure s w : Except Failure α × World).2) := by
    unfold rollBack
    cases faults.rollback <;> rfl
  unfold finish
  cases result with
  | error failure => exact hundone _ _ _
  | ok a =>
    simp only [Except.map]
    cases s.commit? (store.faults w.tasks) w.assigned.database with
    | none => exact hundone _ _ _
    | some db => rfl

/-- To pass on what a transaction answers is to pass it on in its block. -/
lemma transaction_map (store : Store) (f : α → β) (body : Block α) :
    store.transaction (f <$> body) = f <$> store.transaction body := by
  funext w
  rw [Action.map_apply, transaction, transaction, Block.map_apply]
  exact store.finish_map f _ _ _

end Store

namespace Entry

/-- An entry alone is a transaction of its own. -/
lemma call_perform (e : Entry) (store : Store) :
    e.call.perform store = store.transaction (e.step.perform store) := by
  cases e with
  | user id username isStaff => exact (store.transaction_map _ _).symm
  | token id userId secret name expiresAt => exact (store.transaction_map _ _).symm

/-- What some entries have added to a world, one after the other. -/
structure Added (entries : List Entry) (w : World) (rows : Tables) (told : List Answer) (w' : World) :
    Prop where
  takes : w.Takes rows
  fit : Fit w.stamp? rows entries
  told : told = answers w.stamp? entries
  later : w'.Takes (added w.stamp? rows entries)
  clock : w'.clock = w.clock

lemma call_ok {a : Answer} (h : e.call.perform store w = (.ok a, w')) :
    ∃ rows, Added [e] w rows [a] w' := by
  rw [call_perform, Store.transaction] at h
  rcases hstep : e.step.perform store {} w with ⟨⟨x, s₁⟩, w₁⟩
  rw [hstep] at h
  dsimp only at h
  cases x with
  | error f =>
    obtain ⟨f', w₂, hfails, -⟩ : ∃ f' w₂, store.finish (.error f : Except Failure Answer) s₁ w₁ =
        (.error f', w₂) ∧ _ := Store.finish_error s₁ w₁
    rw [hfails] at h
    cases h
  | ok x =>
    obtain ⟨c, rows, hc, rfl, htakes⟩ := perform_ok hstep
    obtain ⟨rfl, hlater, hclock⟩ :=
      Store.finish_sees htakes.sees htakes.steady htakes.sees_later h
    refine ⟨rows, htakes.sees, (Fit.cons_iff hc).mpr ⟨htakes.fits, .nil⟩, ?_, ?_, hclock⟩
    · rw [answers_cons hc]
      rfl
    · rw [added_cons hc]
      exact hlater

lemma call_of_fit (htakes : w.Takes rows) (hfit : Fit w.stamp? rows [e]) :
    ∃ a w', e.call.perform {} w = (.ok a, w') ∧ Added [e] w rows [a] w' := by
  obtain ⟨c, hc⟩ := Option.isSome_iff_exists.mp (hfit.adds e (List.mem_singleton_self _))
  obtain ⟨hfits, -⟩ := (Fit.cons_iff hc).mp hfit
  obtain ⟨s₁, w₁, hstep, hput⟩ := perform_of_fits hc htakes hfits
  obtain ⟨w', hfinish, -⟩ := Store.finish_of_sees c.answer htakes hput.steady hput.sees_later
  have hcall : e.call.perform {} w = (.ok c.answer, w') := by
    rw [call_perform, Store.transaction, hstep]
    exact hfinish
  obtain ⟨met, hadded⟩ := call_ok hcall
  obtain rfl := htakes.unique hadded.takes
  exact ⟨c.answer, w', hcall, hadded⟩

lemma run_ok {first : Entry × Bool} {rest : List (Entry × Bool)} {told : List Answer}
    (h : (BlockScript.ofEntries (first :: rest)).run store w = ((told.map .ok, .ok ()), w')) :
    ∃ rows, Added ((first :: rest).map Prod.fst) w rows told w' := by
  rw [BlockScript.run] at h
  rcases hperform : (BlockScript.ofEntries (first :: rest)).perform store {} w
    with ⟨⟨⟨results, outcome⟩, s₁⟩, w₁⟩
  rw [hperform] at h
  dsimp only at h
  obtain ⟨htold, rfl⟩ := Prod.mk.inj h
  obtain ⟨rfl, hend⟩ := Prod.mk.inj htold
  obtain ⟨rows, hsees⟩ := script_meets hperform
  cases outcome with
  | error f =>
    obtain ⟨f', w₂, hfails, -⟩ : ∃ f' w₂, store.finish (.error f : Except Failure Unit) s₁ w₁ =
        (.error f', w₂) ∧ _ := Store.finish_error s₁ w₁
    rw [hfails] at hend
    cases hend
  | ok u =>
    obtain ⟨hfit, htold, hlast, hsteady⟩ := script_ok hsees hperform
    obtain ⟨-, hlater, hclock⟩ :=
      Store.finish_sees hsees hsteady hlast (Prod.ext hend rfl)
    exact ⟨rows, hsees, hfit, htold, hlater, hclock⟩

lemma run_of_fit {first : Entry × Bool} {rest : List (Entry × Bool)} (htakes : w.Takes rows)
    (hfit : Fit w.stamp? rows ((first :: rest).map Prod.fst)) : ∃ told w',
    (BlockScript.ofEntries (first :: rest)).run {} w = ((told.map .ok, .ok ()), w') ∧
      Added ((first :: rest).map Prod.fst) w rows told w' := by
  obtain ⟨s₁, w₁, hperform, hlast, hsteady⟩ := script_of_fit htakes hfit
  obtain ⟨w', hfinish, -⟩ := Store.finish_of_sees () htakes hsteady hlast
  have hrun : (BlockScript.ofEntries (first :: rest)).run {} w =
      (((answers w.stamp? ((first :: rest).map Prod.fst)).map .ok, .ok ()), w') := by
    rw [BlockScript.run, hperform]
    dsimp only
    rw [hfinish]
  obtain ⟨met, hadded⟩ := run_ok hrun
  obtain rfl := htakes.unique hadded.takes
  exact ⟨_, w', hrun, hadded⟩

end Entry

/-! ### Batches -/

/-- Entries that are made together: one with a transaction of its own, or some in a block, each with
whether its failure would be caught. -/
inductive Batch where
  | alone (e : Entry)
  | block (first : Entry × Bool) (rest : List (Entry × Bool))
  deriving DecidableEq, Repr

namespace Batch

def entries : Batch → List Entry
  | alone e => [e]
  | block first rest => (first :: rest).map Prod.fst

def event : Batch → Event
  | alone e => .call e.call
  | block first rest => .block (BlockScript.ofEntries (first :: rest))

/-- All entries of a batch have come through, and these are their answers. -/
inductive Told : Batch → Reaction → List Answer → Prop where
  | alone {e : Entry} {a : Answer} : Told (alone e) (.answer (.ok a)) [a]
  | block {first : Entry × Bool} {rest : List (Entry × Bool)} {told : List Answer} :
    Told (block first rest) (.block (told.map .ok) (.ok ())) told

/-- All entries of some batches have come through, and these are their answers. -/
inductive AllTold : List Batch → List Reaction → List Answer → Prop where
  | nil : AllTold [] [] []
  | cons {b : Batch} {r : Reaction} {told more : List Answer} {batches : List Batch}
      {reactions : List Reaction} (h : b.Told r told) (hrest : AllTold batches reactions more) :
    AllTold (b :: batches) (r :: reactions) (told ++ more)

variable {mishaps : Mishaps} {b : Batch} {r : Reaction} {told : List Answer}

/-- A batch that has come through has added rows that fit those that were there. -/
lemma happen_ok (h : b.event.happen mishaps w = (r, w')) (htold : b.Told r told) :
    ∃ rows, Entry.Added b.entries w rows told w' := by
  cases htold with
  | alone =>
    obtain ⟨hanswer, hworld⟩ := Prod.mk.inj h
    obtain ⟨rows, hadded⟩ := Entry.call_ok (Prod.ext (Reaction.answer.inj hanswer) hworld)
    exact ⟨rows, hadded.takes, hadded.fit, hadded.told, hadded.later, hadded.clock⟩
  | block =>
    obtain ⟨hanswer, hworld⟩ := Prod.mk.inj h
    obtain ⟨hresults, hend⟩ := Reaction.block.inj hanswer
    obtain ⟨rows, hadded⟩ := Entry.run_ok (Prod.ext (Prod.ext hresults hend) hworld)
    exact ⟨rows, hadded.takes, hadded.fit, hadded.told, hadded.later, hadded.clock⟩

/-- A batch comes through in a working store if what it adds fits the rows. -/
lemma happen_of_fit (htakes : w.Takes rows) (hfit : Entry.Fit w.stamp? rows b.entries) :
    ∃ r w' told, b.event.happen {} w = (r, w') ∧ b.Told r told ∧
      Entry.Added b.entries w rows told w' := by
  cases b with
  | alone e =>
    obtain ⟨a, w', hcall, hadded⟩ := Entry.call_of_fit (w := w.anew) htakes hfit
    refine ⟨.answer (.ok a), w', [a], ?_, .alone, hadded.takes, hadded.fit, hadded.told,
      hadded.later, hadded.clock⟩
    exact congrArg (fun x : Except Failure Answer × World => (Reaction.answer x.1, x.2)) hcall
  | block first rest =>
    obtain ⟨told, w', hrun, hadded⟩ := Entry.run_of_fit (w := w.anew) htakes hfit
    refine ⟨.block (told.map .ok) (.ok ()), w', told, ?_, .block, hadded.takes, hadded.fit,
      hadded.told, hadded.later, hadded.clock⟩
    exact congrArg (fun x : (List (Except Failure Answer) × Except Failure Unit) × World =>
      (Reaction.block x.1.1 x.1.2, x.2)) hrun

end Batch

/-- The events of batches, each with its mishaps. -/
def eventsOf (given : List (Mishaps × Batch)) : List (Mishaps × Event) :=
  given.map fun x => (x.1, x.2.event)

/-- Batches without mishaps. -/
def undisturbed (batches : List Batch) : List (Mishaps × Batch) := batches.map (({} : Mishaps), ·)

/-- The entries of batches, one after the other. -/
def entriesOf (batches : List Batch) : List Entry := batches.flatMap Batch.entries

namespace Entry

lemma changes_append (before after : List Entry) :
    changes now (before ++ after) = changes now before ++ changes now after :=
  List.filterMap_append

lemma Added.nil (h : w.Takes rows) : Added [] w rows [] w :=
  ⟨h, .nil, rfl, h, rfl⟩

lemma Added.append {entries more : List Entry} {told later : List Answer} {w₁ : World} {met : Tables}
    (h : Added entries w rows told w₁) (h' : Added more w₁ met later w') :
    Added (entries ++ more) w rows (told ++ later) w' := by
  obtain rfl := h.later.unique h'.takes
  have hstamp : w₁.stamp? = w.stamp? := by rw [World.stamp?, World.stamp?, h.clock]
  obtain ⟨-, ⟨hadds, hadmits⟩, rfl, hlater, hclock⟩ := h'
  rw [hstamp] at hadds hadmits hlater ⊢
  refine ⟨h.takes, ⟨List.forall_mem_append.mpr ⟨h.fit.adds, hadds⟩, ?_⟩, ?_, ?_,
    hclock.trans h.clock⟩
  · rw [changes_append]
    exact Tables.admits_append.mpr ⟨h.fit.admits, hadmits⟩
  · rw [h.told, answers, answers, answers, List.map_append]
  · rw [added, changes_append, Tables.after_append]
    exact hlater

lemma Fit.append_iff {entries more : List Entry} : Fit now rows (entries ++ more) ↔
    Fit now rows entries ∧ Fit now (added now rows entries) more := by
  constructor
  · rintro ⟨hadds, hadmits⟩
    rw [changes_append] at hadmits
    obtain ⟨hadds, hadds'⟩ := List.forall_mem_append.mp hadds
    obtain ⟨hadmits, hadmits'⟩ := Tables.admits_append.mp hadmits
    exact ⟨⟨hadds, hadmits⟩, ⟨hadds', hadmits'⟩⟩
  · rintro ⟨⟨hadds, hadmits⟩, ⟨hadds', hadmits'⟩⟩
    refine ⟨List.forall_mem_append.mpr ⟨hadds, hadds'⟩, ?_⟩
    rw [changes_append]
    exact Tables.admits_append.mpr ⟨hadmits, hadmits'⟩

end Entry

namespace Batch

/-- Batches that have all come through, from a world that has rows, have added to these. -/
lemma run_ok {given : List (Mishaps × Batch)} {told : List Answer} (htakes : w.Takes rows)
    (h : AllTold (given.map Prod.snd) (Event.run (eventsOf given) w).1 told) :
    Entry.Added (entriesOf (given.map Prod.snd)) w rows told (Event.run (eventsOf given) w).2 := by
  induction given generalizing w rows told with
  | nil =>
    cases h
    exact .nil htakes
  | cons head rest ih =>
    obtain ⟨mishaps, b⟩ := head
    cases h with
    | cons htold hrest =>
      obtain ⟨met, hadded⟩ := happen_ok rfl htold
      obtain rfl := htakes.unique hadded.takes
      exact hadded.append (ih hadded.later hrest)

/-- Batches that add what fits the rows come through one after the other in a working store. -/
lemma run_of_fit {batches : List Batch} (htakes : w.Takes rows)
    (hfit : Entry.Fit w.stamp? rows (entriesOf batches)) :
    ∃ told, AllTold batches (Event.run (eventsOf (undisturbed batches)) w).1 told ∧
      Entry.Added (entriesOf batches) w rows told (Event.run (eventsOf (undisturbed batches)) w).2 := by
  induction batches generalizing w rows with
  | nil => exact ⟨[], .nil, .nil htakes⟩
  | cons b rest ih =>
    obtain ⟨hfirst, hlater⟩ := Entry.Fit.append_iff.mp hfit
    obtain ⟨r, w₁, told, hhappen, htold, hadded⟩ := happen_of_fit htakes hfirst
    have hstamp : w₁.stamp? = w.stamp? := by rw [World.stamp?, World.stamp?, hadded.clock]
    obtain ⟨more, hmore, hrest⟩ := ih hadded.later (hstamp ▸ hlater)
    have hrun : Event.run (eventsOf (undisturbed (b :: rest))) w =
        (r :: (Event.run (eventsOf (undisturbed rest)) w₁).1,
          (Event.run (eventsOf (undisturbed rest)) w₁).2) := by
      rw [undisturbed, eventsOf, List.map_cons, List.map_cons, Event.run]
      exact congrArg (fun x : Reaction × World =>
        (x.1 :: (Event.run (eventsOf (undisturbed rest)) x.2).1,
          (Event.run (eventsOf (undisturbed rest)) x.2).2)) hhappen
    rw [hrun]
    exact ⟨told ++ more, .cons htold hmore, hadded.append hrest⟩

end Batch

end BearerAccess
