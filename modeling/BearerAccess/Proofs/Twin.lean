import BearerAccess.Proofs.NearnessService
import BearerAccess.Proofs.RenamedStore

/-!
# Twins

Two worlds are twins under a renaming if the second is the first with the secrets renamed, but for what
is noted of failures where messages are not told apart. That is a nearness, and under it every insert,
every transaction and every issue of credentials comes to the same, with the secrets renamed.
-/

namespace BearerAccess

variable {α α' : Type} {r : Renaming} {told : Prop} {w v : World}

namespace World

/-- What is noted of failures: the log, and what the last one was raised from. -/
structure Notes where
  log : List LogEntry
  origin : Option Origin

def notes (w : World) : Notes := ⟨w.log, w.origin⟩

/-- A world under a renaming, with notes of its own. -/
def twin (r : Renaming) (notes : Notes) (w : World) : World :=
  { w.renamed r with log := notes.log, origin := notes.origin }

lemma connect_twin (notes : Notes) (w : World) :
    (w.twin r notes).connect = (w.connect.1, w.connect.2.twin r notes) := by
  have hidle : (w.twin r notes).idle = w.idle := rfl
  unfold connect
  rw [hidle]
  cases w.idle <;> rfl

lemma giveBack_twin (notes : Notes) (w : World) (c : Connection) :
    (w.twin r notes).giveBack c = (w.giveBack c).twin r notes := by
  unfold giveBack
  change (if c.renewal = w.renewals then _ else _) = _
  split <;> rfl

lemma draw_twin (notes : Notes) (size : Nat) (w : World) :
    (w.twin r notes).draw size = ((w.draw size).1, (w.draw size).2.twin r notes) := by
  have hentropy : (w.twin r notes).entropy = w.entropy := rfl
  unfold draw
  rw [hentropy]
  cases w.entropy.head?.getD .ordinal <;> rfl

lemma putQuery_renamed {q q' : Option Store.Query} (hq : Store.Query.Same q q')
    (rows? : Option Tables) (c : Connection) :
    Store.putQuery (rows?.map (·.renamed r)) q' c =
      ((Store.putQuery rows? q c).1.map (·.renamed r), (Store.putQuery rows? q c).2) := by
  unfold Store.putQuery
  rw [hq.prepared, hq.obstacle]
  cases q.bind (textObstacle? ·.subject) <;> cases rows? <;> rfl

lemma visit_twin {q q' : Option Store.Query} (hq : Store.Query.Same q q') (notes : Notes)
    (w : World) : (w.twin r notes).visit q' =
      ((w.visit q).1.map (·.renamed r), (w.visit q).2.twin r notes) := by
  have hrows (w : World) : (w.twin r notes).database.rows? = w.database.rows?.map (·.renamed r) :=
    Database.rows?_renamed _
  unfold visit
  rw [connect_twin]
  dsimp only
  rw [hrows, putQuery_renamed hq, giveBack_twin]

lemma notes_connect (w : World) : w.connect.2.notes = w.notes := by
  unfold connect
  split <;> rfl

lemma notes_giveBack (w : World) (c : Connection) : (w.giveBack c).notes = w.notes := by
  unfold giveBack
  split <;> rfl

lemma notes_draw (w : World) (size : Nat) : (w.draw size).2.notes = w.notes := by
  unfold draw
  dsimp only
  split <;> rfl

lemma notes_renamed {w w' : World} (h : w'.notes = w.notes) :
    (w'.renamed r).notes = (w.renamed r).notes := by
  obtain ⟨hlog, horigin⟩ := Notes.mk.inj h
  change Notes.mk (w'.log.map _) (w'.origin.map _) = Notes.mk (w.log.map _) (w.origin.map _)
  rw [hlog, horigin]

/-- The second world is the first under a renaming, but for what is noted of failures where messages
are not told apart. -/
def Twin (r : Renaming) (told : Prop) (w v : World) : Prop :=
  ∃ notes, v = w.twin r notes ∧ (told → notes = (w.renamed r).notes)

/-- Messages that correspond are kept alike. -/
lemma Twin.keep (h : w.Twin r told v) {e e' : LogEntry} (hseverity : e'.severity = e.severity)
    (he : told → e' = e.renamed r) : (w.keep e).Twin r told (v.keep e') := by
  obtain ⟨notes, rfl, hnotes⟩ := h
  unfold World.keep
  rw [hseverity]
  change Twin r told _ (if w.threshold ≤ _ then _ else _)
  split
  · refine ⟨⟨notes.log ++ [e'], notes.origin⟩, rfl, fun ht => ?_⟩
    rw [hnotes ht, he ht, World.notes, World.renamed, World.notes, World.renamed, List.map_append]
    rfl
  · exact ⟨notes, rfl, hnotes⟩

lemma Twin.write (h : w.Twin r told v) {severity : Severity} {source : Source}
    {message message' : Text} (hmessage : told → message' = message) :
    (w.write severity source message).Twin r told (v.write severity source message') :=
  h.keep rfl fun ht => by
    rw [hmessage ht]
    rfl

lemma Twin.writeException (h : w.Twin r told v) {severity : Severity} {source : Source}
    {message message' : Text} {cause cause' : Cause}
    (hsame : told → message' = message ∧ cause' = cause) :
    (w.writeException severity source message cause).Twin r told
      (v.writeException severity source message' cause') := by
  refine h.keep rfl fun ht => ?_
  obtain ⟨notes, rfl, hnotes⟩ := h
  obtain ⟨rfl, rfl⟩ := hsame ht
  have horigin : (w.twin r notes).origin = w.origin.map (·.renamed r) :=
    congrArg Notes.origin (hnotes ht)
  rw [horigin]
  rfl

lemma Twin.raising (h : w.Twin r told v) {origin origin' : Option Origin}
    (horigin : told → origin' = origin.map (·.renamed r)) :
    (w.raising origin).Twin r told (v.raising origin') := by
  obtain ⟨notes, rfl, hnotes⟩ := h
  refine ⟨⟨notes.log, origin'.or notes.origin⟩, rfl, fun ht => ?_⟩
  rw [hnotes ht, horigin ht]
  cases origin <;> rfl

/-- A method that fails is told of alike. -/
lemma Twin.failing (h : w.Twin r told v) {method method' : Option Text}
    (hmethod : told → method' = method) :
    (w.raising (method.map .method)).Twin r told (v.raising (method'.map .method)) :=
  h.raising fun ht => by
    rw [hmethod ht]
    cases method <;> rfl

lemma Twin.giveBack (h : w.Twin r told v) (c : Connection) :
    (w.giveBack c).Twin r told (v.giveBack c) := by
  obtain ⟨notes, rfl, hnotes⟩ := h
  exact ⟨notes, giveBack_twin notes w c, fun ht =>
    (hnotes ht).trans (notes_renamed (w.notes_giveBack c)).symm⟩

lemma Twin.visit (h : w.Twin r told v) {q q' : Option Store.Query} (hq : Store.Query.Same q q') :
    (v.visit q').1 = (w.visit q).1.map (·.renamed r) ∧ (w.visit q).2.Twin r told (v.visit q').2 := by
  obtain ⟨notes, rfl, hnotes⟩ := h
  rw [visit_twin hq]
  exact ⟨rfl, notes, rfl, fun ht =>
    (hnotes ht).trans (notes_renamed ((notes_giveBack _ _).trans (notes_connect w))).symm⟩

end World

/-- Where no secret is shown, nothing is renamed. -/
lemma Origin.renamed_of_veiled {o : Origin} (h : o.Veiled) : o.renamed r = o := by
  cases o with
  | refused statement parameters =>
    have hsame : ∀ x ∈ parameters, x.renamed r = x := by
      intro x hx
      cases x with
      | secret t =>
        cases t with
        | none => rfl
        | some secret => exact absurd hx (h secret)
      | other t => rfl
    have hparameters : parameters.map (·.renamed r) = parameters := by
      rw [List.map_congr_left hsame, List.map_id']
    exact congrArg (Origin.refused statement) hparameters
  | _ => rfl

/-- The nearness of twins. -/
def Nearness.twins (r : Renaming) (told : Prop) : Nearness where
  near := World.Twin r told
  rows a b := b = a.renamed r
  told := told
  clock := by
    rintro w _ ⟨notes, rfl, -⟩
    rfl
  tasks := by
    rintro w _ ⟨notes, rfl, -⟩
    rfl
  reachable := by
    rintro w _ ⟨notes, rfl, -⟩
    rfl
  isShut := by
    rintro w _ ⟨notes, rfl, -⟩
    rfl
  write h hmessage := h.write hmessage
  writeException h hsame := h.writeException hsame
  origins o o' := o' = o.renamed r
  veiled h := (Origin.renamed_of_veiled h).symm
  raising := by
    intro w v origin origin' h horigin
    refine h.raising fun ht => ?_
    cases horigin ht with
    | none => rfl
    | some hrenamed => rw [hrenamed, Option.map_some]
  assigned := by
    rintro w _ ⟨notes, rfl, hnotes⟩
    exact ⟨notes, rfl, hnotes⟩
  turn := by
    rintro w _ ⟨notes, rfl, hnotes⟩
    unfold World.turn
    change World.Twin r told _ (if w.database.reachable then _ else _)
    split
    · rw [World.connect_twin]
      exact World.Twin.giveBack
        ⟨notes, rfl, fun ht => (hnotes ht).trans (World.notes_renamed w.notes_connect).symm⟩ _
    · exact ⟨notes, rfl, hnotes⟩
  visit := by
    intro w v q q' h _ hq
    obtain ⟨hanswer, hworld⟩ := h.visit hq
    refine ⟨?_, hworld⟩
    rw [hanswer]
    cases (w.visit q).1 with
    | error e => exact .errors rfl
    | ok rows => exact .answers rfl
  leave := by
    rintro w _ left left' ⟨notes, rfl, hnotes⟩ hleft
    cases hleft with
    | none => exact ⟨notes, rfl, hnotes⟩
    | some hrows =>
      obtain rfl := hrows
      exact ⟨notes, rfl, hnotes⟩
  bare := by
    rintro w _ ⟨notes, rfl, hnotes⟩
    exact ⟨notes, rfl, hnotes⟩
  rejoin := by
    rintro w _ w' _ ⟨notes, rfl, hnotes⟩ ⟨notes', rfl, hnotes'⟩
    exact ⟨notes', rfl, hnotes'⟩
  usersByAge := by
    rintro a _ rfl
    rfl
  userById := by
    rintro a _ id rfl
    rfl
  withoutUser := by
    rintro a _ id rfl
    exact a.deleteUser_renamed id

namespace Twins

open Nearness

variable {store store' : Store} {s : Session}

/-- What corresponds to an answer under a renaming of the answers. -/
abbrev Under (f : α → α') (a : α) (a' : α') : Prop := a' = f a

/-- What a part of a block comes to in two worlds that are twins: answers that correspond, or failures
that are alike, and a session that is renamed. -/
abbrev Blocks (r : Renaming) (told : Prop) (V : α → α' → Prop)
    (x : (Except Failure α × Session) × World) (y : (Except Failure α' × Session) × World) : Prop :=
  Coupled (Coupled (Parallel (Failure.Kin told) V) (Under (Session.renamed r))) (World.Twin r told) x y

/-! ### Inserts -/

lemma attach (h : w.Twin r told v) (s : Session) :
    Coupled (Under (Session.renamed r)) (World.Twin r told) (w.attach s) (v.attach (s.renamed r)) := by
  obtain ⟨notes, rfl, hnotes⟩ := h
  unfold World.attach
  change Coupled _ _ _ (if s.connection.isSome || !w.database.reachable then _ else _)
  split
  · exact ⟨rfl, notes, rfl, hnotes⟩
  · rw [World.connect_twin]
    exact ⟨rfl, notes, rfl, fun ht =>
      (hnotes ht).trans (World.notes_renamed w.notes_connect).symm⟩

lemma detach (h : w.Twin r told v) (s : Session) :
    (w.detach s).Twin r told (v.detach (s.renamed r)) := by
  have hconnection : (s.renamed r).connection = s.connection := rfl
  unfold World.detach
  rw [hconnection]
  cases s.connection with
  | none => exact h
  | some c => exact h.giveBack c

lemma with_database (h : w.Twin r told v) {db db' : Database} (hdb : db' = db.renamed r) :
    ({ w with database := db } : World).Twin r told { v with database := db' } := by
  obtain ⟨notes, rfl, hnotes⟩ := h
  obtain rfl := hdb
  exact ⟨notes, rfl, hnotes⟩

lemma database (h : w.Twin r told v) : v.database = w.database.renamed r := by
  obtain ⟨notes, rfl, -⟩ := h
  rfl

lemma stamp (h : w.Twin r told v) : v.stamp? = w.stamp? := by
  obtain ⟨notes, rfl, -⟩ := h
  rfl

variable {f : α → α'} {i : Option Stamp → Insertion α} {i' : Option Stamp → Insertion α'}

lemma handOver (h : w.Twin r told v) (hi : ∀ now, (i now).Renames r f (i' now)) (s : Session) :
    Coupled (Coupled (Parallel Eq (Under f)) (Under (Session.renamed r))) (World.Twin r told)
      (Store.handOver i s w) (Store.handOver i' (s.renamed r) v) := by
  obtain ⟨hsession, hworld⟩ := attach h s
  unfold Store.handOver
  dsimp only
  rw [hsession, database hworld, stamp hworld, Session.execute_renamed (hi _)]
  refine ⟨⟨?_, rfl⟩, (with_database hworld rfl).raising fun _ => Session.origin?_renamed (hi _) _ _ _⟩
  dsimp only
  cases ((w.attach s).1.execute (w.attach s).2.database (i (w.attach s).2.stamp?)).1 with
  | error e => exact .errors rfl
  | ok a => exact .answers rfl

lemma insert (h : w.Twin r told v) (hstore : store.Kin told store')
    (hi : ∀ now, (i now).Renames r f (i' now)) (s : Session) :
    Blocks r told (Parallel Eq (Under f)) (store.insert i s w) (store'.insert i' (s.renamed r) v) := by
  have hassigned : w.assigned.Twin r told v.assigned := (Nearness.twins r told).assigned h
  have htasks : v.tasks = w.tasks := (Nearness.twins r told).tasks h
  have hfaults := hstore w.tasks
  unfold Store.insert
  rw [htasks]
  dsimp only
  rw [hfaults.add, hfaults.flush, hfaults.refresh]
  split
  · exact ⟨⟨.answers (.errors rfl), rfl⟩, hassigned.failing fun ht => by rw [hfaults.same ht]⟩
  split
  · have hreleased : (s.renamed r).release v.assigned.database =
        (s.release w.assigned.database).renamed r := by
      rw [database hassigned, Session.release_renamed]
    exact ⟨⟨.answers (.errors rfl), rfl⟩,
      (with_database hassigned hreleased).failing fun ht => by rw [hfaults.same ht]⟩
  obtain ⟨⟨hanswer, hsession⟩, hworld⟩ := handOver hassigned hi s
  rcases hw : Store.handOver i s w.assigned with ⟨⟨x, s₁⟩, w₁⟩
  rcases hv : Store.handOver i' (s.renamed r) v.assigned with ⟨⟨y, t₁⟩, v₁⟩
  rw [hw, hv] at hanswer hsession hworld
  cases hanswer with
  | errors he =>
    obtain rfl := he
    exact ⟨⟨.answers (.errors rfl), hsession⟩, hworld⟩
  | answers ha =>
    dsimp only
    split
    · exact ⟨⟨.answers (.errors rfl), hsession⟩, hworld.failing fun ht => by rw [hfaults.same ht]⟩
    · exact ⟨⟨.answers (.answers ha), hsession⟩, hworld⟩

lemma insertUser (h : w.Twin r told v) (hstore : store.Kin told store') (id username : Option Text)
    (isStaff : Flag) (s : Session) :
    Blocks r told Eq (store.insertUser id username isStaff s w)
      (store'.insertUser id username isStaff (s.renamed r) v) := by
  refine Coupled.step (insert h hstore (Store.userInsertion_renames id username isStaff) s)
    fun x y s₁ t₁ w₁ v₁ hxy hsession hworld => ?_
  cases hxy with
  | errors he =>
    obtain rfl := he
    exact ⟨⟨.errors (.refl _), hsession⟩, hworld⟩
  | answers ha =>
    obtain rfl := ha
    exact ⟨⟨.answers rfl, hsession⟩, hworld⟩

lemma expiryStamp (h : w.Twin r told v) (expiresAt : Option DateTime) (s : Session) :
    Blocks r told Eq (Store.expiryStamp expiresAt s w) (Store.expiryStamp expiresAt (s.renamed r) v) := by
  cases expiresAt with
  | none => exact ⟨⟨.answers rfl, rfl⟩, h⟩
  | some e =>
    unfold Store.expiryStamp DateTime.universal
    refine Coupled.mapStep (V := Eq) ?_ fun x x' hx => by rw [hx]
    cases e.toUniversal? with
    | none => exact ⟨⟨.errors (.refl _), rfl⟩, h⟩
    | some u => exact ⟨⟨.answers rfl, rfl⟩, h⟩

lemma insertToken (h : w.Twin r told v) (hstore : store.Kin told store')
    (id userId secret : Option Text) (name : Label) (expiresAt : Option DateTime) (s : Session) :
    Blocks r told (Under (Token.renamed r)) (store.insertToken id userId secret name expiresAt s w)
      (store'.insertToken id userId (secret.map r.text) name expiresAt (s.renamed r) v) := by
  refine Coupled.step (expiryStamp h expiresAt s) fun expiry _ s₁ t₁ w₁ v₁ hexpiry hs₁ h₁ => ?_
  obtain rfl := hexpiry
  obtain rfl := hs₁
  refine Coupled.step (insert h₁ hstore (Store.tokenInsertion_renames id userId secret name expiry) s₁)
    fun x y s₂ t₂ w₂ v₂ hxy hsession hworld => ?_
  cases hxy with
  | errors he =>
    obtain rfl := he
    exact ⟨⟨.errors (.refl _), hsession⟩, hworld⟩
  | answers ha =>
    obtain rfl := ha
    exact ⟨⟨.answers rfl, hsession⟩, hworld⟩

/-! ### Transactions -/

lemma rollBack (h : w.Twin r told v) {faults faults' : Faults} (hfaults : faults.Kin told faults')
    {e e' : Failure} (he : e.Kin told e') (s : Session) (V : α → α' → Prop) :
    Coupled (Parallel (Failure.Kin told) V) (World.Twin r told) (Store.rollBack faults e s w)
      (Store.rollBack faults' e' (s.renamed r) v) := by
  have hreleased : ({ w with database := s.release w.database } : World).Twin r told
      { v with database := (s.renamed r).release v.database } :=
    with_database h (by rw [database h, Session.release_renamed])
  have hdetached := detach hreleased s
  have hrollback := hfaults.rollback
  unfold Store.rollBack
  dsimp only
  cases hw : faults.rollback with
  | none =>
    rw [hw] at hrollback
    rw [Option.isSome_eq_false_iff.mp hrollback |> Option.isNone_iff_eq_none.mp]
    exact ⟨.errors he, hdetached⟩
  | some message =>
    rw [hw] at hrollback
    obtain ⟨message', hv⟩ := Option.isSome_iff_exists.mp hrollback
    have hmessage (ht : told) : message' = message := by
      rw [hfaults.same ht, hw] at hv
      exact (Option.some.inj hv).symm
    rw [hv]
    refine ⟨.errors ⟨he.cause, fun ht => by rw [he.same ht, hmessage ht]⟩, hdetached.write fun ht => ?_⟩
    rw [hmessage ht]

lemma finish (h : w.Twin r told v) (hstore : store.Kin told store') {V : α → α' → Prop}
    {x : Except Failure α} {y : Except Failure α'} (hxy : Parallel (Failure.Kin told) V x y)
    (s : Session) :
    Coupled (Parallel (Failure.Kin told) V) (World.Twin r told) (store.finish x s w)
      (store'.finish y (s.renamed r) v) := by
  have hassigned : w.assigned.Twin r told v.assigned := (Nearness.twins r told).assigned h
  have htasks : v.tasks = w.tasks := (Nearness.twins r told).tasks h
  have hfaults := hstore w.tasks
  unfold Store.finish
  rw [htasks]
  dsimp only
  cases hxy with
  | errors he => exact rollBack hassigned hfaults he s V
  | answers ha =>
    have hcommit : (s.renamed r).commit? (store'.faults w.tasks) v.assigned.database =
        (s.commit? (store.faults w.tasks) w.assigned.database).map (·.renamed r) := by
      rw [database hassigned, Session.commit?_renamed]
      unfold Session.commit?
      rw [hfaults.commit]
    dsimp only
    rw [hcommit]
    cases s.commit? (store.faults w.tasks) w.assigned.database with
    | none =>
      exact rollBack (hassigned.failing fun ht => by rw [hfaults.same ht]) hfaults (.refl _) s V
    | some db => exact ⟨.answers ha, detach (with_database hassigned rfl) s⟩

lemma transaction (hstore : store.Kin told store') {V : α → α' → Prop} {body : Block α}
    {body' : Block α'} (hbody : Blocks r told V (body {} w) (body' {} v)) :
    Coupled (Parallel (Failure.Kin told) V) (World.Twin r told) (store.transaction body w)
      (store'.transaction body' v) := by
  obtain ⟨⟨hanswer, hsession⟩, hworld⟩ := hbody
  unfold Store.transaction
  rcases hw : body {} w with ⟨⟨x, s₁⟩, w₁⟩
  rcases hv : body' {} v with ⟨⟨y, t₁⟩, v₁⟩
  rw [hw, hv] at hanswer hsession hworld
  obtain rfl := hsession
  exact finish hworld hstore hanswer s₁

/-! ### Issuance -/

/-- What an action comes to in two worlds that are twins: answers that correspond, or failures that are
alike. -/
abbrev Actions (r : Renaming) (told : Prop) (V : α → α' → Prop) (x : Except Failure α × World)
    (y : Except Failure α' × World) : Prop :=
  Coupled (Parallel (Failure.Kin told) V) (World.Twin r told) x y

lemma draw (h : w.Twin r told v) (size : Nat) :
    Actions r told Eq ((modifyGet fun w : World => w.draw size : Action (Option (List UInt8))) w)
      ((modifyGet fun w : World => w.draw size : Action (Option (List UInt8))) v) := by
  obtain ⟨notes, rfl, hnotes⟩ := h
  rw [Action.modifyGet_apply, Action.modifyGet_apply, World.draw_twin]
  exact ⟨.answers rfl, notes, rfl, fun ht =>
    (hnotes ht).trans (World.notes_renamed (w.notes_draw size)).symm⟩

lemma clock (h : w.Twin r told v) : v.clock = w.clock := (Nearness.twins r told).clock h

lemma newIdentifier (h : w.Twin r told v) : Actions r told Eq (newIdentifier w) (newIdentifier v) := by
  have hdrawn : Actions r told Eq (drawBytes 10 w) (drawBytes 10 v) := by
    refine Coupled.bind (draw h 10) fun drawn _ w₁ v₁ hsame h₁ => ?_
    obtain rfl := hsame
    cases drawn with
    | none => exact ⟨.errors (.refl _), h₁⟩
    | some bytes => exact ⟨.answers rfl, h₁⟩
  unfold BearerAccess.newIdentifier
  rw [Action.bind_apply, Action.bind_apply, Action.get_apply, Action.get_apply]
  dsimp only
  rw [clock h]
  by_cases hneg : w.clock < 0
  · simp only [if_pos hneg, Action.bind_apply, Action.fail_apply]
    exact ⟨.errors (.refl _), h⟩
  by_cases hlate : clockLimit ≤ w.clock
  · simp only [if_neg hneg, if_pos hlate, Action.bind_apply, Action.fail_apply]
    exact ⟨.errors (.refl _), h⟩
  simp only [if_neg hneg, if_neg hlate]
  refine Coupled.bind hdrawn fun bytes _ w₁ v₁ hsame h₁ => ?_
  obtain rfl := hsame
  exact ⟨.answers rfl, h₁⟩

/-- A new secret is the one in the place of the secret that would be drawn. -/
lemma newSecret (h : w.Twin r told v) (size : Nat) :
    Actions r told (Under r.string) (newSecret size w) (newSecret size v) := by
  refine Coupled.bind (draw h size) fun drawn _ w₁ v₁ hsame h₁ => ?_
  obtain rfl := hsame
  cases drawn with
  | none => exact ⟨.errors (.refl _), h₁⟩
  | some bytes =>
    obtain ⟨notes, rfl, hnotes⟩ := h₁
    exact ⟨.answers rfl, notes, rfl, hnotes⟩

lemma makeCredentials (h : w.Twin r told v) (hstore : store.Kin told store') (userId : String)
    (name : Text) (isStaff : Flag) (tokenName : Label) (expiresAt : Option DateTime) :
    Blocks r told (Under (Credentials.renamed r))
      (makeCredentials store userId name isStaff tokenName expiresAt {} w)
      (makeCredentials store' userId name isStaff tokenName expiresAt {} v) := by
  refine Coupled.step (insertUser h hstore _ _ isStaff {}) fun user _ s₁ t₁ w₁ v₁ huser hs₁ h₁ => ?_
  obtain rfl := huser
  refine Coupled.step (Coupled.outside (newIdentifier h₁) hs₁)
    fun tokenId _ s₂ t₂ w₂ v₂ hid hs₂ h₂ => ?_
  obtain rfl := hid
  refine Coupled.step (Coupled.outside (newSecret h₂ secretSize) hs₂)
    fun secret secret' s₃ t₃ w₃ v₃ hsecret hs₃ h₃ => ?_
  obtain rfl := hsecret
  obtain rfl := hs₃
  rw [Renaming.ofString_string]
  refine Coupled.step (insertToken h₃ hstore _ _ (some (Text.ofString secret)) tokenName expiresAt s₃)
    fun token _ s₄ t₄ w₄ v₄ htoken hs₄ h₄ => ?_
  obtain rfl := htoken
  exact ⟨⟨.answers rfl, hs₄⟩, h₄⟩

lemma createUser (h : w.Twin r told v) (hstore : store.Kin told store') (username : Option Text)
    (isStaff : Flag) (tokenName : Label) (expiresAt : Option DateTime) :
    Actions r told (Under (Credentials.renamed r))
      (createUser store username isStaff tokenName expiresAt w)
      (createUser store' username isStaff tokenName expiresAt v) := by
  unfold BearerAccess.createUser
  cases checkedUsername username with
  | error problem => exact ⟨.errors (.refl _), h⟩
  | ok name =>
    refine Coupled.bind (newIdentifier h) fun userId _ w₁ v₁ hid h₁ => ?_
    obtain rfl := hid
    refine Coupled.bind (transaction hstore
      (makeCredentials h₁ hstore userId name isStaff tokenName expiresAt))
      fun made made' w₂ v₂ hmade h₂ => ?_
    obtain rfl := hmade
    exact ⟨.answers rfl, h₂.write fun _ => rfl⟩

lemma issueUser (h : w.Twin r told v) (hstore : store.Kin told store') (actor : Option Identity)
    (username : Option Text) (isStaff : Flag) (tokenName : Label) (expiresAt : Option DateTime) :
    Actions r told (Under (Credentials.renamed r))
      (issueUser store actor username isStaff tokenName expiresAt w)
      (issueUser store' actor username isStaff tokenName expiresAt v) := by
  obtain ⟨cause, -, hrefused⟩ | ⟨a, -, -, hcreates⟩ := issueUser_decides actor
  · rw [hrefused, hrefused]
    exact ⟨.errors (.refl _), h⟩
  · rw [hcreates, hcreates]
    exact createUser h hstore username isStaff tokenName expiresAt

/-! ### Callers -/

/-- A lookup by a secret is refused as the one by the secret in its place is, but for that secret. -/
lemma ownerOfSecret (secret : Option Text) :
    (Nearness.twins r told).Queries (some ⟨.ownerOfSecret, secret⟩)
      (some ⟨.ownerOfSecret, secret.map r.text⟩) where
  prepared := by cases secret <;> rfl
  obstacle := Renaming.textObstacle?_text secret
  refusal := rfl

lemma userByToken (h : w.Twin r told v) (hstore : store.Kin told store') (secret : Option Text)
    (now : Option DateTime) :
    Actions r told Eq (store.userByToken secret now w)
      (store'.userByToken (secret.map r.text) now v) := by
  refine Coupled.bind ((Nearness.twins r told).moment h now) fun asked _ w₁ v₁ hsame h₁ => ?_
  obtain rfl := hsame
  refine (Nearness.twins r told).operate h₁ hstore (ownerOfSecret secret) fun a b hrows => reading ?_
  obtain rfl := hrows
  rw [Renaming.stored?_text, Tables.ownerOfSecret?_renamed]

lemma authenticate (h : w.Twin r told v) (hstore : store.Kin told store') (secret : Option Text)
    (now : Option DateTime) :
    Actions r told Eq (authenticate store secret now w)
      (authenticate store' (secret.map r.text) now v) := by
  have hempty : (secret.map r.text).getD [] = [] ↔ secret.getD [] = [] := by
    cases secret with
    | none => exact Iff.rfl
    | some secret => exact Renaming.text_eq_nil_iff
  exact (Nearness.twins r told).authenticate h hempty (userByToken h hstore secret now)

/-- Callers are looked up alike by a header and by the one in its place. -/
lemma hears (hstore : store.Kin told store') (header : Option Text) :
    (Nearness.twins r told).Hears store store' header (header.map r.header) := by
  cases header with
  | none => exact .none
  | some header =>
    refine .some fun w v h => ?_
    have hsecret := Renaming.bearerSecret_header (r := r) (some header)
    rw [Option.map_some] at hsecret
    unfold Service.look
    rw [hsecret]
    cases bearerSecret (some header) with
    | error problem => exact ⟨.errors (.refl _), h⟩
    | ok secret => exact authenticate h hstore (some secret) none

lemma issues (hstore : store.Kin told store') (tokenName : Label) :
    (Nearness.twins r told).Issues (Under (Credentials.renamed r)) store store' tokenName :=
  fun actor username isStaff _ _ h => issueUser h hstore actor username isStaff tokenName none

end Twins

end BearerAccess
