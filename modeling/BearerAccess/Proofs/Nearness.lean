import BearerAccess.Proofs.AlikeService
import BearerAccess.Proofs.Coupling
import BearerAccess.Proofs.Course

/-!
# Nearnesses

A nearness says which worlds count as near each other and which rows as alike, and brings with it that
the service sees no difference in them. From that alone it follows that requests are answered alike in
worlds that are near, and leave them near. Messages of failing methods may be told apart or not.
-/

namespace BearerAccess

variable {α α' : Type} {told : Prop}

/-! ### Failures that are alike -/

/-- The same cause, or failures of a method of a session where messages are not told apart. -/
inductive Cause.Kin (told : Prop) : Cause → Cause → Prop where
  | same (c : Cause) : Kin told c c
  | session (h : ¬told) (message message' : Text) : Kin told (.session message) (.session message')

structure Failure.Kin (told : Prop) (f f' : Failure) : Prop where
  cause : Cause.Kin told f.cause f'.cause
  same : told → f' = f

lemma Failure.Kin.refl (f : Failure) : Failure.Kin told f f := ⟨.same _, fun _ => rfl⟩

lemma Failure.Kin.eq {f f' : Failure} (h : Failure.Kin True f f') : f = f' := (h.same trivial).symm

inductive Problem.Kin (told : Prop) : Problem → Problem → Prop where
  | same (p : Problem) : Kin told p p
  | failure {c c' : Cause} (h : Cause.Kin told c c') : Kin told (.failure c) (.failure c')

/-- The same methods of a session fail, whatever their messages. -/
structure Faults.SameMethods (f g : Faults) : Prop where
  add : g.add.isSome = f.add.isSome
  flush : g.flush.isSome = f.flush.isSome
  refresh : g.refresh.isSome = f.refresh.isSome
  query : g.query.isSome = f.query.isSome
  delete : g.delete.isSome = f.delete.isSome
  commit : g.commit.isSome = f.commit.isSome
  rollback : g.rollback.isSome = f.rollback.isSome

lemma Faults.SameMethods.refl (f : Faults) : f.SameMethods f := ⟨rfl, rfl, rfl, rfl, rfl, rfl, rfl⟩

structure Faults.Kin (told : Prop) (f g : Faults) : Prop extends f.SameMethods g where
  same : told → g = f

lemma Faults.Kin.refl (f : Faults) : f.Kin told f := ⟨.refl f, fun _ => rfl⟩

/-- Stores in which the same methods fail at the same tasks. -/
def Store.Kin (told : Prop) (store store' : Store) : Prop :=
  ∀ n, (store.faults n).Kin told (store'.faults n)

lemma Store.Kin.refl (store : Store) : store.Kin told store := fun _ => .refl _

lemma Faults.Kin.undone {f g : Faults} (h : f.Kin told g) (cause : Cause) :
    Failure.Kin told (undone f cause) (undone g cause) := by
  by_cases ht : told
  · rw [h.same ht]
    exact .refl _
  have hrollback := h.rollback
  unfold BearerAccess.undone
  cases hf : f.rollback with
  | none =>
    rw [hf] at hrollback
    rw [Option.isSome_eq_false_iff.mp hrollback |> Option.isNone_iff_eq_none.mp]
    exact .refl _
  | some message =>
    rw [hf] at hrollback
    obtain ⟨message', hg⟩ := Option.isSome_iff_exists.mp hrollback
    rw [hg]
    exact ⟨.session ht _ _, fun h => absurd h ht⟩

/-- A problem that differs in what is not told is answered in the same way. -/
lemma Problem.Kin.response {p p' : Problem} (h : p.Kin told p') : p'.response = p.response := by
  cases h with
  | same => rfl
  | failure h => cases h <;> rfl

/-! ### Queries that are alike -/

/-- Two queries by the same statement, of which the same keeps the text from being handed over. -/
structure Store.Query.Same (q q' : Option Store.Query) : Prop where
  prepared : q'.bind Store.Query.prepared? = q.bind Store.Query.prepared?
  obstacle : q'.bind (textObstacle? ·.subject) = q.bind (textObstacle? ·.subject)

lemma Store.Query.Same.refl (q : Option Store.Query) : Store.Query.Same q q := ⟨rfl, rfl⟩

/-- A new user may be shown in a response in two ways that correspond; all else must be the same. -/
inductive Response.Same (made : Credentials → Credentials → Prop) : Response → Response → Prop where
  | same (x : Response) (h : x.status ≠ 201 ∨ x.content = none) : Same made x x
  | created {c c' : Credentials} (h : made c c') :
      Same made (.document 201 c.toDatum.shown) (.document 201 c'.toDatum.shown)

/-! ### What failures are raised from -/

namespace Origin

/-- The texts that a failure shows of what it was raised from. -/
def parameters : Origin → List Parameter
  | .refused _ parameters => parameters
  | _ => []

/-- No secret is shown of what a failure was raised from. -/
def Veiled (o : Origin) : Prop := ∀ secret : Text, .secret (some secret) ∉ o.parameters

lemma veiled_method (message : Text) : (method message).Veiled := fun _ => List.not_mem_nil

lemma veiled_unopened : unopened.Veiled := fun _ => List.not_mem_nil

end Origin

/-- Only the query for the owner of a secret shows one when it is refused. -/
lemma Store.refusal_veiled {q : Option Store.Query} (h : ∀ x ∈ q, x.statement ≠ .ownerOfSecret) :
    (Store.refusal q).Veiled := by
  intro secret hsecret
  cases q with
  | none => cases hsecret
  | some q =>
    have hparameter : q.parameter = .other q.subject := if_neg (h q rfl)
    have hshown : .secret (some secret) = q.parameter := List.mem_singleton.mp hsecret
    rw [hparameter] at hshown
    cases hshown

/-! ### Nearnesses -/

/-- What two runs are compared by: worlds that are near each other, rows that are alike, and whether
the messages of failing methods are told apart. What the service does keeps worlds near and rows
alike. -/
structure Nearness where
  near : World → World → Prop
  rows : Tables → Tables → Prop
  told : Prop
  clock {w v : World} : near w v → v.clock = w.clock
  tasks {w v : World} : near w v → v.tasks = w.tasks
  reachable {w v : World} : near w v → v.database.reachable = w.database.reachable
  isShut {w v : World} : near w v → v.database.isShut = w.database.isShut
  write {w v : World} {severity : Severity} {source : Source} {message message' : Text} :
    near w v → (told → message' = message) →
      near (w.write severity source message) (v.write severity source message')
  writeException {w v : World} {severity : Severity} {source : Source} {message message' : Text}
    {cause cause' : Cause} : near w v → (told → message' = message ∧ cause' = cause) →
      near (w.writeException severity source message cause)
        (v.writeException severity source message' cause')
  /-- What failures are raised from corresponds in a way that secrets alone are told by. -/
  origins : Origin → Origin → Prop
  veiled {o : Origin} : o.Veiled → origins o o
  raising {w v : World} {origin origin' : Option Origin} :
    near w v → (told → Option.Rel origins origin origin') → near (w.raising origin) (v.raising origin')
  assigned {w v : World} : near w v → near w.assigned v.assigned
  turn {w v : World} : near w v → near w.turn v.turn
  visit {w v : World} {q q' : Option Store.Query} : near w v → w.database.reachable = true →
    Store.Query.Same q q' → Coupled (Parallel Eq rows) near (w.visit q) (v.visit q')
  leave {w v : World} {left left' : Option Tables} : near w v → Option.Rel rows left left' →
    near (w.leave left) (v.leave left')
  /-- Without the connections at hand, and with them again. -/
  bare {w v : World} : near w v → near { w with idle := [] } { v with idle := [] }
  rejoin {w v w' v' : World} : near w v → near w' v' →
    near { w' with idle := w.idle } { v' with idle := v.idle }
  usersByAge {a b : Tables} : rows a b → b.usersByAge = a.usersByAge
  userById {a b : Tables} (id : Option String) : rows a b → b.userById? id = a.userById? id
  withoutUser {a b : Tables} (id : String) : rows a b → rows (a.deleteUser id) (b.deleteUser id)

namespace Nearness

variable (L : Nearness) {w v : World} {store store' : Store}

/-- What two actions come to: answers that correspond or failures that are alike, in worlds that are
near each other. -/
abbrev Actions (V : α → α' → Prop) (x : Except Failure α × World) (y : Except Failure α' × World) :
    Prop :=
  Coupled (Parallel (Failure.Kin L.told) V) L.near x y

abbrev Handlers (V : α → α' → Prop) (x : Except Problem α × World) (y : Except Problem α' × World) :
    Prop :=
  Coupled (Parallel (Problem.Kin L.told) V) L.near x y

variable {L}

lemma answers {V : α → α' → Prop} {E : ε → ε → Prop} {a : α} {a' : α'} (h : V a a')
    (hworld : L.near w v) :
    Coupled (Parallel E V) L.near ((.ok a : Except ε α), w) ((.ok a' : Except ε α'), v) :=
  ⟨.answers h, hworld⟩

lemma fails {V : α → α' → Prop} (f : Failure) (hworld : L.near w v) :
    L.Actions V ((.error f : Except Failure α), w) ((.error f : Except Failure α'), v) :=
  ⟨.errors (.refl f), hworld⟩

lemma refuses {V : α → α' → Prop} (p : Problem) (hworld : L.near w v) :
    L.Handlers V ((.error p : Except Problem α), w) ((.error p : Except Problem α'), v) :=
  ⟨.errors (.same p), hworld⟩

lemma writeLog (h : L.near w v) (severity : Severity) (source : Source) (message : Text) :
    L.Actions Eq (writeLog severity source message w) (writeLog severity source message v) :=
  ⟨.answers rfl, L.write h fun _ => rfl⟩

lemma outcome {V : α → α' → Prop} {a : Action α} {a' : Action α'} (h : L.Actions V (a w) (a' v)) :
    L.Actions (Parallel (Failure.Kin L.told) V) (outcome a w) (outcome a' v) :=
  ⟨.answers h.1, h.2⟩

lemma perform {V : α → α' → Prop} {a : Action α} {a' : Action α'} (h : L.Actions V (a w) (a' v)) :
    L.Handlers V (Handler.perform a w) (Handler.perform a' v) := by
  obtain ⟨hanswer, hworld⟩ := h
  unfold Handler.perform
  rcases ha : a w with ⟨x, w₁⟩
  rcases ha' : a' v with ⟨y, v₁⟩
  rw [ha, ha'] at hanswer hworld
  cases hanswer with
  | answers h => exact ⟨.answers h, hworld⟩
  | errors h => exact ⟨.errors (.failure h.cause), hworld⟩

/-- The moment that is asked about is the same where the clock is. -/
lemma moment (h : L.near w v) (now : Option DateTime) :
    L.Actions Eq (moment now w) (moment now v) := by
  cases now with
  | none =>
    simp only [BearerAccess.moment, presentTime, Action.bind_apply, Action.get_apply, L.clock h]
    cases DateTime.ofClock? w.clock with
    | none => exact fails _ h
    | some now => exact answers rfl h
  | some now =>
    simp only [BearerAccess.moment, Action.liftExcept_apply]
    exact ⟨.rfl' .refl _, h⟩

/-! ### What is raised -/

lemma first (methods : List (Option Text)) {last last' : Origin} (h : L.origins last last') :
    L.origins (.first methods last) (.first methods last') := by
  unfold Origin.first
  cases methods.findSome? id with
  | none => exact h
  | some message => exact L.veiled (Origin.veiled_method message)

/-- What is raised in two operations: the same, from what corresponds if it is told. -/
structure Raises (L : Nearness) (x y : Raised) : Prop where
  cause : y.cause = x.cause
  origin : L.told → Option.Rel L.origins x.origin y.origin

lemma Raises.plain (cause : Cause) : L.Raises { cause } { cause } := ⟨rfl, fun _ => .none⟩

lemma Raises.broken (name : String) {origin origin' : Origin}
    (h : L.told → L.origins origin origin') :
    L.Raises (.broken name origin) (.broken name origin') :=
  ⟨rfl, fun ht => .some (h ht)⟩

lemma fallOut {V : α → α' → Prop} {faults faults' : Faults} (h : faults.Kin L.told faults')
    {x y : Raised} (hxy : L.Raises x y) (hworld : L.near w v) :
    L.Actions V (Store.fallOut faults x w) (Store.fallOut faults' y v) := by
  refine ⟨.errors ?_, L.raising hworld hxy.origin⟩
  rw [hxy.cause]
  exact h.undone _

/-! ### Operations of the store -/

/-- Two queries that are put alike, and where they are refused that corresponds. -/
structure Queries (L : Nearness) (q q' : Option Store.Query) : Prop extends
    Store.Query.Same q q' where
  refusal : L.origins (Store.refusal q) (Store.refusal q')

lemma Queries.none : L.Queries .none .none :=
  ⟨.refl _, L.veiled (Store.refusal_veiled fun _ hx => by cases hx)⟩

lemma Queries.named {s : Statement} (hs : s ≠ .ownerOfSecret) (t : Option Text) :
    L.Queries (some ⟨s, t⟩) (some ⟨s, t⟩) := by
  refine ⟨.refl _, L.veiled (Store.refusal_veiled fun x hx => ?_)⟩
  rw [← Option.some.inj hx]
  exact hs

/-- A rejected query is raised alike. -/
lemma Queries.raises {q q' : Option Store.Query} (h : L.Queries q q') (name : String)
    (e : Rejection) : L.Raises (e.raised name q) (e.raised name q') := by
  cases e with
  | unencodable position run => exact .plain _
  | _ => exact .broken name fun _ => h.refusal

/-- What two operations make of rows that are alike. -/
abbrev Works (V : α → α' → Prop) : Except Cause (α × Option Tables) →
    Except Cause (α' × Option Tables) → Prop :=
  Parallel Eq (Coupled V (Option.Rel L.rows))

lemma conclude {V : α → α' → Prop} {faults faults' : Faults} (h : faults.Kin L.told faults')
    (shut : Bool) (name : String) {query query' : Option Store.Query} (hquery : L.Queries query query')
    {x : Except Cause (α × Option Tables)} {y : Except Cause (α' × Option Tables)}
    (hxy : L.Works V x y) :
    Parallel L.Raises (Coupled V (Option.Rel L.rows)) (Store.conclude faults shut name query x)
      (Store.conclude faults' shut name query' y) := by
  cases hxy with
  | errors he =>
    obtain rfl := he
    exact .errors (.plain _)
  | @answers x y hxy =>
    obtain ⟨a, left⟩ := x
    obtain ⟨a', left'⟩ := y
    obtain ⟨hanswer, hleft⟩ := hxy
    cases hleft with
    | none =>
      dsimp only [Store.conclude]
      rw [h.commit]
      split
      · exact .errors (.broken name fun ht => by rw [h.same ht]; exact first _ hquery.refusal)
      · exact .answers ⟨hanswer, .none⟩
    | some hrows =>
      dsimp only [Store.conclude]
      rw [h.commit, h.delete]
      split
      · exact .errors (.broken name fun ht => by rw [h.same ht]; exact first _ hquery.refusal)
      · exact .answers ⟨hanswer, .some hrows⟩

lemma operate (h : L.near w v) (hstore : store.Kin L.told store') {name : String}
    {query query' : Option Store.Query} (hquery : L.Queries query query')
    {work : Store.Work α} {work' : Store.Work α'} {V : α → α' → Prop}
    (hwork : ∀ a b, L.rows a b → L.Works V (work a) (work' b)) :
    L.Actions V (store.operate name query work w) (store'.operate name query' work' v) := by
  have hfaults := hstore w.tasks
  have hassigned := L.assigned h
  rw [Store.operate_apply, Store.operate_apply, L.tasks h, L.reachable h, L.isShut h]
  dsimp only
  rw [hfaults.query, hfaults.flush]
  split
  · refine fallOut hfaults (.broken name fun ht => ?_) hassigned
    rw [hfaults.same ht]
    exact first _ (L.veiled Origin.veiled_unopened)
  rename_i hopen
  have hreachable : w.assigned.database.reachable = true := by
    simp only [Bool.or_eq_true, not_or, Bool.not_eq_true'] at hopen
    exact Bool.not_eq_false _ ▸ hopen.2
  obtain ⟨hanswer, hvisited⟩ := L.visit hassigned hreachable hquery.toSame
  generalize (w.assigned.visit query).1 = x at hanswer
  generalize (v.assigned.visit query').1 = y at hanswer
  cases hanswer with
  | @errors e e' he =>
    obtain rfl := he
    exact fallOut hfaults (hquery.raises name e) hvisited
  | @answers a b hrows =>
    have hend := conclude hfaults w.database.isShut name hquery (hwork a b hrows)
    dsimp only
    generalize Store.conclude (store.faults w.tasks) w.database.isShut name query (work a) = r at hend
    generalize Store.conclude (store'.faults w.tasks) w.database.isShut name query' (work' b) = r'
      at hend
    cases hend with
    | errors hx => exact fallOut hfaults hx hvisited
    | answers hr => exact ⟨.answers hr.1, L.leave hvisited hr.2⟩

lemma reading {V : α → α' → Prop} {a : α} {a' : α'} (h : V a a') :
    L.Works V (Store.reading a) (Store.reading a') :=
  .answers ⟨h, .none⟩

lemma users (h : L.near w v) (hstore : store.Kin L.told store') :
    L.Actions Eq (store.users w) (store'.users v) :=
  operate h hstore .none fun _ _ hrows => reading (by rw [L.usersByAge hrows])

lemma deleteUser (h : L.near w v) (hstore : store.Kin L.told store') (id : Option Text) :
    L.Actions Eq (store.deleteUser id w) (store'.deleteUser id v) := by
  refine operate h hstore (.named (by decide) id) fun a b hrows => ?_
  rw [L.userById _ hrows]
  cases a.userById? (stored? id) with
  | none => exact .errors rfl
  | some row => exact .answers ⟨rfl, .some (L.withoutUser _ hrows)⟩

lemma isAvailable (h : L.near w v) :
    Coupled Eq L.near (Store.isAvailable w) (Store.isAvailable v) := by
  have hturn := L.turn h
  rw [Store.isAvailable_apply, Store.isAvailable_apply, L.reachable hturn]
  refine ⟨rfl, ?_⟩
  split
  · exact hturn
  · exact L.write hturn fun _ => rfl

/-- Secrets that are looked up alike are authenticated alike. -/
lemma authenticate (h : L.near w v) {secret secret' : Option Text} {now : Option DateTime}
    (hempty : secret'.getD [] = [] ↔ secret.getD [] = [])
    (hlookup : L.Actions Eq (store.userByToken secret now w) (store'.userByToken secret' now v)) :
    L.Actions Eq (authenticate store secret now w) (authenticate store' secret' now v) := by
  unfold BearerAccess.authenticate
  by_cases hnone : secret.getD [] = []
  · rw [if_pos hnone, if_pos (hempty.mpr hnone)]
    exact fails _ h
  rw [if_neg hnone, if_neg (mt hempty.mp hnone)]
  refine Coupled.bind hlookup fun found _ w₁ v₁ hsame h₁ => ?_
  obtain rfl := hsame
  cases found with
  | none => exact fails _ h₁
  | some identity => exact answers rfl h₁

end Nearness

end BearerAccess
