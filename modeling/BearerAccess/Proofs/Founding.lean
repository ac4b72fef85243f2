import BearerAccess.Proofs.Checks
import BearerAccess.Proofs.Duplicate
import BearerAccess.Proofs.Expired
import BearerAccess.Proofs.Identifiers
import BearerAccess.Proofs.Kept
import BearerAccess.Proofs.Presentation
import BearerAccess.Proofs.Printing

/-!
# The first user of staff

A command line succeeds just if it has added one user of staff with one token that never expires to the
database that its address leads to. It prints the id and the secret, and the secret speaks for the user
as long as both rows are there; whoever wants the same name again is told that it is taken.
-/

namespace BearerAccess

variable {store : Store} {w w' v : World} {rows : Tables} {u : UserRow} {k : TokenRow}

/-! ### Waiting for the database -/

lemma retry_succeeded {probe : StateM World Bool} {note : Nat → StateM World Unit} {wait more : Nat}
    (hanswer : ∀ w, (probe w).1 = w.database.reachable)
    (hprobe : ∀ w, (probe w).2.ground = w.ground) (hnote : ∀ n w, (note n w).2.ground = w.ground)
    (w : World) : (retry probe note wait more w).1.succeeded = w.database.reachable := by
  induction more generalizing wait w with
  | zero => exact hanswer w
  | succ more ih =>
    rw [retry, Computation.bind_apply, hanswer]
    by_cases hreachable : w.database.reachable = true
    · rw [if_pos hreachable, hreachable]
      rfl
    · rw [if_neg hreachable]
      have hkept : (note wait (probe w).2).2.database = w.database :=
        World.database_of_ground ((hnote wait _).trans (hprobe w))
      rw [← hkept]
      exact ih _

namespace CommandLine

lemma awaitDatabase_succeeded (w : World) :
    (awaitDatabase w).1.succeeded = w.database.reachable :=
  retry_succeeded Store.isAvailable_fst Store.isAvailable_quiet
    (fun _ _ => World.ground_write _ _ _ _) w

lemma awaitDatabase_of_reachable (h : w.database.reachable = true) :
    awaitDatabase w = (⟨1, [], true⟩, w.turn) := by
  have hprobe : Store.isAvailable w = (true, w.turn) := by
    have hturn : w.turn.database.reachable = true := by
      rw [World.database_of_ground (World.ground_turn w), h]
    rw [Store.isAvailable_apply, hturn]
    rfl
  unfold awaitDatabase moreTries
  rw [retry, Computation.bind_apply, hprobe]
  rfl

end CommandLine

/-! ### What is made -/

lemma bootstrapStaffUser_told {username : Option Text} {tokenName : Label} {c : Credentials}
    (h : bootstrapStaffUser store username tokenName w = (.ok c, w')) :
    stored? username = some c.user.username ∧ c.user.isStaff = true ∧
      ∃ clock bytes, c.user.userId = identifier clock bytes := by
  rw [bootstrapStaffUser_apply] at h
  exact createUser_told h

/-- One user of staff with some name has been added to rows, and one token of this user that never
expires. -/
structure Founded (username : Text) (rows rows' : Tables) (u : UserRow) (k : TokenRow) : Prop where
  named : Text.ofString u.username = username
  staff : u.isStaff = true
  endless : k.expiresAt = none
  owned : k.userId = u.id
  added : rows' = { users := rows.users ++ [u], tokens := rows.tokens ++ [k] }

namespace Founded

variable {username : Text} {rows' : Tables} {u' : UserRow} {k' : TokenRow}

/-- Which rows have been added is told by the rows before and after. -/
lemma unique (h : Founded username rows rows' u k) (h' : Founded username rows rows' u' k') :
    u' = u ∧ k' = k := by
  obtain ⟨husers, htokens⟩ := Tables.mk.inj (h.added.symm.trans h'.added)
  exact ⟨(List.cons.inj (List.append_cancel_left husers)).1.symm,
    (List.cons.inj (List.append_cancel_left htokens)).1.symm⟩

lemma ne (h : Founded username rows rows' u k) : rows' ≠ rows := by
  intro hsame
  have hlength := congrArg (·.users.length) (hsame.symm.trans h.added)
  simp at hlength

end Founded

/-- What is known of a user of staff that has been added to rows with its token: both rows fitted there,
the name is one that a user may have, the id has been made for the user, and the secret spells random
bytes. -/
structure Founding (spelling : List UInt8 → String) (username : Text) (rows rows' : Tables)
    (u : UserRow) (k : TokenRow) : Prop extends Founded username rows rows' u k where
  admits : rows.Admits [.addUser u, .addToken k]
  fit : checkedUsername (some username) = .ok username
  id : ∃ clock bytes, u.id = identifier clock bytes
  secret : ∃ bytes, bytes.length = secretSize ∧ k.secret = spelling bytes

/-- Rows that change under a commit are those of a database that is not shut. -/
lemma World.Commits.not_shut {changes : List Change} (h : w.Commits changes w')
    (hne : w'.stored ≠ w.stored) : w.database.isShut = false := by
  by_contra hshut
  refine hne ?_
  rw [World.stored, World.stored, h.shut (Bool.not_eq_false _ ▸ hshut)]

namespace CommandLine

lemma create_ok {order : Order} {c : Credentials} (h : create store order w = (.ok c, w')) :
    ∃ w₁, w.Commits [] w₁ ∧ bootstrapStaffUser store (some order.username)
      (.text Settings.defaultTokenName) w₁ = (.ok c, w') := by
  unfold create at h
  by_cases htables : order.createTables
  · simp only [if_pos htables] at h
    obtain ⟨e, -, he⟩ | ⟨_, w₁, hmake, hboot⟩ := Action.bind_cases h
    · cases he
    · exact ⟨w₁, Store.createTables_still.commits hmake, hboot⟩
  · simp only [if_neg htables] at h
    exact ⟨w, .refl w, h⟩

/-- Credentials come out of an order with the rows of a user of staff and of its token. -/
lemma create_founds {order : Order} {c : Credentials} (h : create store order w = (.ok c, w')) :
    ∃ u k, c = ⟨u.toUser, k.toToken⟩ ∧ w.Commits [.addUser u, .addToken k] w' ∧
      Founding w.spelling order.username w.stored w'.stored u k := by
  obtain ⟨hcommits, hsound⟩ := create_commits h
  obtain ⟨w₁, hbefore, hboot⟩ := create_ok h
  obtain ⟨⟨u, hu, huser⟩, ⟨k, hk, htoken⟩⟩ := bootstrapStaffUser_written hboot
  obtain ⟨hname, hstaff, hid⟩ := bootstrapStaffUser_told hboot
  obtain ⟨-, -, howner, hsecret, name, hchecked, hstored⟩ := hsound c rfl
  rw [hbefore.toSteady.stamp] at huser htoken
  have hchanges : c.added w.stamp? none = [.addUser u, .addToken k] := by
    rw [Credentials.added, huser, htoken]
    rfl
  have hendless : k.expiresAt = none := by
    cases hnow : w.stamp? with
    | none =>
      rw [hnow] at htoken
      cases htoken
    | some now =>
      rw [hnow] at htoken
      cases htoken
      rfl
  obtain rfl : name = order.username := Option.some.inj (stored?_injective hstored hname)
  obtain ⟨user, token⟩ := c
  obtain rfl : user = u.toUser := hu
  obtain rfl : token = k.toToken := hk
  rw [changesOf, hchanges] at hcommits
  exact ⟨u, k, rfl, hcommits, ⟨ofString_of_stored hname, hstaff, hendless, howner, hcommits.stored⟩,
    hcommits.admits, hchecked, hid, hsecret⟩

lemma exitCode_report (failure : Failure) (waits : List Nat) : (report failure waits).exitCode = 1 := by
  unfold report
  split <;> rfl

/-- An order that succeeds has met a database within reach, and tells of what it has made there. -/
lemma carryOut_succeeds {order : Order} {r : Report} (h : carryOut store order w = (r, w'))
    (hcode : r.exitCode = 0) : w.database.reachable = true ∧ ∃ u k,
      r.output = announcement ⟨u.toUser, k.toToken⟩ ∧ w.Commits [.addUser u, .addToken k] w' ∧
        Founding w.spelling order.username w.stored w'.stored u k := by
  have hg := awaitDatabase_quiet w
  have hwaited := awaitDatabase_succeeded w
  unfold carryOut at h
  rw [Computation.bind_apply] at h
  generalize awaitDatabase w = awaited at h hg hwaited
  obtain ⟨waiting, w₁⟩ := awaited
  dsimp only at h hg hwaited
  rw [hwaited] at h
  by_cases hreachable : w.database.reachable = true
  · simp only [hreachable] at h
    rcases hmade : create store order w₁ with ⟨made, w₂⟩
    have hrun : (create store order).run w₁ = (made, w₂) := hmade
    rw [if_neg (by decide), Computation.bind_apply, hrun] at h
    cases made with
    | ok c =>
      obtain ⟨u, k, rfl, hcommits, hfounding⟩ := create_founds hmade
      have hspelling : w₁.spelling = w.spelling := congrArg Ground.spelling hg
      rw [hspelling, World.stored_of_ground hg] at hfounding
      cases h
      exact ⟨hreachable, u, k, rfl, hcommits.after_ground hg, hfounding⟩
    | error failure =>
      cases h
      rw [exitCode_report] at hcode
      cases hcode
  · simp only [hreachable] at h
    cases h
    cases hcode

end CommandLine

/-! ### The place that an address leads to -/

namespace World

/-- The database in the file that an address leads to. -/
def databaseAt? (w : World) (address : Text) : Option Database :=
  match DatabaseUrl.read address >>= DatabaseUrl.location with
  | .ok (.file path passed opening) => some (w.databaseIn path passed opening)
  | _ => none

/-- The rows in the file that an address leads to. -/
def rowsAt (w : World) (address : Text) : Tables :=
  ((w.databaseAt? address).bind (·.tables)).getD {}

lemma tables_databaseIn (w : World) (path : Path) (passed : List Path) (opening : Opening) :
    (w.databaseIn path passed opening).tables =
      if w.homePath? = some path then w.database.tables else (w.files.lookup path).join := by
  rw [databaseIn]
  split <;> rfl

lemma barrier_databaseIn (w : World) (path : Path) (passed : List Path) (opening : Opening) :
    (w.databaseIn path passed opening).barrier = barrier? path opening := by
  rw [databaseIn]
  split <;> rfl

/-- Work in a file leaves there what it has left. -/
lemma tables_withFile {path : Path} {left : Database} (hreachable : left.reachable = true)
    (passed : List Path) (opening : Opening) :
    ((w.withFile path left).databaseIn path passed opening).tables = left.tables := by
  rw [tables_databaseIn]
  by_cases hhome : w.homePath? = some path
  · rw [withFile, if_pos hhome]
    exact if_pos hhome
  · rw [lookup_withFile hhome hreachable, if_pos rfl, Option.join_some]
    rw [withFile, if_neg hhome, if_pos hreachable]
    exact if_neg hhome

/-- Which database it is depends neither on the log nor on draws nor on connections. -/
lemma databaseAt?_of_ground (hg : w'.ground = w.ground) (hs : w'.surroundings = w.surroundings)
    (address : Text) : w'.databaseAt? address = w.databaseAt? address := by
  have hhome : w'.homePath? = w.homePath? := homePath_congr (congrArg Ground.databaseUrl hg)
  have hdb : w'.database = w.database := database_of_ground hg
  have hfiles : w'.files = w.files := congrArg Surroundings.files hs
  have hfolders : w'.folders = w.folders := congrArg Surroundings.folders hs
  unfold databaseAt? databaseIn canOpen isFile isFolder
  simp only [hhome, hdb, hfiles, hfolders]

lemma rowsAt_of_ground (hg : w'.ground = w.ground) (hs : w'.surroundings = w.surroundings)
    (address : Text) : w'.rowsAt address = w.rowsAt address := by
  rw [rowsAt, rowsAt, databaseAt?_of_ground hg hs]

/-- Where there is no other file and no row in the database, there is no row at any address. -/
lemma rowsAt_of_empty (hstored : w.stored = {}) (hfiles : w.files = []) (address : Text) :
    w.rowsAt address = {} := by
  unfold rowsAt databaseAt?
  split
  · rw [Option.bind_some, tables_databaseIn, hfiles]
    split
    · exact hstored
    · rfl
  · rfl

/-- Where a world is kept, the rows are the same at every address. -/
lemma Kept.rowsAt {made : Prop} (h : w.Kept made w') (address : Text) :
    w'.rowsAt address = w.rowsAt address := by
  unfold World.rowsAt databaseAt?
  split
  · rename_i path passed opening _
    rw [Option.bind_some, Option.bind_some, tables_databaseIn, tables_databaseIn,
      homePath_congr h.databaseUrl]
    split
    · exact h.database.stored
    · obtain hsame | ⟨hnone, hnew⟩ := h.files path
      · rw [hsame]
      · rw [hnone]
        obtain hnew | ⟨-, hnew⟩ := hnew <;> rw [hnew] <;> rfl
  · rfl

end World

/-- An address does not lead to a database in memory, which is lost as soon as it is closed. -/
def Lasting (address : Text) : Prop :=
  ∀ writable, (DatabaseUrl.read address >>= DatabaseUrl.location) ≠ .ok (.memory writable)

namespace CommandLine

/-- An order that succeeds in a file has added its rows to those in the file, which can be changed. -/
lemma inFile_succeeds {order : Order} {path : Path} {passed : List Path} {opening : Opening} {r : Report}
    (hlocation : (DatabaseUrl.read order.address >>= DatabaseUrl.location) =
      .ok (.file path passed opening))
    (h : carryOut store order { w with database := w.databaseIn path passed opening } = (r, v))
    (hcode : r.exitCode = 0) :
    World.barrier? path opening = none ∧ ∃ u k, r.output = announcement ⟨u.toUser, k.toToken⟩ ∧
      Founding w.spelling order.username (w.rowsAt order.address)
        ((World.withFile { v with database := w.database } path v.database).rowsAt order.address)
        u k := by
  obtain ⟨hreachable, u, k, houtput, hcommits, hfounding⟩ := carryOut_succeeds h hcode
  have hopen : ((w.databaseIn path passed opening).locked ||
      (w.databaseIn path passed opening).barrier.isSome) = false :=
    hcommits.not_shut hfounding.toFounded.ne
  rw [Bool.or_eq_false_iff, World.barrier_databaseIn, Option.isSome_eq_false_iff,
    Option.isNone_iff_eq_none] at hopen
  have hbefore : w.rowsAt order.address =
      ({ w with database := w.databaseIn path passed opening } : World).stored := by
    rw [World.rowsAt, World.databaseAt?, hlocation]
    rfl
  have hafter : (World.withFile { v with database := w.database } path v.database).rowsAt
      order.address = v.stored := by
    rw [World.rowsAt, World.databaseAt?, hlocation]
    exact congrArg (·.getD {})
      (World.tables_withFile (hcommits.reachable.trans hreachable) passed opening)
  rw [hbefore, hafter]
  exact ⟨hopen.2, u, k, houtput, hfounding⟩

lemma onDatabase_succeeds {order : Order} {location : Location} {r : Report}
    (hlasting : Lasting order.address)
    (hlocation : (DatabaseUrl.read order.address >>= DatabaseUrl.location) = .ok location)
    (h : World.onDatabase location (carryOut store order) w = (.ok r, w')) (hcode : r.exitCode = 0) :
    (∃ path passed opening, location = .file path passed opening ∧
      World.barrier? path opening = none) ∧ ∃ u k, r.output = announcement ⟨u.toUser, k.toToken⟩ ∧
      Founding w.spelling order.username (w.rowsAt order.address) (w'.rowsAt order.address) u k := by
  cases location with
  | refused cause => cases h
  | closed =>
    have hplace : (Except.ok <$> World.inPlace { tables := none, reachable := false }
      (fun v _ => v) (carryOut store order) : StateM World (Except Cause Report)) w =
        (.ok r, w') := h
    rw [Computation.map_apply, World.inPlace_apply] at hplace
    rcases hcarried : carryOut store order { w with database := { tables := none, reachable := false } }
      with ⟨r', v⟩
    rw [hcarried] at hplace
    cases hplace
    obtain ⟨hreachable, -⟩ := carryOut_succeeds hcarried hcode
    cases hreachable
  | memory writable => exact absurd hlocation (hlasting writable)
  | file path passed opening =>
    have hplace : (Except.ok <$> World.inPlace (w.databaseIn path passed opening)
      (fun v left => v.withFile path left) (carryOut store order) :
        StateM World (Except Cause Report)) w = (.ok r, w') := h
    rw [Computation.map_apply, World.inPlace_apply] at hplace
    rcases hcarried : carryOut store order { w with database := w.databaseIn path passed opening }
      with ⟨r', v⟩
    rw [hcarried] at hplace
    cases hplace
    obtain ⟨hbarrier, hfounds⟩ := inFile_succeeds hlocation hcarried hcode
    exact ⟨⟨path, passed, opening, rfl, hbarrier⟩, hfounds⟩

/-- What comes of opening a database is up to the address alone, and leaves no more than a note. -/
lemma openDatabase_apply (address : Text) (request : PoolRequest) : ∃ x, ∃ note : Option Text,
    ∀ w, openDatabase address request w = (x, note.elim w (w.write .debug .engine)) := by
  unfold openDatabase preparePool
  simp only [Action.bind_apply, Action.liftExcept_apply, writeLog_apply]
  cases DatabaseUrl.read address with
  | error f => exact ⟨_, none, fun _ => rfl⟩
  | ok url =>
    dsimp only
    cases poolOptions url.backend request with
    | error f => exact ⟨_, none, fun _ => rfl⟩
    | ok options =>
      dsimp only
      cases url.shown with
      | error f => exact ⟨_, none, fun _ => rfl⟩
      | ok shown => exact ⟨_, some _, fun _ => rfl⟩

lemma openDatabase_fst (address : Text) (request : PoolRequest) (w v : World) :
    (openDatabase address request v).1 = (openDatabase address request w).1 := by
  obtain ⟨x, note, hopen⟩ := openDatabase_apply address request
  rw [hopen, hopen]

lemma surroundings_write (w : World) (severity : Severity) (source : Source) (message : Text) :
    (w.write severity source message).surroundings = w.surroundings := by
  obtain ⟨log, hlog⟩ := w.keep_eq ⟨severity, source, message, none⟩
  rw [World.write, hlog]
  rfl

/-- What opening a database leaves alone. -/
lemma openDatabase_spares {address : Text} {request : PoolRequest} {x : Except Failure Location}
    (h : openDatabase address request w = (x, w')) : w'.ground = w.ground ∧
      w'.surroundings = w.surroundings ∧ w'.randomness = w.randomness := by
  obtain ⟨y, note, hopen⟩ := openDatabase_apply address request
  rw [hopen] at h
  cases note with
  | none =>
    cases h
    exact ⟨rfl, rfl, rfl⟩
  | some text =>
    cases h
    exact ⟨World.ground_write _ _ _ _, surroundings_write _ _ _ _,
      World.randomness_write _ _ _ _⟩

/-- An address leads to a file that can be changed, if it can be opened. -/
def LeadsToFile (address : Text) : Prop := ∃ path passed opening,
  (∀ w, (openDatabase address poolRequest w).1 = .ok (.file path passed opening)) ∧
    World.barrier? path opening = none

lemma serve_succeeds {order : Order} {r : Report} (hlasting : Lasting order.address)
    (h : serve store order w = (r, w')) (hcode : r.exitCode = 0) :
    LeadsToFile order.address ∧ ∃ u k, r.output = announcement ⟨u.toUser, k.toToken⟩ ∧
      Founding w.spelling order.username (w.rowsAt order.address) (w'.rowsAt order.address) u k := by
  unfold serve at h
  rw [Computation.bind_apply] at h
  rcases hopen : openDatabase order.address poolRequest w with ⟨opened, w₁⟩
  have hrun : (openDatabase order.address poolRequest).run w = (opened, w₁) := hopen
  obtain ⟨hg, hs, -⟩ := openDatabase_spares hopen
  rw [hrun] at h
  cases opened with
  | error failure =>
    cases h
    cases hcode
  | ok location =>
    dsimp only at h
    rw [Computation.bind_apply] at h
    rcases hwork : World.onDatabase location (carryOut store order) { w₁ with idle := [] }
      with ⟨x, w₂⟩
    have hapart : World.apart (World.onDatabase location (carryOut store order)) w₁ =
        (x, { w₂ with idle := w₁.idle }) := by
      rw [World.apart, hwork]
    rw [hapart] at h
    cases x with
    | error cause =>
      cases h
      rw [exitCode_report] at hcode
      cases hcode
    | ok carried =>
      cases h
      obtain ⟨⟨path, passed, opening, rfl, hbarrier⟩, u, k, houtput, hfounding⟩ :=
        onDatabase_succeeds hlasting (openDatabase_ok hopen) hwork hcode
      have hplace : LeadsToFile order.address :=
        ⟨path, passed, opening, fun v => by rw [openDatabase_fst _ _ w, hopen], hbarrier⟩
      have hspelling : ({ w₁ with idle := [] } : World).spelling = w.spelling :=
        congrArg Ground.spelling hg
      have hbefore : ({ w₁ with idle := [] } : World).rowsAt order.address = w.rowsAt order.address :=
        World.rowsAt_of_ground hg hs _
      have hafter : ({ w₂ with idle := w₁.idle } : World).rowsAt order.address =
          w₂.rowsAt order.address := World.rowsAt_of_ground rfl rfl _
      rw [hbefore, hspelling, ← hafter] at hfounding
      exact ⟨hplace, u, k, houtput, hfounding⟩

/-- Words that read as an order are answered by serving it, or refused for the level that they set. -/
lemma answer_of_order (store : Store) {words : List Text} {env : Environment} {order : Order}
    (h : order? words env = some order) (w : World) :
    (∃ failure, answer store words env w = (.escape failure [], w)) ∨
      ∃ threshold, answer store words env w = serve store order { w with threshold } := by
  unfold order? at h
  unfold answer
  cases hprogram : readProgram words with
  | error halt =>
    rw [hprogram] at h
    cases h
  | ok program =>
    obtain ⟨level, rest⟩ := program
    rw [hprogram] at h
    dsimp only at h ⊢
    cases (Level.named level.upperCase).rank? with
    | error failure => exact .inl ⟨failure, rfl⟩
    | ok rank =>
      dsimp only
      rw [Computation.bind_apply, Computation.modify_apply]
      cases horder : readOrder rest env with
      | error halt =>
        rw [horder] at h
        cases h
      | ok given =>
        rw [horder] at h
        cases h
        exact .inr ⟨rank, rfl⟩

/-- A command line that succeeds has added a user of staff where its address leads, and prints what has
been made. -/
lemma run_succeeds {words : List Text} {env : Environment} {order : Order} {r : Report}
    (horder : order? words env = some order) (hlasting : Lasting order.address)
    (h : run store words env w = (r, w')) (hcode : r.exitCode = 0) :
    LeadsToFile order.address ∧ ∃ u k, r.output = printed (announcement ⟨u.toUser, k.toToken⟩) ∧
      Founding w.spelling order.username (w.rowsAt order.address) (w'.rowsAt order.address) u k := by
  obtain ⟨answered, hanswer, rfl⟩ := run_cases h
  obtain ⟨failure, hrefused⟩ | ⟨threshold, hserved⟩ := answer_of_order store horder w
  · rw [hrefused] at hanswer
    cases hanswer
    cases hcode
  · rw [hserved] at hanswer
    obtain ⟨hplace, u, k, houtput, hfounding⟩ := serve_succeeds hlasting hanswer hcode
    have hrows : ({ w with threshold } : World).rowsAt order.address = w.rowsAt order.address :=
      World.rowsAt_of_ground rfl rfl _
    rw [hrows] at hfounding
    exact ⟨hplace, u, k, congrArg printed houtput, hfounding⟩

end CommandLine

/-! ### The secret of the user -/

namespace Tables

/-- No two users have some id, and no two tokens some secret. -/
structure Single (t : Tables) (id secret : String) : Prop where
  user : ∀ x ∈ t.users, ∀ y ∈ t.users, x.id = id → y.id = id → x = y
  token : ∀ x ∈ t.tokens, ∀ y ∈ t.tokens, x.secret = secret → y.secret = secret → x = y

namespace Single

variable {t : Tables} {id secret : String}

lemma apply {c : Change} (h : t.Single id secret) (hfits : c.Fits t) :
    (c.apply t).Single id secret where
  user x hx y hy hxid hyid := by
    obtain ⟨hold, -⟩ | rfl := mem_users_apply.mp hx
    · obtain ⟨hold', -⟩ | rfl := mem_users_apply.mp hy
      · exact h.user x hold y hold' hxid hyid
      · exact absurd (hxid.trans hyid.symm) (hfits x hold).2
    · obtain ⟨hold', -⟩ | hsame := mem_users_apply.mp hy
      · exact absurd (hyid.trans hxid.symm) (hfits y hold').2
      · exact Change.addUser.inj hsame
  token x hx y hy hxsecret hysecret := by
    obtain ⟨hold, -⟩ | rfl := mem_tokens_apply.mp hx
    · obtain ⟨hold', -⟩ | rfl := mem_tokens_apply.mp hy
      · exact h.token x hold y hold' hxsecret hysecret
      · exact absurd (hxsecret.trans hysecret.symm) (hfits.1 x hold).1
    · obtain ⟨hold', -⟩ | hsame := mem_tokens_apply.mp hy
      · exact absurd (hysecret.trans hxsecret.symm) (hfits.1 y hold').1
      · exact Change.addToken.inj hsame

lemma after {changes : List Change} (h : t.Single id secret) (hadmits : t.Admits changes) :
    (t.after changes).Single id secret := by
  induction changes generalizing t with
  | nil => exact h
  | cons c rest ih => exact ih (h.apply hadmits.1) hadmits.2

/-- The secret of a token that never expires leads to the owner, if nothing else has its key or theirs. -/
lemma ownerOfSecret? (h : t.Single u.id k.secret) (hu : u ∈ t.users) (hk : k ∈ t.tokens)
    (howned : k.userId = u.id) (hendless : k.expiresAt = none) (now : Stamp) :
    t.ownerOfSecret? (some k.secret) now = some u := by
  cases hfound : t.ownerOfSecret? (some k.secret) now with
  | none =>
    have hnone := List.findSome?_eq_none_iff.mp hfound k hk
    rw [if_pos ⟨rfl, by rw [hendless, Option.all_none]⟩, List.find?_eq_none] at hnone
    exact absurd (decide_eq_true howned.symm) (hnone u hu)
  | some v =>
    obtain ⟨l, hl, hsecret, -, hv, hvid⟩ := ownerOfSecret?_some hfound
    obtain rfl : l = k := h.token l hl k hk (Option.some.inj hsecret) rfl
    rw [h.user v hv u hu (hvid.trans howned) rfl]

end Single

end Tables

/-- Whatever the rows were before, the id of the user and the secret of the token are theirs alone. -/
lemma Founding.single {spelling : List UInt8 → String} {username : Text} {rows' : Tables}
    (h : Founding spelling username rows rows' u k) : rows'.Single u.id k.secret := by
  have hbefore : rows.Single u.id k.secret := by
    refine ⟨fun x hx _ _ hxid _ => ?_, fun x hx _ _ hxsecret _ => ?_⟩
    · exact absurd hxid (h.admits.1 x hx).2
    · exact absurd hxsecret (h.admits.2.1.1 x hx).1
  rw [h.added]
  exact hbefore.after h.admits

lemma World.rows_of_user (hreachable : v.database.reachable = true) (hu : u ∈ v.stored.users) :
    v.database.rows? = some v.stored := by
  cases htables : v.database.tables with
  | none =>
    rw [stored, htables] at hu
    cases hu
  | some rows =>
    rw [Database.rows?, hreachable, if_pos rfl, stored, htables, Option.getD_some]

/-- As long as both rows are there, the secret of the token speaks for the user. -/
lemma authenticate_of_single (h : v.stored.Single u.id k.secret) (hu : u ∈ v.stored.users)
    (hk : k ∈ v.stored.tokens) (howned : k.userId = u.id) (hendless : k.expiresAt = none)
    (hsecret : Text.ofString k.secret ≠ []) (hreachable : v.database.reachable = true)
    {now : Option DateTime} (hasked : (v.askedAt? now).isSome) :
    (authenticate {} (some (Text.ofString k.secret)) now v).1 = .ok u.toIdentity := by
  obtain ⟨-, hnone⟩ | ⟨n, hmoment, -⟩ := moment_cases now v
  · rw [hnone] at hasked
    cases hasked
  have hlookup : (({} : Store).userByToken (some (Text.ofString k.secret)) now v).1 =
      .ok ((v.stored.ownerOfSecret? (some k.secret) (.ofDateTime n)).map UserRow.toIdentity) :=
    Store.userByToken_eq rfl (World.rows_of_user hreachable hu) hmoment
  rw [h.ownerOfSecret? hu hk howned hendless] at hlookup
  rcases hfound : ({} : Store).userByToken (some (Text.ofString k.secret)) now v with ⟨found, v'⟩
  rw [hfound] at hlookup
  obtain rfl : found = .ok (some u.toIdentity) := hlookup
  unfold authenticate
  rw [Option.getD_some, if_neg hsecret]
  dsimp only
  rw [Action.bind_apply, hfound]
  rfl

/-! ### A name that is taken -/

/-- Users can be added to the rows that are there: the clock shows a date that an id can hold, there is
randomness, and the rows can be read and changed. -/
structure World.Accepts (w : World) (rows : Tables) : Prop where
  past : 0 ≤ w.clock
  date : w.stamp?.isSome
  draws : w.entropy.head? ≠ some .failing
  rows : w.database.rows? = some rows
  unshut : w.database.isShut = false

namespace World.Accepts

lemma congr (h : w.Accepts rows) (hg : w'.ground = w.ground) (hr : w'.randomness = w.randomness) :
    w'.Accepts rows where
  past := (clock_of_ground hg).symm ▸ h.past
  date := (stamp_of_ground hg).symm ▸ h.date
  draws := by
    have hentropy : w'.entropy = w.entropy := congrArg Prod.fst hr
    exact hentropy ▸ h.draws
  rows := (database_of_ground hg).symm ▸ h.rows
  unshut := (database_of_ground hg).symm ▸ h.unshut

lemma turn (h : w.Accepts rows) : w.turn.Accepts rows := by
  obtain ⟨idle, hturn⟩ := w.turn_eq
  rw [hturn]
  exact h.congr rfl rfl

lemma newIdentifier_ok (h : w.Accepts rows) : ∃ id w', newIdentifier w = (.ok id, w') := by
  have hearly : w.clock < clockLimit := by
    by_contra hlate
    have hout : ¬(0 ≤ DateTime.epoch + w.clock * 1000 ∧
        DateTime.epoch + w.clock * 1000 < DateTime.horizon) := by
      simp only [clockLimit, DateTime.epoch, DateTime.horizon, DateTime.dayLength] at hlate ⊢
      omega
    have hdate := h.date
    rw [World.stamp?, DateTime.ofClock?, DateTime.ofInstant?, if_neg hout] at hdate
    cases hdate
  have hpast := h.past
  rw [newIdentifier_apply, if_neg (by omega), if_neg (by omega)]
  have hdrawn : (w.draw 10).1.isSome = true := by
    unfold World.draw
    cases hhead : w.entropy.head? with
    | none => rfl
    | some d =>
      cases d with
      | failing => exact absurd hhead h.draws
      | bytes bytes => rfl
      | ordinal => rfl
  obtain ⟨bytes, hbytes⟩ := Option.isSome_iff_exists.mp hdrawn
  rw [hbytes]
  exact ⟨_, _, rfl⟩

/-- Nobody is created with a name that somebody has. -/
lemma createUser_taken {name : Text} (h : w.Accepts rows)
    (hfit : checkedUsername (some name) = .ok name) (hu : u ∈ rows.users)
    (hname : Text.ofString u.username = name) (isStaff : Bool) (tokenName : Label) :
    ∃ f w', createUser {} (some name) (.value isStaff) tokenName none w = (.error f, w') ∧
      f.cause = .usernameTaken u.username := by
  obtain ⟨now, hnow⟩ := Option.isSome_iff_exists.mp h.date
  obtain ⟨id, w₁, hid⟩ := h.newIdentifier_ok
  have hg := newIdentifier_quiet.ground_eq hid
  have hsees : Session.Sees {} w₁.database rows := by
    rw [World.database_of_ground hg]
    exact ⟨h.rows, h.unshut⟩
  have hstored : stored? (some name) = some u.username := by
    rw [← hname, stored?_ofString]
  have hrefused : (({} : Store).insertUser (some (Text.ofString id)) (some name) (.value isStaff) {}
      w₁).1.1 = .error (Cause.usernameTaken u.username) := by
    rw [Store.insertUser_of_sees ⟨rfl, rfl, rfl⟩ hstored (stored?_ofString id) rfl
      ((World.stamp_of_ground hg).trans hnow) hsees]
    exact if_pos (List.any_eq_true.mpr ⟨u, hu, decide_eq_true rfl⟩)
  rcases huser : ({} : Store).insertUser (some (Text.ofString id)) (some name) (.value isStaff) {} w₁
    with ⟨⟨x, s⟩, w₂⟩
  rw [huser] at hrefused
  obtain rfl : x = .error (Cause.usernameTaken u.username : Failure) := hrefused
  have hmade : makeCredentials {} id name (.value isStaff) tokenName none {} w₁ = _ :=
    Store.makeCredentials_of_error huser
  obtain ⟨f, w₃, hfinish, hcause⟩ : ∃ f w₃, ({} : Store).finish
      (.error (Cause.usernameTaken u.username : Failure) : Except Failure Credentials) s w₂ =
        (.error f, w₃) ∧ f.cause = .usernameTaken u.username := Store.finish_error s w₂
  refine ⟨f, w₃, ?_, hcause⟩
  unfold createUser
  rw [hfit]
  dsimp only
  rw [Action.bind_apply, hid]
  dsimp only
  rw [Action.bind_apply, Store.transaction, hmade]
  dsimp only
  rw [hfinish]

/-- Tables that are there need not be made. -/
lemma createTables (h : w.Accepts rows) : Store.createTables w = (.ok (), w.turn) := by
  have htables := Database.tables_of_rows h.rows
  have hbarrier : w.database.barrier = none := by
    have hopen := h.unshut
    rw [Database.isShut, Bool.or_eq_false_iff, Option.isSome_eq_false_iff,
      Option.isNone_iff_eq_none] at hopen
    exact hopen.2
  have hdb : w.turn.database = w.database := World.database_of_ground (World.ground_turn w)
  have hsame : some (w.database.tables.getD {}) = w.database.tables := by
    rw [htables, Option.getD_some]
  unfold Store.createTables Store.changeTables
  simp only [Action.bind_apply, Action.get_apply, Action.modify_apply, hdb, hsame]
  have hnone : Store.schemaFailure? w.database Schema.makeUsers (decide (w.database.tables ≠
      w.database.tables)) = none := by
    simp [Store.schemaFailure?, Database.reachable_of_rows h.rows, hbarrier]
  rw [hnone]
  dsimp only
  rw [← hdb]
  rfl

end World.Accepts

namespace CommandLine

/-- An order for a name that somebody has is refused, and the name is told. -/
lemma carryOut_taken {order : Order} (h : w.Accepts rows)
    (hfit : checkedUsername (some order.username) = .ok order.username) (hu : u ∈ rows.users)
    (hname : Text.ofString u.username = order.username) :
    (carryOut {} order w).1.exitCode = 1 ∧
      (carryOut {} order w).1.output = s!"Error: Username {u.username} is taken\n" := by
  have hboot : ∀ v : World, v.Accepts rows → ∃ f v', bootstrapStaffUser {} (some order.username)
      (.text Settings.defaultTokenName) v = (.error f, v') ∧ f.cause = .usernameTaken u.username := by
    intro v hv
    have hnoted := hv.congr (World.ground_write v .info .issuance
      ("Bootstrapping staff user " ++ order.username)) (World.randomness_write _ _ _ _)
    obtain ⟨f, v', hcreate, hcause⟩ :=
      hnoted.createUser_taken hfit hu hname true (.text Settings.defaultTokenName)
    exact ⟨f, v', hcreate, hcause⟩
  have hcreate : ∃ f v', create {} order w.turn = (.error f, v') ∧
      f.cause = .usernameTaken u.username := by
    unfold create
    by_cases htables : order.createTables
    · simp only [if_pos htables]
      rw [Action.bind_apply, h.turn.createTables]
      exact hboot _ h.turn.turn
    · simp only [if_neg htables]
      exact hboot _ h.turn
  obtain ⟨f, v, hfails, hcause⟩ := hcreate
  have hrun : (create {} order).run w.turn = (.error f, v) := hfails
  have hanswer : (carryOut {} order w).1 = report f [] := by
    unfold carryOut
    rw [Computation.bind_apply, awaitDatabase_of_reachable (Database.reachable_of_rows h.rows)]
    dsimp only
    rw [if_neg (by decide), Computation.bind_apply, hrun]
    rfl
  have hmessage : f.message = Text.ofString s!"Username {u.username} is taken" := by
    rw [Failure.message, hcause]
    rfl
  rw [hanswer, report, hcause, hmessage]
  refine ⟨rfl, ?_⟩
  change "Error: " ++ (Text.ofString ("Username " ++ u.username ++ " is taken")).escaped ++ "\n" = _
  rw [Text.escaped_ofString]
  change "Error: " ++ ("Username " ++ u.username ++ " is taken") ++ "\n" =
    "Error: Username " ++ u.username ++ " is taken\n"
  simp [← String.toList_inj]

end CommandLine

/-- Users can be added at an address: the clock shows a date that an id can hold, there is randomness, and
the database there can be opened and is not locked. -/
structure World.Ready (w : World) (address : Text) : Prop where
  past : 0 ≤ w.clock
  date : w.stamp?.isSome
  draws : w.entropy.head? ≠ some .failing
  reachable : ∀ db ∈ w.databaseAt? address, db.reachable = true
  unlocked : ∀ db ∈ w.databaseAt? address, db.locked = false

namespace World.Ready

variable {address : Text}

lemma congr (h : w.Ready address) (hg : w'.ground = w.ground) (hs : w'.surroundings = w.surroundings)
    (hr : w'.randomness = w.randomness) : w'.Ready address where
  past := (clock_of_ground hg).symm ▸ h.past
  date := (stamp_of_ground hg).symm ▸ h.date
  draws := by
    have hentropy : w'.entropy = w.entropy := congrArg Prod.fst hr
    exact hentropy ▸ h.draws
  reachable := (databaseAt?_of_ground hg hs address).symm ▸ h.reachable
  unlocked := (databaseAt?_of_ground hg hs address).symm ▸ h.unlocked

/-- Whoever works in a file that is ready and can be changed finds rows to which users can be added. -/
lemma accepts (h : w.Ready address) {db : Database} (hthere : w.databaseAt? address = some db)
    (hbarrier : db.barrier = none) (hu : u ∈ (w.rowsAt address).users) :
    ({ w with idle := [], database := db } : World).Accepts (w.rowsAt address) where
  past := h.past
  date := h.date
  draws := h.draws
  rows := by
    have hstored : w.rowsAt address = ({ w with idle := [], database := db } : World).stored := by
      rw [rowsAt, hthere]
      rfl
    rw [hstored] at hu ⊢
    exact rows_of_user (h.reachable db hthere) hu
  unshut := by
    change (db.locked || db.barrier.isSome) = false
    rw [h.unlocked db hthere, hbarrier]
    rfl

end World.Ready

namespace CommandLine

/-- Words give an order, and set a level that there is. -/
def Asks (words : List Text) (env : Environment) (order : Order) : Prop :=
  ∃ level rest rank, readProgram words = .ok (level, rest) ∧
    (Level.named level.upperCase).rank? = .ok rank ∧ readOrder rest env = .ok order

lemma Asks.order? {words : List Text} {env : Environment} {order : Order}
    (h : Asks words env order) : order? words env = some order := by
  obtain ⟨level, rest, rank, hprogram, -, horder⟩ := h
  rw [CommandLine.order?, hprogram]
  dsimp only
  rw [horder]
  rfl

/-- In a file that can be opened and is not locked, an order for a name that somebody has is refused. -/
lemma serve_taken {order : Order} (hplace : LeadsToFile order.address)
    (hready : v.Ready order.address) (hfit : checkedUsername (some order.username) = .ok order.username)
    (hu : u ∈ (v.rowsAt order.address).users) (hname : Text.ofString u.username = order.username) :
    (serve {} order v).1.exitCode = 1 ∧
      (serve {} order v).1.output = s!"Error: Username {u.username} is taken\n" := by
  obtain ⟨path, passed, opening, hopens, hbarrier⟩ := hplace
  rcases hopen : openDatabase order.address poolRequest v with ⟨x, v₁⟩
  obtain rfl : x = .ok (.file path passed opening) := by
    have hx := hopens v
    rw [hopen] at hx
    exact hx
  obtain ⟨hg, hs, hr⟩ := openDatabase_spares hopen
  have hthere : v₁.databaseAt? order.address = some (v₁.databaseIn path passed opening) := by
    rw [World.databaseAt?, openDatabase_ok hopen]
  rw [← World.rowsAt_of_ground hg hs] at hu
  have haccepts := (hready.congr hg hs hr).accepts hthere
    ((World.barrier_databaseIn _ _ _ _).trans hbarrier) hu
  have hanswer : (serve {} order v).1 = (carryOut {} order
      { v₁ with idle := [], database := v₁.databaseIn path passed opening }).1 := by
    have hrun : (openDatabase order.address poolRequest).run v =
        (.ok (.file path passed opening), v₁) := hopen
    unfold serve
    rw [Computation.bind_apply, hrun]
    rfl
  rw [hanswer]
  exact carryOut_taken haccepts hfit hu hname

lemma run_taken {words : List Text} {env : Environment} {order : Order} (h : Asks words env order)
    (hplace : LeadsToFile order.address) (hready : v.Ready order.address)
    (hfit : checkedUsername (some order.username) = .ok order.username)
    (hu : u ∈ (v.rowsAt order.address).users) (hname : Text.ofString u.username = order.username) :
    (run {} words env v).1.exitCode = 1 ∧
      (run {} words env v).1.output = printed s!"Error: Username {u.username} is taken\n" := by
  obtain ⟨level, rest, rank, hprogram, hrank, horder⟩ := h
  have hrows : ({ v with threshold := rank } : World).rowsAt order.address =
      v.rowsAt order.address := World.rowsAt_of_ground rfl rfl _
  have hready' : ({ v with threshold := rank } : World).Ready order.address := hready.congr rfl rfl rfl
  obtain ⟨hcode, houtput⟩ := serve_taken hplace hready' hfit (hrows ▸ hu) hname
  have hanswer : (answer {} words env v).1 = (serve {} order { v with threshold := rank }).1 := by
    unfold answer
    rw [hprogram]
    dsimp only
    rw [hrank]
    dsimp only
    rw [Computation.bind_apply, Computation.modify_apply, horder]
  have hrun : (run {} words env v).1 =
      { (answer {} words env v).1 with output := printed (answer {} words env v).1.output } := rfl
  rw [hrun, hanswer, houtput]
  exact ⟨hcode, rfl⟩

end CommandLine

/-! ### What is printed of the user -/

lemma not_mem_identifier {c : Char} (h : isLowerHex c = false) (hdash : c ≠ '-') (clock : Nat)
    (bytes : List UInt8) : c ∉ (identifier clock bytes).toList := by
  simp [identifier, identifierText, not_mem_hexText h, hdash]

/-- What is printed of a user of staff with its token: two lines, with the id in the first and the secret
in the second, less what steers a terminal. The second line is whole in any case, and both are if the name
does not steer a terminal. -/
structure Announces (output : String) (u : UserRow) (k : TokenRow) : Prop where
  lines : output = printed s!"Created staff user {u.username} ({u.id})\nToken: {k.secret}\n"
  secret : ∃ line : String, output = s!"{line}\nToken: {k.secret}\n"
  whole : '\x1b' ∉ u.username.toList → '\r' ∉ u.username.toList →
    output = s!"Created staff user {u.username} ({u.id})\nToken: {k.secret}\n"

lemma announces (hid : ∃ clock bytes, u.id = identifier clock bytes)
    (hsecret : ∃ bytes, k.secret = String.ofList (hexText bytes)) :
    Announces (printed (CommandLine.announcement ⟨u.toUser, k.toToken⟩)) u k := by
  obtain ⟨clock, random, hid⟩ := hid
  obtain ⟨bytes, hsecret⟩ := hsecret
  have hplain : ∀ c, isLowerHex c = false → c ∉ k.secret.toList := by
    intro c hc
    rw [hsecret, String.toList_ofList]
    exact not_mem_hexText hc bytes
  have hnamed : ∀ c, isLowerHex c = false → c ≠ '-' → c ∉ u.id.toList := by
    intro c hc hdash
    rw [hid]
    exact not_mem_identifier hc hdash clock random
  refine ⟨rfl, ?_, fun hescape hreturn => printed_of_plain ?_ ?_⟩
  · obtain ⟨line, hline⟩ := printed_line ("Created staff user " ++ u.username ++ " (" ++ u.id ++ ")")
      ("Token: " ++ k.secret ++ "\n")
    have hlast : printed ("Token: " ++ k.secret ++ "\n") = "Token: " ++ k.secret ++ "\n" := by
      refine printed_of_plain ?_ ?_
      · simp [hplain '\x1b' (by decide)]
      · simp [hplain '\r' (by decide)]
    have hlines : CommandLine.announcement ⟨u.toUser, k.toToken⟩ =
        "Created staff user " ++ u.username ++ " (" ++ u.id ++ ")" ++ "\n" ++
          ("Token: " ++ k.secret ++ "\n") := by
      change "Created staff user " ++ u.username ++ " (" ++ u.id ++ ")\nToken: " ++ k.secret ++ "\n" = _
      simp [← String.toList_inj]
    refine ⟨line, ?_⟩
    rw [hlines, hline, hlast]
    change _ = line ++ "\nToken: " ++ k.secret ++ "\n"
    simp [← String.toList_inj]
  · change '\x1b' ∉ ("Created staff user " ++ u.username ++ " (" ++ u.id ++ ")\nToken: " ++ k.secret ++
      "\n").toList
    simp [hescape, hnamed '\x1b' (by decide) (by decide), hplain '\x1b' (by decide)]
  · change '\r' ∉ ("Created staff user " ++ u.username ++ " (" ++ u.id ++ ")\nToken: " ++ k.secret ++
      "\n").toList
    simp [hreturn, hnamed '\r' (by decide) (by decide), hplain '\r' (by decide)]

/-! ### The command -/

namespace CommandLine

/-- Words that give an order. -/
def Order.words (o : Order) : List Text :=
  [Text.ofString commandName, "--username", o.username, "--database-url", o.address] ++
    if o.createTables then [Text.ofString "--create-db"] else []

/-- Every order can be given in words, whatever its name and its address. -/
lemma Order.asks (o : Order) (env : Environment) : Asks o.words env o := by
  obtain ⟨username, address, createTables⟩ := o
  refine ⟨Text.ofString defaultLevel, _, 20, rfl, by decide +kernel, ?_⟩
  cases createTables <;> rfl

/-- A command line that gives an order, for a database that is not in memory, succeeds just if it has added
one user of staff with the name that is asked for, and one token of this user that never expires. It
announces both, and whatever happens afterwards, the secret speaks for the user as long as they are there;
wherever users can be added to the same database, the name is refused as taken. A command line that fails
leaves all rows as they are. -/
theorem run_founds {words : List Text} {env : Environment} {order : Order}
    (horder : order? words env = some order) (hlasting : Lasting order.address)
    (hspelling : ∀ bytes, w.spelling bytes = String.ofList (hexText bytes)) (store : Store) :
    let report := (run store words env w).1
    let after := (run store words env w).2
    (report.exitCode = 0 ↔
      ∃ u k, Founded order.username (w.rowsAt order.address) (after.rowsAt order.address) u k) ∧
    (report.exitCode ≠ 0 →
      after.stored = w.stored ∧ ∀ address, after.rowsAt address = w.rowsAt address) ∧
    ∀ u k, Founded order.username (w.rowsAt order.address) (after.rowsAt order.address) u k →
      Announces report.output u k ∧
      (∀ s events, s.stored = after.rowsAt order.address →
        (Event.run events s).2.database.reachable = true → u ∈ (Event.run events s).2.stored.users →
        k ∈ (Event.run events s).2.stored.tokens →
        ∀ now, ((Event.run events s).2.askedAt? now).isSome →
          (authenticate {} (some (Text.ofString k.secret)) now (Event.run events s).2).1 =
            .ok ⟨Text.ofString u.id, order.username, true⟩) ∧
      ∀ again env' order' v, Asks again env' order' → order'.username = order.username →
        order'.address = order.address → v.Ready order.address →
        u ∈ (v.rowsAt order.address).users →
          (run {} again env' v).1.exitCode = 1 ∧
          (run {} again env' v).1.output = printed s!"Error: Username {u.username} is taken\n" := by
  rcases hrun : run store words env w with ⟨report, after⟩
  dsimp only
  have hfailed (hcode : report.exitCode ≠ 0) :
      after.stored = w.stored ∧ ∀ address, after.rowsAt address = w.rowsAt address := by
    have hkept := run_failed hrun hcode
    exact ⟨hkept.database.stored, hkept.rowsAt⟩
  have hcode : ∀ u k, Founded order.username (w.rowsAt order.address)
      (after.rowsAt order.address) u k → report.exitCode = 0 := by
    intro u k hfounded
    by_contra hne
    exact hfounded.ne ((hfailed hne).2 _)
  refine ⟨⟨fun hzero => ?_, fun ⟨u, k, hfounded⟩ => hcode u k hfounded⟩, hfailed,
    fun u k hfounded => ?_⟩
  · obtain ⟨-, u, k, -, hfounding⟩ := run_succeeds horder hlasting hrun hzero
    exact ⟨u, k, hfounding.toFounded⟩
  obtain ⟨hplace, u', k', houtput, hfounding⟩ :=
    run_succeeds horder hlasting hrun (hcode u k hfounded)
  obtain ⟨rfl, rfl⟩ := hfounded.unique hfounding.toFounded
  obtain ⟨bytes, hlength, hsecret⟩ := hfounding.secret
  rw [hspelling] at hsecret
  refine ⟨?_, ?_, ?_⟩
  · rw [houtput]
    exact announces hfounding.id ⟨bytes, hsecret⟩
  · intro s events hstored hreachable hu hk now hasked
    obtain ⟨-, hadmits, hfollows⟩ := Event.run_follows events s
    have hsingle : (Event.run events s).2.stored.Single u'.id k'.secret := by
      rw [hfollows]
      rw [hstored] at hadmits ⊢
      exact hfounding.single.after hadmits
    have hnonempty : Text.ofString k'.secret ≠ [] := by
      have hbytes : bytes ≠ [] := by
        rintro rfl
        cases hlength
      rw [hsecret]
      exact (isWord_hexText hbytes).1
    rw [authenticate_of_single hsingle hu hk hfounded.owned hfounded.endless hnonempty hreachable hasked,
      UserRow.toIdentity, hfounded.named, hfounded.staff]
  · intro again env' order' v hasks husername haddress hready hu
    rw [← haddress] at hplace hready hu
    refine run_taken hasks hplace hready ?_ hu (hfounded.named.trans husername.symm)
    rw [husername]
    exact hfounding.fit

/-- An order for a user in the database of the world. -/
def orderFor (username : Text) : Order := ⟨username, ({} : World).databaseUrl, false⟩

lemma lasting_home : Lasting ({} : World).databaseUrl := by
  unfold Lasting
  decide +kernel

/-- The world after the order for ann. -/
def annMade : World := (run {} (orderFor "ann").words [] {}).2

lemma annMade_facts : (run {} (orderFor "ann").words [] {}).1.exitCode = 0 ∧
    annMade.stored = annMade.rowsAt (orderFor "ann").address ∧
    annMade.database.reachable = true ∧ annMade.clock = ({} : World).clock ∧ annMade.entropy = [] ∧
    ∀ db ∈ annMade.databaseAt? (orderFor "ann").address, db.reachable = true ∧ db.locked = false := by
  decide +kernel

lemma annMade_ready : annMade.Ready (orderFor "ann").address := by
  obtain ⟨-, -, -, hclock, hentropy, hdb⟩ := annMade_facts
  refine ⟨?_, ?_, ?_, fun db h => (hdb db h).1, fun db h => (hdb db h).2⟩
  · rw [hclock]
    decide
  · rw [World.stamp?, hclock]
    decide +kernel
  · rw [hentropy]
    decide

/-- Somebody called ann is made, logs in a second later, and cannot be made again. -/
theorem run_founds_ann :
    (order? (orderFor "ann").words [] = some (orderFor "ann") ∧ Lasting (orderFor "ann").address ∧
      ∀ bytes, ({} : World).spelling bytes = String.ofList (hexText bytes)) ∧
    (run {} (orderFor "ann").words [] {}).1.exitCode = 0 ∧ ∃ u k,
      Founded "ann" {} (annMade.rowsAt (orderFor "ann").address) u k ∧
      Announces (run {} (orderFor "ann").words [] {}).1.output u k ∧
      (authenticate {} (some (Text.ofString k.secret)) none
        (Event.run [({}, .tick 1000)] annMade).2).1 = .ok ⟨Text.ofString u.id, "ann", true⟩ ∧
      (run {} (orderFor "ann").words [] annMade).1.exitCode = 1 ∧
      (run {} (orderFor "ann").words [] annMade).1.output =
        printed s!"Error: Username {u.username} is taken\n" := by
  have horder := ((orderFor "ann").asks []).order?
  have hspelling : ∀ bytes, ({} : World).spelling bytes = String.ofList (hexText bytes) := fun _ => rfl
  have hbefore : ({} : World).rowsAt (orderFor "ann").address = {} := World.rowsAt_of_empty rfl rfl _
  obtain ⟨hcode, hstored, hreachable, hclock, -⟩ := annMade_facts
  obtain ⟨hiff, -, hall⟩ := run_founds horder lasting_home hspelling {}
  obtain ⟨u, k, hfounded⟩ := hiff.mp hcode
  obtain ⟨hannounces, hspeaks, htaken⟩ := hall u k hfounded
  change Founded "ann" _ (annMade.rowsAt (orderFor "ann").address) u k at hfounded
  have hu : u ∈ (annMade.rowsAt (orderFor "ann").address).users := by
    rw [hfounded.added]
    exact List.mem_append_right _ List.mem_cons_self
  have hk : k ∈ (annMade.rowsAt (orderFor "ann").address).tokens := by
    rw [hfounded.added]
    exact List.mem_append_right _ List.mem_cons_self
  have hdb : ∀ w : World, (Event.run [({}, .tick 1000)] w).2.database = w.database := fun _ => rfl
  have hlater : ∀ w : World, (Event.run [({}, .tick 1000)] w).2.clock = w.clock + 1000 := fun _ => rfl
  have hasked : ((Event.run [({}, .tick 1000)] annMade).2.askedAt? none).isSome := by
    rw [World.askedAt?, World.stamp?, hlater, hclock]
    decide +kernel
  rw [hbefore] at hfounded
  refine ⟨⟨horder, lasting_home, hspelling⟩, hcode, u, k, hfounded, hannounces, ?_,
    htaken _ [] _ _ ((orderFor "ann").asks []) rfl rfl annMade_ready hu⟩
  refine hspeaks annMade [({}, .tick 1000)] hstored ?_ ?_ ?_ none hasked
  · rw [hdb]
    exact hreachable
  · rw [World.stored, hdb, ← World.stored, hstored]
    exact hu
  · rw [World.stored, hdb, ← World.stored, hstored]
    exact hk

/-- An order for a user in a database in memory. -/
def passing : Order := ⟨"ann", "sqlite://", true⟩

/-- A user who is made in memory is nowhere afterwards. A name that is taken is not told when the clock
shows no date any more. And a name that ends in the beginning of a control sequence takes the first letter
of an id with it, and is not itself told when it is taken. -/
theorem run_founds_nowhere :
    ((run {} passing.words [] {}).1.exitCode = 0 ∧ ∀ address, ¬∃ u k,
      Founded "ann" (({} : World).rowsAt address) ((run {} passing.words [] {}).2.rowsAt address) u k) ∧
    (let order := orderFor "ann"
      let early : World := { clock := 253402300799000 }
      let after := (run {} order.words [] early).2
      let later : World := { after with clock := after.clock + 1000 }
      (run {} order.words [] early).1.exitCode = 0 ∧ later.entropy = [] ∧
      (∀ db ∈ later.databaseAt? order.address, db.reachable = true ∧ db.locked = false) ∧
      (run {} order.words [] later).1.output =
        "Error: transaction: insert_user: Could not insert user\n") ∧
    (let order := orderFor "\x1b["
      let before : World := { clock := 175921860444160 }
      let after := (run {} order.words [] before).2
      (run {} order.words [] before).1.exitCode = 0 ∧
      (run {} order.words [] before).1.output =
        "Created staff user 0000000-0000-0000-0000-000000000001)\nToken: " ++
          "0000000000000000000000000000000000000000000000000000000000000003\n" ∧
      after.stored.users.map (·.id) = ["a0000000-0000-0000-0000-000000000001"] ∧
      (run {} order.words [] after).1.output = "Error: Username s taken\n") := by
  obtain ⟨hcode, hstored, hfiles⟩ : (run {} passing.words [] {}).1.exitCode = 0 ∧
      (run {} passing.words [] {}).2.stored = {} ∧ (run {} passing.words [] {}).2.files = [] := by
    decide +kernel
  refine ⟨⟨hcode, ?_⟩, by decide +kernel, by decide +kernel⟩
  rintro address ⟨u, k, hfounded⟩
  have hbefore : ({} : World).rowsAt address = {} := World.rowsAt_of_empty rfl rfl address
  have hafter := World.rowsAt_of_empty hstored hfiles address
  exact hfounded.ne (hafter.trans hbefore.symm)

end CommandLine

end BearerAccess
