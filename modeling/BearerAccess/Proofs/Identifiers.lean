import BearerAccess.Proofs.Ownership
import BearerAccess.Proofs.Representation
import BearerAccess.Proofs.Success
import Mathlib.Algebra.Group.Int.Defs
import Mathlib.Data.List.SplitLengths

/-!
# Identifiers in order

An identifier is greater than another if it was made later, or at the same time of greater random
bytes: bytes, their hexadecimal digits and the groups that these are written in are all compared in the
same order. The clock and the random bytes can be read back, so that identifiers of different origin
never coincide.
-/

namespace BearerAccess

/-! ### Hexadecimal texts -/

lemma hexByte_eq (b : UInt8) : hexByte b = hexPadded 2 b.toNat := by
  have hb := b.toNat_lt
  have hhigh : b.toNat / 16 % 16 = b.toNat / 16 := Nat.mod_eq_of_lt (by omega)
  change _ = [hexDigit (b.toNat / 16 % 16), hexDigit (b.toNat % 16)]
  rw [hhigh]
  rfl

/-- Bytes are in the order of their hexadecimal digits. -/
lemma hexText_lt_iff (as bs : List UInt8) : hexText as < hexText bs ↔ as < bs := by
  induction as generalizing bs with
  | nil =>
    cases bs with
    | nil => exact iff_of_false (List.not_lt_nil _) (List.not_lt_nil _)
    | cons b bs => exact iff_of_true (List.nil_lt_cons _ _) (List.nil_lt_cons _ _)
  | cons a as ih =>
    cases bs with
    | nil => exact iff_of_false (List.not_lt_nil _) (List.not_lt_nil _)
    | cons b bs =>
      change hexByte a ++ hexText as < hexByte b ++ hexText bs ↔ _
      rw [hexByte_eq, hexByte_eq, hex_positional.append_lt_iff a.toNat_lt b.toNat_lt, ih,
        List.cons_lt_cons_iff, UInt8.lt_iff_toNat_lt, UInt8.toNat_inj]

lemma hexValue?_hexDigit {n : Nat} (hn : n < 16) : hexValue? (hexDigit n) = some n := by
  have hall : ∀ n < 16, hexValue? (hexDigit n) = some n := by decide
  exact hall n hn

/-- The bytes of a hexadecimal text are read back. -/
lemma bytesOfHex?_hexText (bytes : List UInt8) : bytesOfHex? (hexText bytes) = some bytes := by
  induction bytes with
  | nil => rfl
  | cons b bytes ih =>
    have hb := b.toNat_lt
    rw [hexText_cons, bytesOfHex?, hexValue?_hexDigit (by omega), hexValue?_hexDigit (by omega), ih]
    simp only [bind, Option.bind_some, pure, Nat.div_add_mod, UInt8.ofNat_toNat]

/-- The number that bytes are the big-endian form of. -/
def ofBigEndian (bytes : List UInt8) : Nat := bytes.foldl (fun n b => 256 * n + b.toNat) 0

lemma ofBigEndian_bigEndian {size n : Nat} (hn : n < 256 ^ size) :
    ofBigEndian (bigEndian size n) = n := by
  induction size generalizing n with
  | zero =>
    rw [Nat.pow_zero, Nat.lt_one_iff] at hn
    rw [hn]
    rfl
  | succ size ih =>
    have hlast : (UInt8.ofNat (n % 256)).toNat = n % 256 :=
      UInt8.toNat_ofNat_of_lt' (Nat.mod_lt n (by omega))
    have hinit := ih (div_lt_pow hn)
    rw [ofBigEndian] at hinit
    rw [ofBigEndian, bytes_positional.write_succ, List.foldl_append, hinit, List.foldl_cons, hlast,
      List.foldl_nil, Nat.div_add_mod]

/-! ### Groups -/

/-- Dashes at the same places do not matter to the order. -/
lemma intercalate_lt_iff {gs hs : List (List Char)} (h : gs.map List.length = hs.map List.length) :
    ['-'].intercalate gs < ['-'].intercalate hs ↔ gs.flatten < hs.flatten := by
  induction gs generalizing hs with
  | nil =>
    rw [List.map_nil, eq_comm, List.map_eq_nil_iff] at h
    rw [h]
    rfl
  | cons g gs ih =>
    cases hs with
    | nil => cases h
    | cons k hs =>
      rw [List.map_cons, List.map_cons, List.cons.injEq] at h
      obtain ⟨hlength, hlengths⟩ := h
      by_cases hlast : gs = []
      · rw [hlast, List.map_nil, eq_comm, List.map_eq_nil_iff] at hlengths
        rw [hlast, hlengths]
        simp
      · have hmore : hs ≠ [] := by
          rintro rfl
          exact hlast (List.map_eq_nil_iff.mp hlengths)
        rw [List.intercalate_cons_of_ne_nil hlast, List.intercalate_cons_of_ne_nil hmore,
          List.append_assoc, List.append_assoc, append_lt_append_iff hlength, List.singleton_append,
          List.singleton_append, mark_lt_iff, ih hlengths, List.flatten_cons, List.flatten_cons,
          append_lt_append_iff hlength]

lemma filter_intercalate (gs : List (List Char)) :
    (['-'].intercalate gs).filter (· ≠ '-') = gs.flatten.filter (· ≠ '-') := by
  induction gs with
  | nil => rfl
  | cons g gs ih =>
    by_cases hlast : gs = []
    · rw [hlast]
      simp
    · rw [List.intercalate_cons_of_ne_nil hlast, List.flatten_cons, List.filter_append,
        List.filter_append, List.filter_append, ih]
      simp

/-- The digits of bytes, in groups as they are written in an identifier. -/
def digitGroups (bytes : List UInt8) : List (List Char) :=
  ([4, 2, 2, 2, 6].splitLengths bytes).map hexText

lemma toList_identifierText (bytes : List UInt8) :
    (identifierText bytes).toList = ['-'].intercalate (digitGroups bytes) := by
  rw [identifierText, String.toList_ofList]
  simp [digitGroups, List.drop_drop, List.intercalate_cons_cons]

section

variable {bytes : List UInt8} (h : bytes.length = 16)

include h

lemma flatten_digitGroups : (digitGroups bytes).flatten = hexText bytes := by
  have hwhole := List.flatten_splitLengths bytes [4, 2, 2, 2, 6] (by rw [h]; decide)
  calc (digitGroups bytes).flatten
      = ([4, 2, 2, 2, 6].splitLengths bytes).flatMap fun group => group.flatMap hexByte :=
        List.flatMap_def.symm
    _ = (([4, 2, 2, 2, 6].splitLengths bytes).flatMap id).flatMap hexByte := List.flatMap_assoc.symm
    _ = hexText bytes := by rw [List.flatMap_id, hwhole, hexText]

lemma length_digitGroups : (digitGroups bytes).map List.length = [8, 4, 4, 4, 12] := by
  have hsizes := List.map_splitLengths_length bytes [4, 2, 2, 2, 6] (by rw [h]; decide)
  have hdigits : List.length ∘ hexText = (2 * ·) ∘ List.length := funext length_hexText
  rw [digitGroups, List.map_map, hdigits, ← List.map_map, hsizes]
  rfl

end

/-! ### What an identifier is made of -/

/-- An identifier that is made at a time, of ten random bytes. -/
structure MadeOf (id : String) (clock : Int) (random : List UInt8) : Prop where
  early : 0 ≤ clock
  late : clock < 2 ^ 48
  size : random.length = 10
  text : id = identifier clock.toNat random

/-- A text of 36 characters: lowercase hexadecimal digits in groups of 8, 4, 4, 4 and 12, with dashes
between the groups. -/
structure LaidOut (id : String) : Prop where
  length : id.toList.length = 36
  groups : ∃ groups : List (List Char), groups.map List.length = [8, 4, 4, 4, 12] ∧
    (∀ g ∈ groups, ∀ c ∈ g, isLowerHex c = true) ∧ id.toList = ['-'].intercalate groups

/-- Reads the clock and the random bytes of an identifier. The dashes are left out. -/
def readIdentifier? (id : String) : Option (Nat × List UInt8) :=
  (bytesOfHex? (id.toList.filter (· ≠ '-'))).map fun bytes =>
    (ofBigEndian (bytes.take 6), bytes.drop 6)

namespace MadeOf

variable {id id' : String} {t t' : Int} {r r' : List UInt8}

lemma clock_lt (h : MadeOf id t r) : t.toNat < 256 ^ 6 := by
  have hlate := h.late
  omega

lemma length_bytes (h : MadeOf id t r) : (bigEndian 6 t.toNat ++ r).length = 16 := by
  rw [List.length_append, bytes_positional.length, h.size]

lemma toList_eq (h : MadeOf id t r) :
    id.toList = ['-'].intercalate (digitGroups (bigEndian 6 t.toNat ++ r)) := by
  rw [h.text, identifier, toList_identifierText]

lemma laidOut (h : MadeOf id t r) : LaidOut id := by
  have hgroups := length_digitGroups h.length_bytes
  refine ⟨?_, digitGroups (bigEndian 6 t.toNat ++ r), hgroups, fun g hg c hc => ?_, h.toList_eq⟩
  · have hlength := h.length_bytes
    rw [h.text, identifier, identifierText, String.toList_ofList]
    simp [length_hexText, hlength]
  · obtain ⟨bytes, -, rfl⟩ := List.mem_map.mp hg
    exact isLowerHex_hexText bytes c hc

/-- The clock and the random bytes of an identifier are read back. -/
lemma readIdentifier?_eq (h : MadeOf id t r) : readIdentifier? id = some (t.toNat, r) := by
  have hplain : ∀ c ∈ hexText (bigEndian 6 t.toNat ++ r), decide (c ≠ '-') = true := by
    rintro c hc
    rw [decide_eq_true_iff]
    rintro rfl
    exact not_mem_hexText (by decide) _ hc
  rw [readIdentifier?, h.toList_eq, filter_intercalate, flatten_digitGroups h.length_bytes,
    List.filter_eq_self.mpr hplain, bytesOfHex?_hexText, Option.map_some,
    List.take_left' (bytes_positional.length 6 _), List.drop_left' (bytes_positional.length 6 _),
    ofBigEndian_bigEndian h.clock_lt]

/-- Identifiers are in the order of their clocks, and those of one time in the order of their random
bytes. -/
lemma lt_iff (h : MadeOf id t r) (h' : MadeOf id' t' r') : id < id' ↔ t < t' ∨ t = t' ∧ r < r' := by
  have hlengths : (digitGroups (bigEndian 6 t.toNat ++ r)).map List.length =
      (digitGroups (bigEndian 6 t'.toNat ++ r')).map List.length := by
    rw [length_digitGroups h.length_bytes, length_digitGroups h'.length_bytes]
  have hearly := h.early
  have hearly' := h'.early
  rw [String.lt_iff_toList_lt, h.toList_eq, h'.toList_eq, intercalate_lt_iff hlengths,
    flatten_digitGroups h.length_bytes, flatten_digitGroups h'.length_bytes, hexText_lt_iff,
    bytes_positional.append_lt_iff h.clock_lt h'.clock_lt]
  have hlt : t.toNat < t'.toNat ↔ t < t' := by omega
  have heq : t.toNat = t'.toNat ↔ t = t' := by omega
  rw [hlt, heq]

/-- Identifiers are the same just if both the clocks and the random bytes are. -/
lemma eq_iff (h : MadeOf id t r) (h' : MadeOf id' t' r') : id = id' ↔ t = t' ∧ r = r' := by
  refine ⟨fun hid => ?_, fun ⟨ht, hr⟩ => by rw [h.text, h'.text, ht, hr]⟩
  have hread := h.readIdentifier?_eq
  rw [hid, h'.readIdentifier?_eq, Option.some.injEq, Prod.mk.injEq] at hread
  have hearly := h.early
  have hearly' := h'.early
  exact ⟨by omega, hread.2.symm⟩

end MadeOf

/-! ### Identifiers that are made in a world -/

variable {store : Store} {v w w' : World}

lemma newIdentifier_ok_iff {id : String} :
    newIdentifier w = (.ok id, w') ↔ ∃ r, w.draw 10 = (some r, w') ∧ MadeOf id w.clock r := by
  have hlimit : clockLimit = 2 ^ 48 := by decide
  rw [newIdentifier_apply, hlimit]
  by_cases hearly : w.clock < 0
  · rw [if_pos hearly]
    exact iff_of_false (fun h => nomatch h) fun ⟨r, _, h⟩ => absurd h.early (by omega)
  by_cases hlate : 2 ^ 48 ≤ w.clock
  · rw [if_neg hearly, if_pos hlate]
    exact iff_of_false (fun h => nomatch h) fun ⟨r, _, h⟩ => absurd h.late (by omega)
  rw [if_neg hearly, if_neg hlate]
  rcases hdrawn : w.draw 10 with ⟨_ | r, w₁⟩
  · exact iff_of_false (fun h => nomatch h) fun ⟨_, h, _⟩ => nomatch h
  have hsize : r.length = 10 := World.length_draw (congrArg Prod.fst hdrawn)
  dsimp only
  rw [Prod.mk.injEq, Except.ok.injEq]
  constructor
  · rintro ⟨rfl, rfl⟩
    exact ⟨r, rfl, by omega, by omega, hsize, rfl⟩
  · rintro ⟨r', hsame, h⟩
    obtain ⟨hr, rfl⟩ := Prod.mk.inj hsame
    rw [h.text, Option.some.inj hr]
    exact ⟨rfl, rfl⟩

/-! ### The stages of an issue -/

lemma Store.insertUser_told {id username : Option Text} {isStaff : Flag} {s s' : Session}
    {user : User} (h : store.insertUser id username isStaff s w = ((.ok user, s'), w')) :
    stored? id = some user.userId ∧ stored? username = some user.username ∧
      user.isStaff = isStaff.stored?.getD false := by
  unfold Store.insertUser at h
  obtain ⟨e, -, he⟩ | ⟨result, s₁, w₁, hinsert, hrest⟩ := Block.bind_cases h
  · cases he
  cases result with
  | error e => cases hrest
  | ok row =>
    cases hrest
    obtain ⟨f, rows, rows', hf, hok, -⟩ := Store.insert_applies hinsert
    obtain ⟨now, -, rfl⟩ := Option.map_eq_some_iff.mp hf
    obtain ⟨hnew, -⟩ := Tables.insertUser_ok hok
    obtain ⟨hid, hname, hstaff⟩ := NewUser.mk.inj hnew
    exact ⟨hid, hname, hstaff.symm⟩

/-- A transaction that ends well has had a block that did. -/
lemma Store.transaction_ok {α : Type} {body : Block α} {a : α}
    (h : store.transaction body w = (.ok a, w')) : ∃ s w₁, body {} w = ((.ok a, s), w₁) := by
  rcases hbody : body {} w with ⟨⟨ending, s⟩, w₁⟩
  rw [transaction, hbody] at h
  cases ending with
  | error f =>
    obtain ⟨f', w₂, hfails, -⟩ : ∃ f' w₂,
        store.finish (.error f : Except Failure α) s w₁ = (.error f', w₂) ∧ f'.cause = f.cause :=
      finish_error s w₁
    dsimp only at h
    rw [hfails] at h
    cases h
  | ok b =>
    unfold finish at h
    dsimp only at h
    cases hcommit : s.commit? (store.faults w₁.tasks) w₁.assigned.database with
    | none =>
      obtain ⟨f', w₂, hfails, -⟩ := rollBack_error (α := α) (store.faults w₁.tasks)
        (Cause.store .notCommitted) s
        (w₁.assigned.raising ((store.faults w₁.tasks).commit.map .method))
      rw [hcommit] at h
      dsimp only at h
      rw [hfails] at h
      cases h
    | some db =>
      rw [hcommit] at h
      cases h
      exact ⟨s, w₁, rfl⟩

/-- How credentials come about: the username is in order, an id is made, the user is inserted under it,
another id and a secret are made, and the token is inserted. -/
inductive Store.Creates (store : Store) (username : Option Text) (isStaff : Flag) (tokenName : Label)
    (expiresAt : Option DateTime) (w : World) : Credentials → Prop where
  | staged {name : Text} {userId tokenId secret : String} {user : User} {token : Token}
    {s₁ s₂ : Session} {w₁ w₂ w₃ w₄ w₅ : World} (hname : checkedUsername username = .ok name)
    (hid : newIdentifier w = (.ok userId, w₁))
    (huser : store.insertUser (some (Text.ofString userId)) (some name) isStaff {} w₁ =
      ((.ok user, s₁), w₂))
    (hid' : newIdentifier w₂ = (.ok tokenId, w₃))
    (hsecret : newSecret secretSize w₃ = (.ok secret, w₄))
    (htoken : store.insertToken (some (Text.ofString tokenId)) (some (Text.ofString user.userId))
      (some (Text.ofString secret)) tokenName expiresAt s₁ w₄ = ((.ok token, s₂), w₅)) :
    Creates store username isStaff tokenName expiresAt w ⟨user, token⟩

section

variable {username : Option Text} {isStaff : Flag} {tokenName : Label} {expiresAt : Option DateTime}
  {c : Credentials}

lemma createUser_creates
    (h : createUser store username isStaff tokenName expiresAt w = (.ok c, w')) :
    store.Creates username isStaff tokenName expiresAt w c := by
  unfold createUser at h
  cases hname : checkedUsername username with
  | error problem =>
    rw [hname] at h
    cases h
  | ok name =>
    rw [hname] at h
    obtain ⟨e, -, he⟩ | ⟨userId, w₁, hid, hrest⟩ := Action.bind_cases h
    · cases he
    obtain ⟨e, -, he⟩ | ⟨made, w₂, hmade, hnote⟩ := Action.bind_cases hrest
    · cases he
    cases hnote
    obtain ⟨s, w₃, hbody⟩ := Store.transaction_ok hmade
    obtain ⟨e, -, he⟩ | ⟨user, s₁, w₄, huser, hfirst⟩ := Block.bind_cases hbody
    · cases he
    obtain ⟨e, -, he⟩ | ⟨tokenId, s₂, w₅, hout, hsecond⟩ := Block.bind_cases hfirst
    · cases he
    obtain ⟨rfl, hid'⟩ := Block.outside_cases hout
    obtain ⟨e, -, he⟩ | ⟨secret, s₃, w₆, hout', hthird⟩ := Block.bind_cases hsecond
    · cases he
    obtain ⟨rfl, hsecret⟩ := Block.outside_cases hout'
    obtain ⟨e, -, he⟩ | ⟨token, s₄, w₇, htoken, hdone⟩ := Block.bind_cases hthird
    · cases he
    cases hdone
    exact .staged hname hid huser hid' hsecret htoken

/-- A user that is created has the name and the standing that were asked for, and an id that has been
made for it. -/
lemma createUser_told (h : createUser store username isStaff tokenName expiresAt w = (.ok c, w')) :
    stored? username = some c.user.username ∧ c.user.isStaff = isStaff.stored?.getD false ∧
      ∃ clock bytes, c.user.userId = identifier clock bytes := by
  cases createUser_creates h with
  | staged hname hid huser =>
    obtain ⟨hkey, hstored, hstaff⟩ := Store.insertUser_told huser
    refine ⟨eq_of_checkedUsername hname ▸ hstored, hstaff, ?_⟩
    obtain ⟨bytes, -, hmade⟩ := newIdentifier_ok_iff.mp hid
    rw [← Option.some.inj ((stored?_ofString _).symm.trans hkey)]
    exact ⟨_, bytes, hmade.text⟩

end

/-- The insert of a user draws nothing and leaves the clock alone. -/
lemma Store.insertUser_keeps {id username : Option Text} {isStaff : Flag} {s s' : Session}
    {r : Except Failure User} (h : store.insertUser id username isStaff s w = ((r, s'), w')) :
    w'.clock = w.clock ∧ w'.randomness = w.randomness := by
  obtain ⟨idle, database, origin, hworld⟩ := store.insert_world (userInsertion id username isStaff) s w
  have hsame : w' = (store.insert (userInsertion id username isStaff) s w).2 := by
    unfold insertUser at h
    rw [Block.bind_apply] at h
    rcases hx : store.insert (userInsertion id username isStaff) s w with ⟨⟨e | ⟨e | row⟩, s₁⟩, w₁⟩
    all_goals
      rw [hx] at h
      exact (congrArg Prod.snd h).symm
  rw [hsame, hworld]
  exact ⟨rfl, rfl⟩

/-- The ids of credentials are made at the time of the world, that of the user of the ten bytes that are
drawn first and that of the token of the ten that are drawn next. -/
def World.Marks (w : World) (c : Credentials) : Prop :=
  ∃ r s, (w.draw 10).1 = some r ∧ ((w.draw 10).2.draw 10).1 = some s ∧
    MadeOf c.user.userId w.clock r ∧ MadeOf c.token.tokenId w.clock s

lemma World.Marks.congr {c : Credentials} (h : v.Marks c) (hclock : v.clock = w.clock)
    (hr : v.randomness = w.randomness) : w.Marks c := by
  obtain ⟨r, s, hfirst, hsecond, huser, htoken⟩ := h
  obtain ⟨hdraw, hrest⟩ := World.draw_congr hr 10
  rw [hclock] at huser htoken
  exact ⟨r, s, hdraw ▸ hfirst, (World.draw_congr hrest 10).1 ▸ hsecond, huser, htoken⟩

lemma Store.Creates.marks {username : Option Text} {isStaff : Flag} {tokenName : Label}
    {expiresAt : Option DateTime} {c : Credentials}
    (h : store.Creates username isStaff tokenName expiresAt w c) : w.Marks c := by
  cases h with
  | @staged name userId tokenId secret user token s₁ s₂ w₁ w₂ w₃ w₄ w₅ hname hid huser hid' hsecret
      htoken =>
    obtain ⟨r, hr, hmade⟩ := newIdentifier_ok_iff.mp hid
    obtain ⟨s, hs, hmade'⟩ := newIdentifier_ok_iff.mp hid'
    have hafter : w₁ = (w.draw 10).2 := (congrArg Prod.snd hr).symm
    have hclock₁ : w₁.clock = w.clock := by
      rw [hafter]
      exact World.clock_of_ground (World.ground_draw 10 w)
    -- The insert of the user stands between the two draws.
    obtain ⟨hclock₂, hrandom⟩ := Store.insertUser_keeps huser
    have hdrawn : (w₁.draw 10).1 = some s :=
      (World.draw_congr hrandom 10).1.symm.trans (congrArg Prod.fst hs)
    have hkey := Option.some.inj ((stored?_ofString _).symm.trans (Store.insertUser_told huser).1)
    have hkey' := Option.some.inj ((stored?_ofString _).symm.trans (Store.insertToken_told htoken).1)
    rw [hkey] at hmade
    rw [hkey', hclock₂, hclock₁] at hmade'
    exact ⟨r, s, congrArg Prod.fst hr, hafter ▸ hdrawn, hmade, hmade'⟩

/-- A world in which credentials are issued, by somebody of staff or in a bootstrap. -/
inductive World.Issues (w : World) (c : Credentials) : Prop where
  | issued {store : Store} {actor : Option Identity} {username : Option Text} {isStaff : Flag}
    {tokenName : Label} {expiresAt : Option DateTime} {w' : World}
    (h : issueUser store actor username isStaff tokenName expiresAt w = (.ok c, w')) : Issues w c
  | bootstrapped {store : Store} {username : Option Text} {tokenName : Label} {w' : World}
    (h : bootstrapStaffUser store username tokenName w = (.ok c, w')) : Issues w c

lemma World.Issues.marks {c : Credentials} (h : w.Issues c) : w.Marks c := by
  cases h with
  | issued h => exact (createUser_creates (createUser_of_issueUser h)).marks
  | bootstrapped h =>
    rw [bootstrapStaffUser_apply] at h
    exact (createUser_creates h).marks.congr (World.clock_of_ground (World.ground_write _ _ _ _))
      (World.randomness_write _ _ _ _)

/-- Every identifier has the same layout, and tells the time at which it was made and the random bytes
that it was made of. It is greater than another just if it was made later, or at the same time of greater
bytes, and is the same just if both the times and the bytes are. An identifier is made in a world just if
the clock fits into six bytes and ten bytes can be drawn, and it is then made of these. The ids of a user
who is issued and of the token are made in this way, one after the other. -/
theorem identifiers_in_order :
    (∀ id t r, MadeOf id t r → LaidOut id ∧ readIdentifier? id = some (t.toNat, r)) ∧
      (∀ id id' t t' r r', MadeOf id t r → MadeOf id' t' r' →
        (id < id' ↔ t < t' ∨ t = t' ∧ r < r') ∧ (id = id' ↔ t = t' ∧ r = r')) ∧
      (∀ w id w', newIdentifier w = (.ok id, w') ↔
        ∃ r, w.draw 10 = (some r, w') ∧ MadeOf id w.clock r) ∧
      ∀ w c, World.Issues w c → w.Marks c :=
  ⟨fun _ _ _ h => ⟨h.laidOut, h.readIdentifier?_eq⟩, fun _ _ _ _ _ _ h h' => ⟨h.lt_iff h', h.eq_iff h'⟩,
    fun _ _ _ => newIdentifier_ok_iff, fun _ _ h => h.marks⟩

/-- A millisecond makes the id of ann greater, although the bytes that were drawn for the one before could
not have been greater. -/
theorem identifiers_in_order_ann :
    let early : World := { entropy := [.bytes (List.replicate 10 255)] }
    let late : World := { clock := 1600000000001 }
    ∃ c d : Credentials, early.Issues c ∧ late.Issues d ∧ LaidOut c.user.userId ∧
      readIdentifier? c.user.userId = some (1600000000000, List.replicate 10 255) ∧
      c.user.userId < d.user.userId := by
  intro early late
  obtain ⟨hread, horder, -, hissue⟩ := identifiers_in_order
  have hissued : ∀ w : World, (bootstrapStaffUser {} (some (Text.ofString "ann"))
      (.text (Text.ofString "laptop")) w).1.isOk → ∃ c, w.Issues c := by
    intro w hok
    rcases h : bootstrapStaffUser {} (some (Text.ofString "ann")) (.text (Text.ofString "laptop")) w
      with ⟨f | c, w'⟩
    · rw [h] at hok
      cases hok
    · exact ⟨c, .bootstrapped h⟩
  obtain ⟨c, hc⟩ := hissued early (by decide +kernel)
  obtain ⟨d, hd⟩ := hissued late (by decide +kernel)
  obtain ⟨r, -, hr, -, hmade, -⟩ := hissue early c hc
  obtain ⟨r', -, -, -, hmade', -⟩ := hissue late d hd
  have hdrawn : (early.draw 10).1 = some (List.replicate 10 255) := by decide
  obtain rfl : r = List.replicate 10 255 := Option.some.inj (hr.symm.trans hdrawn)
  obtain ⟨hlayout, hback⟩ := hread _ _ _ hmade
  exact ⟨c, d, hc, hd, hlayout, hback, (horder _ _ _ _ _ _ hmade hmade').1.mpr (.inl (by decide))⟩

end BearerAccess
