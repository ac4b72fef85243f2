import BearerAccess.Answer
import BearerAccess.Http.Message
import BearerAccess.Proofs.Text
import BearerAccess.Store.Tables

/-!
# Records read back

The credentials that an answer shows can be read back from its JSON form, but for their times.
-/

namespace BearerAccess

namespace Json

def at? (j : Json) (name : String) : Option Json :=
  match j with
  | object fields => field? fields name
  | _ => none

def string? : Json → Option String
  | string t => t.toString?
  | _ => none

def truth? : Json → Option Bool
  | bool b => some b
  | _ => none

end Json

def User.ofJson? (j : Json) : Option User := do
  let userId ← j.at? "user_id" >>= Json.string?
  let username ← j.at? "username" >>= Json.string?
  let isStaff ← j.at? "is_staff" >>= Json.truth?
  return { userId, username, isStaff }

def Token.ofJson? (j : Json) : Option Token := do
  let tokenId ← j.at? "token_id" >>= Json.string?
  let userId ← j.at? "user_id" >>= Json.string?
  let secret ← j.at? "token" >>= Json.string?
  let name ← j.at? "name" >>= Json.string?
  return { tokenId, userId, secret, name }

/-- Reads credentials, without their times. -/
def Credentials.ofJson? (j : Json) : Option Credentials := do
  let user ← j.at? "user" >>= User.ofJson?
  let token ← j.at? "token" >>= Token.ofJson?
  return { user, token }

def User.untimed (u : User) : User := { u with createdAt := none }

def Token.untimed (k : Token) : Token := { k with expiresAt := none, createdAt := none }

/-! ### Times of rows -/

lemma Stamp.offset_toDateTime? {s : Stamp} {d : DateTime} (h : s.toDateTime? = some d) :
    d.offset = none := by
  unfold toDateTime? at h
  simp only [Option.bind_eq_bind, Option.bind_eq_some_iff, Option.pure_def, Option.some.injEq] at h
  obtain ⟨_, _, _, _, _, _, _, _, _, _, _, _, _, _, rfl⟩ := h
  rfl

lemma shown_ofTime {t : Option DateTime} (h : ∀ d ∈ t, d.offset = none) :
    ∃ j, (Datum.ofTime? t).toJson? = some j := by
  cases t with
  | none => exact ⟨_, rfl⟩
  | some d =>
    refine ⟨Json.ofString ({ d with offset := some 0 } : DateTime).isoText, ?_⟩
    rw [Datum.ofTime?, Datum.toJson?, DateTime.toUniversal?, h d rfl]
    rfl

lemma shown_of_stamp (s : Stamp) : ∃ j, (Datum.ofTime? s.toDateTime?).toJson? = some j :=
  shown_ofTime fun _ hd => Stamp.offset_toDateTime? hd

lemma shown_of_stamp? (s : Option Stamp) :
    ∃ j, (Datum.ofTime? (s.bind Stamp.toDateTime?)).toJson? = some j := by
  refine shown_ofTime fun d hd => ?_
  obtain ⟨stamp, -, hstamp⟩ := Option.bind_eq_some_iff.mp hd
  exact Stamp.offset_toDateTime? hstamp

/-! ### Forms of records -/

lemma User.toJson?_eq {u : User} {creation : Json}
    (h : (Datum.ofTime? u.createdAt).toJson? = some creation) :
    u.toDatum.toJson? = some (Json.record [("user_id", .ofString u.userId),
      ("username", .ofString u.username), ("is_staff", .bool u.isStaff),
      ("created_at", creation)]) := by
  simp only [User.toDatum, Datum.toJson?, Datum.fieldsToJson?, h, Datum.ofString, Datum.ofText,
    Datum.ofBool, Option.bind_eq_bind, Option.bind_some, Option.pure_def, Option.map_some]
  rfl

lemma User.shown_eq {u : User} {creation : Json}
    (h : (Datum.ofTime? u.createdAt).toJson? = some creation) :
    u.toDatum.shown = Json.record [("user_id", .ofString u.userId),
      ("username", .ofString u.username), ("is_staff", .bool u.isStaff),
      ("created_at", creation)] := by
  rw [Datum.shown]
  exact congrArg (·.getD Json.null) (User.toJson?_eq h)

lemma Token.toJson?_eq {t : Token} {expiry creation : Json}
    (h : (Datum.ofTime? t.expiresAt).toJson? = some expiry)
    (h' : (Datum.ofTime? t.createdAt).toJson? = some creation) :
    t.toDatum.toJson? = some (Json.record [("token_id", .ofString t.tokenId),
      ("user_id", .ofString t.userId), ("token", .ofString t.secret), ("name", .ofString t.name),
      ("expires_at", expiry), ("created_at", creation)]) := by
  simp only [Token.toDatum, Datum.toJson?, Datum.fieldsToJson?, h, h', Datum.ofString, Datum.ofText,
    Option.bind_eq_bind, Option.bind_some, Option.pure_def, Option.map_some]
  rfl

lemma Token.shown_eq {t : Token} {expiry creation : Json}
    (h : (Datum.ofTime? t.expiresAt).toJson? = some expiry)
    (h' : (Datum.ofTime? t.createdAt).toJson? = some creation) :
    t.toDatum.shown = Json.record [("token_id", .ofString t.tokenId),
      ("user_id", .ofString t.userId), ("token", .ofString t.secret), ("name", .ofString t.name),
      ("expires_at", expiry), ("created_at", creation)] := by
  rw [Datum.shown]
  exact congrArg (·.getD Json.null) (Token.toJson?_eq h h')

/-! ### Reading back -/

lemma Json.at?_record (fields : List (String × Json)) (name : String) :
    (Json.record fields).at? name = (fields.reverse.find? fun f => f.1 = name).map (·.2) := by
  simp only [Json.record, Json.at?, Json.field?, ← List.map_reverse, List.find?_map, Option.map_map]
  simp only [Function.comp_def, Text.ofString_injective.eq_iff]

lemma UserRow.shown_toUser (row : UserRow) : ∃ j, row.toUser.toDatum.toJson? = some j ∧
    User.ofJson? j = some row.toUser.untimed := by
  obtain ⟨time, htime⟩ := shown_of_stamp row.createdAt
  refine ⟨_, User.toJson?_eq htime, ?_⟩
  simp [User.ofJson?, Json.at?_record, Json.ofString, Json.string?, Json.truth?, User.untimed,
    UserRow.toUser]

lemma TokenRow.shown_toToken (row : TokenRow) : ∃ j, row.toToken.toDatum.toJson? = some j ∧
    Token.ofJson? j = some row.toToken.untimed := by
  obtain ⟨expiry, hexpiry⟩ := shown_of_stamp? row.expiresAt
  obtain ⟨time, htime⟩ := shown_of_stamp row.createdAt
  refine ⟨_, Token.toJson?_eq hexpiry htime, ?_⟩
  simp [Token.ofJson?, Json.at?_record, Json.ofString, Json.string?, Token.untimed,
    TokenRow.toToken]

/-- Credentials that come from rows can be read back from what is shown of them. -/
lemma Credentials.ofJson_shown {c : Credentials} (hu : ∃ row : UserRow, c.user = row.toUser)
    (hk : ∃ row : TokenRow, c.token = row.toToken) :
    Credentials.ofJson? c.toDatum.shown = some ⟨c.user.untimed, c.token.untimed⟩ := by
  obtain ⟨userRow, hu⟩ := hu
  obtain ⟨tokenRow, hk⟩ := hk
  obtain ⟨user, huser, huser'⟩ := userRow.shown_toUser
  obtain ⟨token, htoken, htoken'⟩ := tokenRow.shown_toToken
  rw [← hu] at huser huser'
  rw [← hk] at htoken htoken'
  have hshown : c.toDatum.shown = Json.record [("user", user), ("token", token)] := by
    simp only [Datum.shown, Credentials.toDatum, Datum.toObject?, Datum.toJson?, Datum.fieldsToJson?,
      huser, htoken, Option.bind_eq_bind, Option.bind_some, Option.pure_def, Option.map_some]
    rfl
  rw [hshown]
  simp [Credentials.ofJson?, Json.at?_record, huser', htoken']

end BearerAccess
