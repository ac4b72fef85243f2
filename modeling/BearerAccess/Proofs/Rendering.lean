import BearerAccess.Account
import BearerAccess.Proofs.Stamp
import BearerAccess.Proofs.Text

/-!
# What the JSON form of a record tells

The JSON form of a record leaves out nothing but the offsets of its times. Two records of one kind have
the same form just if they agree in all fields, where times count by the instant that they mean. A
time's ISO form shows each part of the universal time at a fixed place, and a fraction only if there is
one, so that forms with the same places are in the order of their instants.
-/

namespace BearerAccess

/-! ### ISO forms -/

namespace DateTime

variable {a b d u v : DateTime}

lemma toList_isoText (d : DateTime) : d.isoText.toList =
    decimalPadded 4 d.year ++ '-' :: (decimalPadded 2 d.month ++ '-' :: (decimalPadded 2 d.day ++
      'T' :: (decimalPadded 2 d.hour ++ ':' :: (decimalPadded 2 d.minute ++
        ':' :: (decimalPadded 2 d.second ++
          ((if d.microsecond = 0 then [] else '.' :: decimalPadded 6 d.microsecond) ++
            ['+', '0', '0', ':', '0', '0'])))))) := by
  rw [isoText, String.toList_ofList, dateText, timeText]
  simp only [List.append_assoc, List.cons_append]

lemma length_isoText (d : DateTime) :
    d.isoText.toList.length = if d.microsecond = 0 then 25 else 32 := by
  rw [toList_isoText]
  split <;> simp [decimal_positional.length]

/-- The fractions that are written are in order if both times have one or neither has. -/
lemma fraction_lt_iff (ha : a.Valid) (hb : b.Valid) (h : a.microsecond = 0 ↔ b.microsecond = 0)
    {tail : List Char} :
    (if a.microsecond = 0 then [] else '.' :: decimalPadded 6 a.microsecond) ++ tail <
      (if b.microsecond = 0 then [] else '.' :: decimalPadded 6 b.microsecond) ++ tail ↔
      a.microsecond < b.microsecond := by
  by_cases hzero : a.microsecond = 0
  · have hzero' := h.mp hzero
    rw [if_pos hzero, if_pos hzero', hzero, hzero']
    simp
  · rw [if_neg hzero, if_neg (fun hb0 => hzero (h.mpr hb0)), List.cons_append, List.cons_append,
      mark_lt_iff, decimal_positional.append_lt_iff (parts_lt ha).2.2.2.2.2.2
        (parts_lt hb).2.2.2.2.2.2]
    simp

lemma isoText_lt_iff (ha : a.Valid) (hb : b.Valid) (h : a.microsecond = 0 ↔ b.microsecond = 0) :
    a.isoText < b.isoText ↔ a.wallClock < b.wallClock := by
  rw [wallClock_lt_iff ha hb, timeOfDay_lt_iff ha hb, String.lt_iff_toList_lt, toList_isoText,
    toList_isoText]
  obtain ⟨hy, hmo, hd, hh, hm, hs, -⟩ := parts_lt ha
  obtain ⟨hy', hmo', hd', hh', hm', hs', -⟩ := parts_lt hb
  have hdecimal := @decimal_positional.append_lt_iff
  rw [hdecimal hy hy', mark_lt_iff, hdecimal hmo hmo', mark_lt_iff, hdecimal hd hd', mark_lt_iff,
    hdecimal hh hh', mark_lt_iff, hdecimal hm hm', mark_lt_iff, hdecimal hs hs',
    fraction_lt_iff ha hb h]
  simp only [Date.Before, date, Date.mk.injEq, and_or_left, and_assoc, or_assoc]

/-- Universal times have the same ISO form just if they are of one instant. -/
lemma Universal.isoText_eq_iff (hu : u.Universal) (hv : v.Universal) :
    u.isoText = v.isoText ↔ u.instant = v.instant := by
  refine ⟨fun h => ?_, fun h => by rw [hu.eq_of_instant hv h]⟩
  have hlength : u.isoText.toList.length = v.isoText.toList.length := by rw [h]
  have hfraction : u.microsecond = 0 ↔ v.microsecond = 0 := by
    rw [length_isoText, length_isoText] at hlength
    split at hlength <;> split at hlength <;> omega
  have hlt : ¬u.wallClock < v.wallClock := fun hlt =>
    ((isoText_lt_iff hu.valid hv.valid hfraction).mpr hlt).ne h
  have hgt : ¬v.wallClock < u.wallClock := fun hgt =>
    ((isoText_lt_iff hv.valid hu.valid hfraction.symm).mpr hgt).ne h.symm
  rw [hu.instant_eq, hv.instant_eq]
  omega

/-- A universal time has a fraction just if its instant is no whole second. -/
lemma Universal.microsecond_eq (hu : u.Universal) : (u.microsecond : Int) = u.instant % 1000000 := by
  obtain ⟨-, -, -, -, hf, -⟩ := hu.valid
  rw [hu.instant_eq, wallClock, timeOfDay, dayLength]
  omega

/-- A time of the calendar that lies in the years that universal time is written for. -/
structure Convertible (d : DateTime) : Prop where
  valid : d.Valid
  converted : d.toUniversal?.isSome

lemma Convertible.universal (h : d.Convertible) :
    ∃ u, d.toUniversal? = some u ∧ u.Universal ∧ u.instant = d.instant := by
  obtain ⟨u, hu⟩ := Option.isSome_iff_exists.mp h.converted
  obtain ⟨huniversal, hinstant⟩ := toUniversal?_spec h.valid hu
  exact ⟨u, hu, huniversal, hinstant⟩

end DateTime

/-! ### Kinds of records -/

/-- What stands in a field of a record: a text, a truth value, a time or none, or another record. -/
inductive Kind where
  | text
  | truth
  | time
  | record (fields : List (String × Kind))

mutual

/-- A datum is of a kind. Its times can be converted. -/
def Kind.Holds : Kind → Datum → Prop
  | .text, x => ∃ t, x = .ofText t
  | .truth, x => ∃ b, x = .ofBool b
  | .time, x => ∃ t : Option DateTime, (∀ d ∈ t, d.Convertible) ∧ x = .ofTime? t
  | .record kinds, x => ∃ fields, x = .record fields ∧ Kind.HoldsAll kinds fields

def Kind.HoldsAll : List (String × Kind) → List (String × Datum) → Prop
  | [], fields => fields = []
  | (name, kind) :: kinds, fields =>
    ∃ x more, fields = (name, x) :: more ∧ Kind.Holds kind x ∧ Kind.HoldsAll kinds more

end

mutual

/-- Two data agree, field by field. Times count by the instant that they mean. -/
def Datum.Same : Datum → Datum → Prop
  | .plain a, .plain b => a = b
  | .time a, .time b => a.instant = b.instant
  | .record fields, .record others => Datum.SameFields fields others
  | _, _ => False

def Datum.SameFields : List (String × Datum) → List (String × Datum) → Prop
  | [], [] => True
  | (name, x) :: fields, (other, y) :: others =>
    name = other ∧ Datum.Same x y ∧ Datum.SameFields fields others
  | _, _ => False

end

/-- Both data have a JSON form, and the forms are the same just if something holds. -/
def Datum.AlikeIff (x y : Datum) (p : Prop) : Prop :=
  ∃ i j, x.toJson? = some i ∧ y.toJson? = some j ∧ (i = j ↔ p)

namespace Kind

/-- The form of a time is its ISO form, and that of none is null. -/
lemma time_form {t : Option DateTime} (ht : ∀ d ∈ t, d.Convertible) :
    t = none ∧ (Datum.ofTime? t).toJson? = some .null ∨
      ∃ d u : DateTime, t = some d ∧ u.Universal ∧ u.instant = d.instant ∧
        (Datum.ofTime? t).toJson? = some (Json.ofString u.isoText) := by
  cases t with
  | none => exact .inl ⟨rfl, by rw [Datum.ofTime?, Datum.toJson?]⟩
  | some d =>
    obtain ⟨u, hu, huniversal, hinstant⟩ := (ht d rfl).universal
    refine .inr ⟨d, u, rfl, huniversal, hinstant, ?_⟩
    rw [Datum.ofTime?, Datum.toJson?, hu, Option.map_some]

lemma same_ofTime? (a b : Option DateTime) : (Datum.ofTime? a).Same (.ofTime? b) ↔
    a.map DateTime.instant = b.map DateTime.instant := by
  cases a <;> cases b <;> simp [Datum.ofTime?, Datum.Same]

lemma time_alikeIff {a b : Option DateTime} (ha : ∀ d ∈ a, d.Convertible)
    (hb : ∀ d ∈ b, d.Convertible) :
    (Datum.ofTime? a).AlikeIff (.ofTime? b) ((Datum.ofTime? a).Same (.ofTime? b)) := by
  rw [same_ofTime?]
  obtain ⟨rfl, hi⟩ | ⟨d, u, rfl, hu, hd, hi⟩ := time_form ha <;>
    obtain ⟨rfl, hj⟩ | ⟨e, v, rfl, hv, he, hj⟩ := time_form hb <;>
    refine ⟨_, _, hi, hj, ?_⟩
  · simp
  · simp [Json.ofString]
  · simp [Json.ofString]
  · rw [Json.ofString, Json.ofString, Json.string.injEq, Text.ofString_injective.eq_iff,
      hu.isoText_eq_iff hv, hd, he]
    simp

mutual

/-- Two data of one kind have the same form just if they agree. -/
lemma holds_alikeIff : ∀ (kind : Kind) {x y : Datum}, kind.Holds x → kind.Holds y →
    x.AlikeIff y (x.Same y)
  | .text, _, _, ⟨s, rfl⟩, ⟨t, rfl⟩ =>
    ⟨.string s, .string t, by rw [Datum.ofText, Datum.toJson?], by rw [Datum.ofText, Datum.toJson?],
      by rw [Datum.ofText, Datum.ofText, Datum.Same]⟩
  | .truth, _, _, ⟨a, rfl⟩, ⟨b, rfl⟩ =>
    ⟨.bool a, .bool b, by rw [Datum.ofBool, Datum.toJson?], by rw [Datum.ofBool, Datum.toJson?],
      by rw [Datum.ofBool, Datum.ofBool, Datum.Same]⟩
  | .time, _, _, ⟨a, ha, rfl⟩, ⟨b, hb, rfl⟩ => time_alikeIff ha hb
  | .record kinds, _, _, ⟨fields, rfl, hfields⟩, ⟨others, rfl, hothers⟩ => by
    obtain ⟨i, j, hi, hj, hiff⟩ := holdsAll_alikeIff kinds hfields hothers
    refine ⟨.object i, .object j, ?_, ?_, ?_⟩
    · rw [Datum.toJson?, hi, Option.map_some]
    · rw [Datum.toJson?, hj, Option.map_some]
    · rw [Json.object.injEq, hiff, Datum.Same]

lemma holdsAll_alikeIff : ∀ (kinds : List (String × Kind)) {fields others : List (String × Datum)},
    Kind.HoldsAll kinds fields → Kind.HoldsAll kinds others →
    ∃ i j, Datum.fieldsToJson? fields = some i ∧ Datum.fieldsToJson? others = some j ∧
      (i = j ↔ Datum.SameFields fields others)
  | [], _, _, hfields, hothers => by
    rw [Kind.HoldsAll] at hfields hothers
    subst hfields hothers
    refine ⟨[], [], by rw [Datum.fieldsToJson?], by rw [Datum.fieldsToJson?], ?_⟩
    simp [Datum.SameFields]
  | (name, kind) :: kinds, _, _, hfields, hothers => by
    rw [Kind.HoldsAll] at hfields hothers
    obtain ⟨x, fields, rfl, hx, hfields⟩ := hfields
    obtain ⟨y, others, rfl, hy, hothers⟩ := hothers
    obtain ⟨i, j, hi, hj, hfirst⟩ := holds_alikeIff kind hx hy
    obtain ⟨is, js, his, hjs, hrest⟩ := holdsAll_alikeIff kinds hfields hothers
    refine ⟨(Text.ofString name, i) :: is, (Text.ofString name, j) :: js, ?_, ?_, ?_⟩
    · rw [Datum.fieldsToJson?, hi, his]
      rfl
    · rw [Datum.fieldsToJson?, hj, hjs]
      rfl
    · rw [Datum.SameFields, List.cons.injEq, Prod.mk.injEq, hfirst, hrest,
        Text.ofString_injective.eq_iff, and_assoc]

end

end Kind

/-! ### Users, tokens, identities and credentials -/

def User.kind : Kind :=
  .record [("user_id", .text), ("username", .text), ("is_staff", .truth), ("created_at", .time)]

def Token.kind : Kind :=
  .record [("token_id", .text), ("user_id", .text), ("token", .text), ("name", .text),
    ("expires_at", .time), ("created_at", .time)]

def Identity.kind : Kind := .record [("user_id", .text), ("username", .text), ("is_staff", .truth)]

def Credentials.kind : Kind := .record [("user", User.kind), ("token", Token.kind)]

/-- The time of a user, if there is one, can be converted. -/
def User.Dated (u : User) : Prop := ∀ d ∈ u.createdAt, d.Convertible

def Token.Dated (k : Token) : Prop :=
  (∀ d ∈ k.expiresAt, d.Convertible) ∧ ∀ d ∈ k.createdAt, d.Convertible

/-- Two users agree in all fields, the times by their instants. -/
def User.Same (u v : User) : Prop :=
  u.userId = v.userId ∧ u.username = v.username ∧ u.isStaff = v.isStaff ∧
    u.createdAt.map DateTime.instant = v.createdAt.map DateTime.instant

def Token.Same (k l : Token) : Prop :=
  k.tokenId = l.tokenId ∧ k.userId = l.userId ∧ k.secret = l.secret ∧ k.name = l.name ∧
    k.expiresAt.map DateTime.instant = l.expiresAt.map DateTime.instant ∧
    k.createdAt.map DateTime.instant = l.createdAt.map DateTime.instant

section

variable {u v : User} {k l : Token}

lemma User.kind_holds (hu : u.Dated) : User.kind.Holds u.toDatum := by
  simp only [User.kind, User.toDatum, Kind.Holds, Kind.HoldsAll]
  exact ⟨_, rfl, _, _, rfl, ⟨_, rfl⟩, _, _, rfl, ⟨_, rfl⟩, _, _, rfl, ⟨_, rfl⟩, _, _, rfl, ⟨_, hu, rfl⟩, rfl⟩

lemma Token.kind_holds (hk : k.Dated) : Token.kind.Holds k.toDatum := by
  simp only [Token.kind, Token.toDatum, Kind.Holds, Kind.HoldsAll]
  exact ⟨_, rfl, _, _, rfl, ⟨_, rfl⟩, _, _, rfl, ⟨_, rfl⟩, _, _, rfl, ⟨_, rfl⟩, _, _, rfl, ⟨_, rfl⟩,
    _, _, rfl, ⟨_, hk.1, rfl⟩, _, _, rfl, ⟨_, hk.2, rfl⟩, rfl⟩

lemma Identity.kind_holds (i : Identity) : Identity.kind.Holds i.toDatum := by
  simp only [Identity.kind, Identity.toDatum, Kind.Holds, Kind.HoldsAll]
  exact ⟨_, rfl, _, _, rfl, ⟨_, rfl⟩, _, _, rfl, ⟨_, rfl⟩, _, _, rfl, ⟨_, rfl⟩, rfl⟩

lemma Credentials.kind_holds {c : Credentials} (hu : c.user.Dated) (hk : c.token.Dated) :
    Credentials.kind.Holds c.toDatum := by
  simp only [Credentials.kind, Credentials.toDatum, Kind.Holds, Kind.HoldsAll]
  exact ⟨_, rfl, _, _, rfl, User.kind_holds hu, _, _, rfl, Token.kind_holds hk, rfl⟩

lemma ofString_same (s t : String) : (Datum.ofString s).Same (.ofString t) ↔ s = t := by
  rw [Datum.ofString, Datum.ofString, Datum.ofText, Datum.ofText, Datum.Same, Json.string.injEq,
    Text.ofString_injective.eq_iff]

lemma ofText_same (s t : Text) : (Datum.ofText s).Same (.ofText t) ↔ s = t := by
  rw [Datum.ofText, Datum.ofText, Datum.Same, Json.string.injEq]

lemma ofBool_same (a b : Bool) : (Datum.ofBool a).Same (.ofBool b) ↔ a = b := by
  rw [Datum.ofBool, Datum.ofBool, Datum.Same, Json.bool.injEq]

lemma User.same_toDatum : u.toDatum.Same v.toDatum ↔ u.Same v := by
  simp [User.toDatum, User.Same, Datum.Same, Datum.SameFields, ofString_same, ofBool_same,
    Kind.same_ofTime?]

lemma Token.same_toDatum : k.toDatum.Same l.toDatum ↔ k.Same l := by
  simp [Token.toDatum, Token.Same, Datum.Same, Datum.SameFields, ofString_same, Kind.same_ofTime?]

lemma Identity.same_toDatum {i j : Identity} : i.toDatum.Same j.toDatum ↔ i = j := by
  cases i
  cases j
  simp [Identity.toDatum, Datum.Same, Datum.SameFields, ofText_same, ofBool_same]

lemma Credentials.same_toDatum {c d : Credentials} :
    c.toDatum.Same d.toDatum ↔ c.user.Same d.user ∧ c.token.Same d.token := by
  simp [Credentials.toDatum, Datum.Same, Datum.SameFields, User.same_toDatum, Token.same_toDatum]

end

/-- Both data have a JSON object, and the objects are the same just if something holds. -/
def Datum.ObjectsAlikeIff (x y : Datum) (p : Prop) : Prop :=
  ∃ i j, x.toObject? = some i ∧ y.toObject? = some j ∧ (i = j ↔ p)

lemma Kind.objects_alikeIff {kinds : List (String × Kind)} {x y : Datum} {p : Prop}
    (hx : (Kind.record kinds).Holds x) (hy : (Kind.record kinds).Holds y) (hp : x.Same y ↔ p) :
    x.ObjectsAlikeIff y p := by
  obtain ⟨i, j, hi, hj, hiff⟩ := Kind.holds_alikeIff _ hx hy
  rw [Kind.Holds] at hx hy
  obtain ⟨fields, rfl, -⟩ := hx
  obtain ⟨others, rfl, -⟩ := hy
  exact ⟨i, j, hi, hj, hiff.trans hp⟩

/-- The JSON form of a record leaves out nothing but the offsets of its times. Two records of one kind,
whatever it is, have the same form just if they agree, and so have two users, two tokens, two identities
and two credentials. The forms of two times that both have a fraction of a second, or both have none, are
in the order of their instants. -/
theorem Datum.toObject?_faithful :
    (∀ kinds x y, (Kind.record kinds).Holds x → (Kind.record kinds).Holds y →
      x.ObjectsAlikeIff y (x.Same y)) ∧
      (∀ u v : User, u.Dated → v.Dated → u.toDatum.ObjectsAlikeIff v.toDatum (u.Same v)) ∧
      (∀ k l : Token, k.Dated → l.Dated → k.toDatum.ObjectsAlikeIff l.toDatum (k.Same l)) ∧
      (∀ i j : Identity, i.toDatum.ObjectsAlikeIff j.toDatum (i = j)) ∧
      (∀ c d : Credentials, c.user.Dated → c.token.Dated → d.user.Dated → d.token.Dated →
        c.toDatum.ObjectsAlikeIff d.toDatum (c.user.Same d.user ∧ c.token.Same d.token)) ∧
      ∀ (a b : DateTime) (s t : String), a.Valid → b.Valid →
        (Datum.time a).toJson? = some (.ofString s) → (Datum.time b).toJson? = some (.ofString t) →
        (a.instant % 1000000 = 0 ↔ b.instant % 1000000 = 0) → (s < t ↔ a.instant < b.instant) := by
  refine ⟨fun kinds x y hx hy => Kind.objects_alikeIff hx hy Iff.rfl,
    fun u v hu hv => Kind.objects_alikeIff (User.kind_holds hu) (User.kind_holds hv)
      User.same_toDatum,
    fun k l hk hl => Kind.objects_alikeIff (Token.kind_holds hk) (Token.kind_holds hl)
      Token.same_toDatum,
    fun i j => Kind.objects_alikeIff (Identity.kind_holds i) (Identity.kind_holds j)
      Identity.same_toDatum,
    fun c d hcu hck hdu hdk => Kind.objects_alikeIff (Credentials.kind_holds hcu hck)
      (Credentials.kind_holds hdu hdk) Credentials.same_toDatum,
    fun a b s t ha hb hs ht hfraction => ?_⟩
  have hform : ∀ {d : DateTime} {s : String}, (Datum.time d).toJson? = some (.ofString s) →
      ∃ u, d.toUniversal? = some u ∧ u.isoText = s := by
    intro d s h
    rw [Datum.toJson?, Option.map_eq_some_iff] at h
    obtain ⟨u, hu, h⟩ := h
    rw [Json.ofString, Json.ofString, Json.string.injEq, Text.ofString_injective.eq_iff] at h
    exact ⟨u, hu, h⟩
  obtain ⟨u, hu, rfl⟩ := hform hs
  obtain ⟨v, hv, rfl⟩ := hform ht
  obtain ⟨hu, hau⟩ := DateTime.toUniversal?_spec ha hu
  obtain ⟨hv, hbv⟩ := DateTime.toUniversal?_spec hb hv
  rw [← hau, ← hbv] at hfraction ⊢
  rw [← hu.microsecond_eq, ← hv.microsecond_eq] at hfraction
  rw [DateTime.isoText_lt_iff hu.valid hv.valid (by omega), hu.instant_eq, hv.instant_eq]
  omega

/-- A user whose time carries no offset has the form of one whose clock is an hour ahead of it. -/
theorem Datum.toObject?_faithful_ahead :
    let u : User := ⟨"u", "ann", true, some ⟨2020, 9, 13, 12, 26, 40, 0, none⟩⟩
    let v : User := ⟨"u", "ann", true, some ⟨2020, 9, 13, 13, 26, 40, 0, some 3600000000⟩⟩
    u ≠ v ∧ u.Dated ∧ v.Dated ∧ ∃ i, u.toDatum.toObject? = some i ∧ v.toDatum.toObject? = some i := by
  intro u v
  have hu : u.Dated := by
    rintro d ⟨⟩
    exact ⟨by decide, by decide⟩
  have hv : v.Dated := by
    rintro d ⟨⟩
    exact ⟨by decide, by decide⟩
  obtain ⟨i, j, hi, hj, hiff⟩ := Datum.toObject?_faithful.2.1 u v hu hv
  obtain rfl : i = j := hiff.mpr ⟨rfl, rfl, rfl, by decide⟩
  exact ⟨by decide, hu, hv, i, hi, hj⟩

end BearerAccess
