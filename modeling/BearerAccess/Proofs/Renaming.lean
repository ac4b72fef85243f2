import BearerAccess.Event
import BearerAccess.Proofs.Bearer
import Mathlib.Logic.Embedding.Basic

/-!
# Renamings of secrets

A renaming puts other texts in the place of secrets, different ones for different secrets. It is about
the texts that are fit to be presented: not empty, in characters of one byte, without white space. What
is renamed in rows, worlds, calls and events is the secrets in them, and all else stays as it is. A
message is never renamed, but an exception that is logged with it may show a secret.
-/

namespace BearerAccess

/-- A text that is fit to be a secret: it is not empty, its characters take one byte each, and none of
them is white space. -/
def Text.Fit (t : Text) : Prop := t ≠ [] ∧ ∀ p ∈ t, p.val < 256 ∧ p.isBlank = false

instance (t : Text) : Decidable t.Fit :=
  have : Decidable (∀ p ∈ t, p.val < 256 ∧ p.isBlank = false) := List.decidableBAll _ t
  inferInstanceAs (Decidable (t ≠ [] ∧ ∀ p ∈ t, p.val < 256 ∧ p.isBlank = false))

/-- An injective map of the texts that are fit to be secrets. -/
abbrev Renaming := { t : Text // t.Fit } ↪ { t : Text // t.Fit }

namespace Text

variable {t : Text}

lemma Fit.isWord (h : t.Fit) : t.IsWord := ⟨h.1, fun p hp => (h.2 p hp).2⟩

lemma Fit.toString? (h : t.Fit) : t.toString?.isSome = true := by
  refine toString?_isSome fun p hp => ?_
  have hbyte := (h.2 p hp).1
  rw [CodePoint.isSurrogate, Bool.and_eq_false_iff, decide_eq_false_iff_not]
  exact .inl (by omega)

end Text

namespace Renaming

variable (r : Renaming)

/-- The text in the place of a text. What is not fit to be a secret stays. -/
def text (t : Text) : Text := if h : t.Fit then r ⟨t, h⟩ else t

/-- The string in the place of a string. -/
def string (s : String) : String := ((r.text (Text.ofString s)).toString?).getD s

/-- The header in the place of a header: it presents the secret in the place of the one presented, in
the same writing. -/
def header (h : Text) : Text :=
  match bearerSecret (some h) with
  | .ok secret =>
    let after := (h.reverse.takeWhile CodePoint.isBlank).reverse
    h.take (h.length - (secret.length + after.length)) ++ (r.text secret ++ after)
  | .error _ => h

/-! ### What is renamed -/

end Renaming

variable (r : Renaming)

def TokenRow.renamed (k : TokenRow) : TokenRow := { k with secret := r.string k.secret }

def Tables.renamed (t : Tables) : Tables := { t with tokens := t.tokens.map (·.renamed r) }

def Database.renamed (db : Database) : Database :=
  { db with tables := db.tables.map (·.renamed r) }

def Parameter.renamed : Parameter → Parameter
  | .secret t => .secret (t.map r.text)
  | parameter => parameter

/-- What a failure is raised from, with another secret among the texts of a refused statement. -/
def Origin.renamed : Origin → Origin
  | .refused statement parameters => .refused statement (parameters.map (·.renamed r))
  | origin => origin

def LoggedException.renamed (e : LoggedException) : LoggedException :=
  { e with origin := e.origin.map (·.renamed r) }

/-- A message of the log stays as it is; the exception that it is about may show another secret. -/
def LogEntry.renamed (e : LogEntry) : LogEntry :=
  { e with exception := e.exception.map (·.renamed r) }

/-- A world with other secrets among its rows and in the exceptions of its log, and other ones to
come. -/
def World.renamed (w : World) : World :=
  { w with
    log := w.log.map (·.renamed r)
    origin := w.origin.map (·.renamed r)
    database := w.database.renamed r
    spelling := fun bytes => r.string (w.spelling bytes) }

def Stage.renamed : Stage → Stage
  | .writing tables => .writing (tables.renamed r)
  | stage => stage

def Session.renamed (s : Session) : Session := { s with stage := s.stage.renamed r }

def Token.renamed (k : Token) : Token := { k with secret := r.string k.secret }

def Credentials.renamed (c : Credentials) : Credentials := { c with token := c.token.renamed r }

/-- An operation that is given another secret. -/
def Call.renamed : Call → Call
  | .insertToken id userId secret name expiresAt =>
    .insertToken id userId (secret.map r.text) name expiresAt
  | .userByToken secret now => .userByToken (secret.map r.text) now
  | .authenticate secret now => .authenticate (secret.map r.text) now
  | call => call

def BlockStep.renamed : BlockStep → BlockStep
  | .insertToken id userId secret name expiresAt =>
    .insertToken id userId (secret.map r.text) name expiresAt
  | .outside call => .outside (call.renamed r)
  | .nested call => .nested (call.renamed r)
  | step => step

def BlockScript.renamed (script : BlockScript) : BlockScript :=
  script.map fun (step, caught) => (step.renamed r, caught)

def RequestDraft.renamed (draft : RequestDraft) : RequestDraft :=
  { draft with authorization := draft.authorization.map r.header }

def Event.renamed : Event → Event
  | .call c => .call (c.renamed r)
  | .block script => .block (script.renamed r)
  | .request draft => .request (draft.renamed r)
  | event => event

/-- An answer in which other secrets are told. -/
def Answer.renamed : Answer → Answer
  | .token k => .token (k.renamed r)
  | .tokens list => .tokens (list.map (·.renamed r))
  | .credentials c => .credentials (c.renamed r)
  | answer => answer

/-- An object with another value in the fields of a name. -/
def Json.mapField (name : String) (f : Json → Json) : Json → Json
  | .object fields => .object (fields.map fun (key, value) =>
      (key, if key = Text.ofString name then f value else value))
  | json => json

def Json.mapString (f : Text → Text) : Json → Json
  | .string t => .string (f t)
  | json => json

/-- A response that shows another secret, if it is one that shows the credentials of a new user. -/
def Response.renamed (x : Response) : Response :=
  if x.status = 201 then
    { x with
      content := x.content.map (Json.mapField "token" (Json.mapField "token" (Json.mapString r.text))) }
  else x

def Reaction.renamed : Reaction → Reaction
  | .answer outcome => .answer (outcome.map (·.renamed r))
  | .block results outcome => .block (results.map (·.map (·.renamed r))) outcome
  | .response x => .response (x.renamed r)
  | reaction => reaction

/-! ### Texts and strings -/

namespace Renaming

variable {r} {t : Text} {s : String}

lemma text_of_fit (h : t.Fit) : r.text t = r ⟨t, h⟩ := dif_pos h

lemma text_of_not_fit (h : ¬t.Fit) : r.text t = t := dif_neg h

lemma fit_text_iff : (r.text t).Fit ↔ t.Fit := by
  by_cases h : t.Fit
  · rw [text_of_fit h]
    exact iff_of_true (r ⟨t, h⟩).2 h
  · rw [text_of_not_fit h]

lemma text_injective : Function.Injective r.text := by
  intro t u h
  by_cases ht : t.Fit
  · have hu : u.Fit := fit_text_iff.mp (h ▸ fit_text_iff.mpr ht)
    rw [text_of_fit ht, text_of_fit hu] at h
    exact congrArg Subtype.val (r.injective (Subtype.ext h))
  · have hu : ¬u.Fit := fun hu => ht (fit_text_iff.mp (h ▸ fit_text_iff.mpr hu))
    rwa [text_of_not_fit ht, text_of_not_fit hu] at h

lemma text_eq_nil_iff : r.text t = [] ↔ t = [] := by
  have hnil : ¬Text.Fit [] := fun h => h.1 rfl
  have hsame : r.text [] = [] := text_of_not_fit hnil
  refine ⟨fun h => text_injective (h.trans hsame.symm), ?_⟩
  rintro rfl
  exact hsame

lemma isWord_text (h : t.IsWord) : (r.text t).IsWord := by
  by_cases ht : t.Fit
  · exact (fit_text_iff.mpr ht).isWord
  · rwa [text_of_not_fit ht]

lemma ofString_string : Text.ofString (r.string s) = r.text (Text.ofString s) := by
  unfold string
  cases hs : (r.text (Text.ofString s)).toString? with
  | some u => exact Text.ofString_toString? hs
  | none =>
    have hfit : ¬(Text.ofString s).Fit := fun h => by
      have hsome := (fit_text_iff (r := r).mpr h).toString?
      rw [hs] at hsome
      cases hsome
    rw [text_of_not_fit hfit]
    rfl

lemma string_injective : Function.Injective r.string := by
  intro s u h
  have htext := congrArg Text.ofString h
  rw [ofString_string, ofString_string] at htext
  exact Text.ofString_injective (text_injective htext)

lemma toString?_text : (r.text t).toString? = t.toString?.map r.string := by
  cases ht : t.toString? with
  | some s =>
    obtain rfl := Text.ofString_toString? ht
    rw [← ofString_string, Text.toString?_ofString, Option.map_some]
  | none =>
    have hfit : ¬t.Fit := fun h => by
      have hsome := h.toString?
      rw [ht] at hsome
      cases hsome
    rw [text_of_not_fit hfit, ht, Option.map_none]

lemma stored?_text (t : Option Text) : stored? (t.map r.text) = (stored? t).map r.string := by
  cases t with
  | none => rfl
  | some t => exact toString?_text

/-- What keeps a text from being handed to the database keeps the text in its place from it. -/
lemma textObstacle?_text (t : Option Text) : textObstacle? (t.map r.text) = textObstacle? t := by
  cases t with
  | none => rfl
  | some t =>
    by_cases h : t.Fit
    · have hnone : ∀ u : Text, u.Fit → textObstacle? (some u) = none := by
        intro u hu
        rw [textObstacle?, surrogates?, Option.bind_some, if_pos hu.toString?, Option.map_none]
      rw [Option.map_some, hnone t h, hnone _ (fit_text_iff.mpr h)]
    · rw [Option.map_some, text_of_not_fit h]

/-! ### Headers -/

/-- The white space at the end of a text whose last word is known. -/
lemma blank_end {front word after : Text} (hword : word.IsWord) (hafter : after.isBlank = true) :
    ((front ++ (word ++ after)).reverse.takeWhile CodePoint.isBlank).reverse = after := by
  have hblank : ∀ p ∈ after.reverse, p.isBlank = true := fun p hp =>
    List.all_eq_true.mp hafter p (List.mem_reverse.mp hp)
  obtain ⟨p, rest, hlast⟩ := List.exists_cons_of_ne_nil (mt List.reverse_eq_nil_iff.mp hword.1)
  have hp : p.isBlank = false :=
    hword.2 p (List.mem_reverse.mp (hlast ▸ List.mem_cons_self))
  rw [List.reverse_append, List.reverse_append, List.append_assoc,
    List.takeWhile_append_of_pos hblank, hlast, List.cons_append, List.takeWhile_cons, hp]
  simp

lemma header_of_presents {h secret : Text} (hpresents : Presents h secret) :
    ∃ front after : Text, h = front ++ (secret ++ after) ∧
      r.header h = front ++ (r.text secret ++ after) ∧ Presents (r.header h) (r.text secret) := by
  have hsecret := bearerSecret_iff.mpr hpresents
  obtain ⟨before, scheme, between, after, rfl, hscheme, hword, hbefore, hbetween, hafter⟩ := hpresents
  have hsplit : before ++ (scheme ++ (between ++ (secret ++ after))) =
      (before ++ (scheme ++ between)) ++ (secret ++ after) := by simp
  have hheader : r.header (before ++ (scheme ++ (between ++ (secret ++ after)))) =
      (before ++ (scheme ++ between)) ++ (r.text secret ++ after) := by
    unfold header
    rw [hsecret, hsplit]
    dsimp only
    rw [blank_end hword hafter, ← List.length_append,
      show ∀ front rest : Text, (front ++ rest).length - rest.length = front.length by simp,
      List.take_left]
  refine ⟨before ++ (scheme ++ between), after, hsplit, hheader, ?_⟩
  rw [hheader]
  exact ⟨before, scheme, between, after, by simp, hscheme, isWord_text hword, hbefore, hbetween, hafter⟩

/-- The secret that is presented in a header is the one in the place of the secret presented before. -/
lemma bearerSecret_header (h : Option Text) :
    bearerSecret (h.map r.header) = (bearerSecret h).map r.text := by
  cases h with
  | none => rfl
  | some h =>
    cases hsecret : bearerSecret (some h) with
    | ok secret =>
      obtain ⟨-, -, -, -, hpresents⟩ := header_of_presents (r := r) (bearerSecret_iff.mp hsecret)
      exact bearerSecret_iff.mpr hpresents
    | error problem =>
      have hsame : r.header h = h := by
        unfold header
        rw [hsecret]
      rw [Option.map_some, hsame, hsecret]
      rfl

/-! ### The renaming that changes nothing -/

/-- Every secret keeps its place. -/
def unchanged : Renaming := .refl _

lemma text_unchanged (t : Text) : unchanged.text t = t := by
  by_cases h : t.Fit
  · rw [text_of_fit h]
    rfl
  · rw [text_of_not_fit h]

lemma string_unchanged (s : String) : unchanged.string s = s :=
  Text.ofString_injective (by rw [ofString_string, text_unchanged])

lemma header_unchanged (h : Text) : unchanged.header h = h := by
  cases hsecret : bearerSecret (some h) with
  | ok secret =>
    obtain ⟨front, after, hsplit, hheader, -⟩ :=
      header_of_presents (r := unchanged) (bearerSecret_iff.mp hsecret)
    rw [hheader, text_unchanged, ← hsplit]
  | error problem => rw [header, hsecret]

end Renaming

lemma TokenRow.renamed_unchanged (k : TokenRow) : k.renamed .unchanged = k := by
  rw [renamed, Renaming.string_unchanged]

lemma Tables.renamed_unchanged (t : Tables) : t.renamed .unchanged = t := by
  rw [renamed, List.map_congr_left fun k _ => k.renamed_unchanged, List.map_id']

lemma Parameter.renamed_unchanged (x : Parameter) : x.renamed .unchanged = x := by
  cases x with
  | secret t => rw [renamed, Option.map_congr fun t _ => Renaming.text_unchanged t, Option.map_id']
  | other t => rfl

lemma Origin.renamed_unchanged (o : Origin) : o.renamed .unchanged = o := by
  cases o with
  | refused statement parameters =>
    rw [renamed, List.map_congr_left fun x _ => x.renamed_unchanged, List.map_id']
  | _ => rfl

lemma LogEntry.renamed_unchanged (e : LogEntry) : e.renamed .unchanged = e := by
  have hexception (x : LoggedException) : x.renamed .unchanged = x := by
    rw [LoggedException.renamed, Option.map_congr fun o _ => o.renamed_unchanged, Option.map_id']
  rw [renamed, Option.map_congr fun x _ => hexception x, Option.map_id']

lemma World.renamed_unchanged (w : World) : w.renamed .unchanged = w := by
  have htables : w.database.tables.map (·.renamed .unchanged) = w.database.tables := by
    rw [Option.map_congr fun t _ => t.renamed_unchanged, Option.map_id']
  have horigin : w.origin.map (·.renamed .unchanged) = w.origin := by
    rw [Option.map_congr fun o _ => o.renamed_unchanged, Option.map_id']
  have hlog : w.log.map (·.renamed .unchanged) = w.log := by
    rw [List.map_congr_left fun e _ => e.renamed_unchanged, List.map_id']
  rw [renamed, Database.renamed, htables, horigin, hlog, funext fun bytes => Renaming.string_unchanged _]

lemma Credentials.renamed_unchanged (c : Credentials) : c.renamed .unchanged = c := by
  rw [renamed, Token.renamed, Renaming.string_unchanged]

end BearerAccess
