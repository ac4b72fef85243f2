import BearerAccess.Json.Basic
import BearerAccess.Number.Numeral
import BearerAccess.Text.Encoding
import BearerAccess.Text.Hex

/-!
# Reading JSON

A reader for JSON documents. Besides the standard it knows the numbers `NaN`, `Infinity` and
`-Infinity`. It refuses control characters inside strings and integers of more than 4300 digits.
Surrogates may stand alone in strings; two escapes that form a pair are joined. Arrays and objects
may be nested up to a given depth; a document that goes deeper is given up where it does.
-/

namespace BearerAccess

/-- Why a text is no document. -/
inductive DocumentProblem where
  | malformed
  | tooDeep
  deriving DecidableEq, Repr

namespace Json.Reader

abbrev Chars := List CodePoint

def is (p : CodePoint) (c : Char) : Bool := p.val == c.toNat

def isSpace (p : CodePoint) : Bool := is p ' ' || is p '\t' || is p '\n' || is p '\r'

def skipSpace (cs : Chars) : Chars := cs.dropWhile isSpace

def isDigit (p : CodePoint) : Bool := 0x30 ≤ p.val && p.val ≤ 0x39

def hexDigit? (p : CodePoint) : Option Nat := p.toChar? >>= hexValue?

def takeWord? (word : String) (cs : Chars) : Option Chars :=
  let w := Text.ofString word
  if w.isPrefixOf cs then some (cs.drop w.length) else none

def readUnit? : Chars → Option (Nat × Chars)
  | a :: b :: c :: d :: rest => do
    let high := (← hexDigit? a) * 16 + (← hexDigit? b)
    let low := (← hexDigit? c) * 16 + (← hexDigit? d)
    return (high * 256 + low, rest)
  | _ => none

def shortEscape? (p : CodePoint) : Option CodePoint :=
  if is p '"' || is p '\\' || is p '/' then some p
  else if is p 'b' then some 0x08
  else if is p 'f' then some 0x0C
  else if is p 'n' then some 0x0A
  else if is p 'r' then some 0x0D
  else if is p 't' then some 0x09
  else none

/-- Reads the rest of a string, after its opening quotation mark. The number bounds the code points
to be read. -/
def stringFrom? : Nat → Chars → Option (Text × Chars)
  | 0, _ => none
  | _ + 1, [] => none
  | fuel + 1, p :: rest =>
    if is p '"' then some ([], rest)
    else if p.val < 0x20 then none
    else if is p '\\' then
      match rest with
      | [] => none
      | e :: rest =>
        if is e 'u' then do
          let (u, rest) ← readUnit? rest
          let low? := do
            let (v, rest) ← takeWord? "\\u" rest >>= readUnit?
            if 0xDC00 ≤ v ∧ v < 0xE000 then some (v, rest) else none
          let (n, rest) := match decide (0xD800 ≤ u ∧ u < 0xDC00), low? with
            | true, some (v, rest) => (0x10000 + (u - 0xD800) * 0x400 + (v - 0xDC00), rest)
            | _, _ => (u, rest)
          let p ← CodePoint.ofNat? n
          let (t, rest) ← stringFrom? fuel rest
          return (p :: t, rest)
        else do
          let p ← shortEscape? e
          let (t, rest) ← stringFrom? fuel rest
          return (p :: t, rest)
    else do
      let (t, rest) ← stringFrom? fuel rest
      return (p :: t, rest)

def asciiText (cs : Chars) : String := String.ofList (cs.map fun p => Char.ofNat p.val)

/-- Splits off a fraction: a point with digits after it. -/
def takeFraction (cs : Chars) : Chars × Chars :=
  match cs with
  | p :: rest =>
    let ds := rest.takeWhile isDigit
    if is p '.' && !ds.isEmpty then (p :: ds, rest.drop ds.length) else ([], cs)
  | [] => ([], [])

/-- Splits off an exponent: its letter, a sign or none, and digits. -/
def takeExponent (cs : Chars) : Chars × Chars :=
  match cs with
  | p :: rest =>
    let sign := match rest with
      | s :: _ => if is s '+' || is s '-' then [s] else []
      | [] => []
    let ds := (rest.drop sign.length).takeWhile isDigit
    if (is p 'e' || is p 'E') && !ds.isEmpty then
      (p :: sign ++ ds, rest.drop (sign.length + ds.length))
    else ([], cs)
  | [] => ([], [])

def number? (cs : Chars) : Option (Json × Chars) :=
  let sign := match cs with
    | p :: _ => if is p '-' then [p] else []
    | [] => []
  let rest := cs.drop sign.length
  let digits := rest.takeWhile isDigit
  let whole := match digits with
    | p :: _ => if is p '0' then [p] else digits
    | [] => []
  if whole.isEmpty then none
  else
    let rest := rest.drop whole.length
    let (fraction, rest) := takeFraction rest
    let (exponent, rest) := takeExponent rest
    if fraction.isEmpty && exponent.isEmpty && maxIntegerDigits < whole.length then none
    else some (.number (asciiText (sign ++ whole ++ fraction ++ exponent)), rest)

def word? (cs : Chars) : Option (Json × Chars) :=
  let attempt (word : String) (value : Json) := (takeWord? word cs).map (value, ·)
  attempt "null" .null <|> attempt "true" (.bool true) <|> attempt "false" (.bool false)
    <|> attempt "NaN" (.number "NaN") <|> attempt "Infinity" (.number "Infinity")
    <|> attempt "-Infinity" (.number "-Infinity")

abbrev Reading := Except DocumentProblem

def plainly : Option α → Reading α
  | some result => .ok result
  | none => .error .malformed

mutual

/-- Reads a value, at the beginning of the text. The first number bounds the calls, the second is
the depth that is left. -/
def value : Nat → Nat → Chars → Reading (Json × Chars)
  | 0, _, _ => .error .malformed
  | _ + 1, _, [] => .error .malformed
  | fuel + 1, depth, p :: rest =>
    if is p '"' then plainly ((stringFrom? (rest.length + 1) rest).map fun r => (.string r.1, r.2))
    else if is p '[' then
      match depth, skipSpace rest with
      | 0, _ => .error .tooDeep
      | _, [] => .error .malformed
      | depth + 1, q :: more =>
        if is q ']' then .ok (.array [], more)
        else (items fuel depth (q :: more)).map fun r => (.array r.1, r.2)
    else if is p '\x7b' then
      match depth, skipSpace rest with
      | 0, _ => .error .tooDeep
      | _, [] => .error .malformed
      | depth + 1, q :: more =>
        if is q '\x7d' then .ok (.object [], more)
        else (fields fuel depth (q :: more)).map fun r => (.object r.1, r.2)
    else plainly (word? (p :: rest) <|> number? (p :: rest))

def items : Nat → Nat → Chars → Reading (List Json × Chars)
  | 0, _, _ => .error .malformed
  | fuel + 1, depth, cs => do
    let (item, rest) ← value fuel depth cs
    match skipSpace rest with
    | [] => .error .malformed
    | p :: rest =>
      if is p ']' then return ([item], rest)
      else if is p ',' then
        let (list, rest) ← items fuel depth (skipSpace rest)
        return (item :: list, rest)
      else .error .malformed

def fields : Nat → Nat → Chars → Reading (List (Text × Json) × Chars)
  | 0, _, _ => .error .malformed
  | _ + 1, _, [] => .error .malformed
  | fuel + 1, depth, p :: rest =>
    if is p '"' then do
      let (name, rest) ← plainly (stringFrom? (rest.length + 1) rest)
      match skipSpace rest with
      | [] => .error .malformed
      | q :: rest =>
        if is q ':' then
          let (content, rest) ← value fuel depth (skipSpace rest)
          match skipSpace rest with
          | [] => .error .malformed
          | r :: rest =>
            if is r '\x7d' then return ([(name, content)], rest)
            else if is r ',' then
              let (list, rest) ← fields fuel depth (skipSpace rest)
              return ((name, content) :: list, rest)
            else .error .malformed
        else .error .malformed
    else .error .malformed

end

end Json.Reader

/-- The value of a JSON text, nested no deeper than a limit. Each call of the reader passes a code
point at the latest with the next call, so twice the length bounds the calls. -/
def Json.ofText (limit : Nat) (t : Text) : Except DocumentProblem Json := do
  let (value, rest) ← Reader.value (2 * t.length + 2) limit (Reader.skipSpace t)
  if (Reader.skipSpace rest).isEmpty then return value else .error .malformed

end BearerAccess
