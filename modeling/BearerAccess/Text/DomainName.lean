import BearerAccess.Text.LowerCase
import BearerAccess.Text.NameRanges
import BearerAccess.Text.Punycode
import BearerAccess.Text.Quoted

/-!
# Domain names

The form of domain names in ASCII, after RFC 3490. A name is made of labels with dots between them.
A label with code points outside ASCII is prepared, and then written in Punycode behind a mark.
-/

namespace BearerAccess

/-- What is wrong with a domain name. -/
inductive DomainProblem where
  /-- A label is empty or too long. -/
  | labelLength
  | lastLabelLength
  | refused (p : CodePoint)
  /-- A label has code points of both directions. -/
  | bothDirections
  /-- A label from the right does not begin and end so. -/
  | looseEnds
  /-- A label looks as if it were in ASCII form, and is not. -/
  | marked
  | unreadable (problem : Punycode.Problem)
  /-- A label in ASCII form is not the one that its reading has. -/
  | otherForm (given proper : Text)
  deriving DecidableEq, Repr

def Punycode.Problem.message : Punycode.Problem → Text
  | incomplete => "incomplete punicode string"
  | notDigit p =>
    "Invalid extended code point '" ++ Text.ofString ((String.ofList (Text.legible [p])).toUpper) ++
      "'"
  | beyond n => s!"Invalid character U+{String.ofList (Nat.toDigits 16 n)}"

def Text.byteNotation (t : Text) : Text := "b'" ++ t ++ "'"

namespace DomainProblem

def message : DomainProblem → Text
  | labelLength => "label empty or too long"
  | lastLabelLength => "label too long"
  | refused p => s!"Invalid character {Text.quoted [p]}"
  | bothDirections => "Violation of BIDI requirement 2"
  | looseEnds => "Violation of BIDI requirement 3"
  | marked => "Label starts with ACE prefix"
  | unreadable problem =>
    "decoding with 'punycode' codec failed (UnicodeError: " ++ problem.message ++ ")"
  | otherForm given proper =>
    "('IDNA does not round-trip', " ++ given.byteNotation ++ ", " ++ proper.byteNotation ++ ")"

end DomainProblem

namespace DomainName

def mark : Text := "xn--"

def labelLimit : Nat := 63

def isDot (p : CodePoint) : Bool :=
  p.is '.' || p.val = 0x3002 || p.val = 0xFF0E || p.val = 0xFF61

def hasLength (label : Text) : Bool := label ≠ [] && label.length ≤ labelLimit

def checkedLabel (label : Text) : Except DomainProblem Text :=
  if hasLength label then .ok label else .error .labelLength

/-- What stands in a name for a small letter, a space, or a sign of full width. Other signs stand
for themselves. -/
def plain (p : CodePoint) : Text :=
  if p.is 'ß' then "ss"
  else if p.is 'ς' then "σ"
  else if NameRanges.spaces.holds p.val then " "
  else if NameRanges.fullWidth.holds p.val then [.ofChar (Char.ofNat (p.val - 0xFEE0))]
  else [p]

/-- A label after its preparation: in small letters of plain width, without what is dropped, and in
one direction of writing. -/
def prepared (label : Text) : Except DomainProblem Text :=
  let label := (Text.lowerCase (label.filter (! NameRanges.dropped.holds ·.val))).flatMap plain
  let isFromRight (p : CodePoint) : Bool := NameRanges.fromRight.holds p.val
  match label.find? (NameRanges.refused.holds ·.val) with
  | some p => .error (.refused p)
  | none =>
    if !label.any isFromRight then .ok label
    else if label.any (NameRanges.fromLeft.holds ·.val) then .error .bothDirections
    else if label.head?.all isFromRight && label.getLast?.all isFromRight then .ok label
    else .error .looseEnds

def encodedLabel (label : Text) : Except DomainProblem Text := do
  if label.all (·.isAscii) then checkedLabel label
  else
    let ready ← prepared label
    if ready.all (·.isAscii) then checkedLabel ready
    else if mark.isPrefixOf ready then .error .marked
    else checkedLabel (mark ++ Text.ofString (String.ofList (Punycode.encode ready)))

/-- Labels without an empty one at the end, and the dot that stood before it. -/
def withoutEnd (labels : List Text) : List Text × Text :=
  if labels.getLast? = some [] then (labels.dropLast, ".") else (labels, [])

/-- The form of a name in ASCII. The labels of a name that is in ASCII stay as they are. -/
def encode (name : Text) : Except DomainProblem Text :=
  if name.all (·.isAscii) then
    let labels := name.splitAll '.'
    if !labels.dropLast.all hasLength then .error .labelLength
    else if labels.getLast?.any (labelLimit < ·.length) then .error .lastLabelLength
    else .ok name
  else do
    let (labels, ending) := withoutEnd (name.splitWhere isDot)
    return Text.joined "." (← labels.mapM encodedLabel) ++ ending

/-- The label that a label in ASCII form stands for. It must be the form of what it stands for. -/
def decodedLabel (label : Text) : Except DomainProblem Text :=
  if !mark.isPrefixOf label then .ok label
  else match Punycode.decode (label.drop mark.length) with
    | .error problem => .error (.unreadable problem)
    | .ok reading => do
      let proper ← encodedLabel reading
      if label.lowerCase = proper then return reading else .error (.otherForm label proper)

def decode (name : Text) : Except DomainProblem Text :=
  if !occursIn mark name then .ok name
  else do
    let (labels, ending) := withoutEnd (name.splitAll '.')
    return Text.joined "." (← labels.mapM decodedLabel) ++ ending

end DomainName

end BearerAccess
