import BearerAccess.Text.Encoding
import BearerAccess.Text.Split

/-!
# Punycode

Texts written in ASCII, after RFC 3492: first the code points of ASCII, then, for each other one in
the order of their numbers, how far it lies from the one before. The distances are written in base
36, with digits whose meaning follows the distances seen so far.
-/

namespace BearerAccess

namespace Punycode

def digit (n : Nat) : Char :=
  if n < 26 then Char.ofNat (0x61 + n) else Char.ofNat (0x30 + n - 26)

def digitValue? (p : CodePoint) : Option Nat :=
  if 0x61 ≤ p.val && p.val ≤ 0x7A then some (p.val - 0x61)
  else if 0x41 ≤ p.val && p.val ≤ 0x5A then some (p.val - 0x41)
  else if 0x30 ≤ p.val && p.val ≤ 0x39 then some (p.val - 0x30 + 26)
  else none

/-- The least value of a digit that is followed by more, at a place of a number. -/
def threshold (bias place : Nat) : Nat := min 26 (max 1 (36 * (place + 1) - bias))

theorem threshold_pos (bias place : Nat) : 0 < threshold bias place := by
  unfold threshold; omega

def digits (bias place n : Nat) : List Char :=
  let t := threshold bias place
  if n < t then [digit n]
  else digit (t + (n - t) % (36 - t)) :: digits bias (place + 1) ((n - t) / (36 - t))
termination_by n
decreasing_by
  have positive := threshold_pos bias place
  have quotient := Nat.div_le_self (n - threshold bias place) (36 - threshold bias place)
  omega

def settle (steps distance : Nat) : Nat :=
  if 455 < distance then settle (steps + 36) (distance / 35)
  else steps + 36 * distance / (distance + 38)
termination_by distance
decreasing_by omega

/-- The bias after a distance; `count` is the number of code points written so far. -/
def adapt (distance count : Nat) (first : Bool) : Nat :=
  let scaled := distance / if first then 700 else 2
  settle 0 (scaled + scaled / count)

/-- How far the writing of a text has come: the digits written, the distance from the last code
point written, the bias, and the number of code points written. -/
structure Progress where
  written : List Char := []
  distance : Nat := 0
  bias : Nat := 72
  count : Nat
  deriving DecidableEq, Repr

/-- Passes a code point in the search for the next one to be written, `n`. -/
def Progress.pass (basic n : Nat) (s : Progress) (p : CodePoint) : Progress :=
  if p.val < n then { s with distance := s.distance + 1 }
  else if p.val = n then
    { written := s.written ++ digits s.bias 0 s.distance
      distance := 0
      bias := adapt s.distance (s.count + 1) (s.count = basic)
      count := s.count + 1 }
  else s

/-- Writes the code points with the given numbers; the first of them that has not been looked for is
`start`. -/
def writeFrom (t : Text) (basic : Nat) : List Nat → Nat → Progress → Progress
  | [], _, s => s
  | n :: rest, start, s =>
    let met := t.foldl (Progress.pass basic n)
      { s with distance := s.distance + (n - start) * (s.count + 1) }
    writeFrom t basic rest (n + 1) { met with distance := met.distance + 1 }

def encode (t : Text) : List Char :=
  let basic : Text := t.filter (·.isAscii)
  let others := ((t.filter (! ·.isAscii)).map (·.val)).mergeSort.eraseDups
  let progress := writeFrom t basic.length others 0x80 { count := basic.length }
  (if basic = [] then [] else basic.legible ++ ['-']) ++ progress.written

/-- What is wrong with a text that should be Punycode. -/
inductive Problem where
  /-- The last number has no end. -/
  | incomplete
  | notDigit (p : CodePoint)
  /-- There is no code point with this number. -/
  | beyond (n : Nat)
  deriving DecidableEq, Repr

/-- Reads a number from a place on, where a digit counts `weight` times: the number, and what
follows it. -/
def readNumber (bias : Nat) : (place weight : Nat) → Text → Except Problem (Nat × Text)
  | _, _, [] => .error .incomplete
  | place, weight, p :: rest =>
    match digitValue? p with
    | none => .error (.notDigit p)
    | some d =>
      let t := threshold bias place
      if d < t then .ok (d * weight, rest)
      else (readNumber bias (place + 1) (weight * (36 - t)) rest).map fun r =>
        (d * weight + r.1, r.2)

theorem length_readNumber {bias place weight : Nat} {t : Text} {r : Nat × Text}
    (h : readNumber bias place weight t = .ok r) : r.2.length < t.length := by
  induction t generalizing place weight r with
  | nil => simp [readNumber] at h
  | cons p rest ih =>
    unfold readNumber at h
    split at h
    · simp at h
    · dsimp only at h
      split at h
      · cases h
        simp
      · cases result : readNumber bias (place + 1) (weight * (36 - threshold bias place)) rest with
        | error e => simp [result, Except.map] at h
        | ok more =>
          simp only [result, Except.map] at h
          cases h
          have shorter := ih result
          simp only [List.length_cons]
          omega

/-- Puts code points into a text, each after a number that says how far it lies from the one before:
`start` is the number of the first that may come, `place` where the next may stand at the
earliest. -/
def insertFrom (bias start place : Nat) (first : Bool) (t digits : Text) : Except Problem Text :=
  if digits = [] then .ok t
  else
    match result : readNumber bias 0 1 digits with
    | .error problem => .error problem
    | .ok (distance, rest) =>
      let n := start + (place + distance) / (t.length + 1)
      let spot := (place + distance) % (t.length + 1)
      match CodePoint.ofNat? n with
      | none => .error (.beyond n)
      | some p =>
        have := length_readNumber result
        insertFrom (adapt distance (t.length + 1) first) n (spot + 1) false
          (t.take spot ++ p :: t.drop spot) rest
termination_by digits.length

def decode (t : Text) : Except Problem Text :=
  match t.splitAtLast? '-' with
  | none => insertFrom 72 0x80 0 true [] t
  | some (basic, digits) => insertFrom 72 0x80 0 true basic digits

end Punycode

end BearerAccess
