/-!
# Printed texts

A text as it is printed where no terminal reads it: without the sequences that steer a terminal, and
with plain line feeds.
-/

namespace BearerAccess

/-- The characters after an escape and an opening bracket that belong to a control sequence:
parameters, intermediate characters, and a final one. The result is what stands after them, if they
are complete. -/
def afterControl? (cs : List Char) : Option (List Char) :=
  let rest := cs.dropWhile fun c => '0' ≤ c && c ≤ '?'
  match rest.dropWhile fun c => ' ' ≤ c && c ≤ '/' with
  | c :: rest => if '@' ≤ c && c ≤ '~' then some rest else none
  | [] => none

theorem length_afterControl? {cs rest : List Char} (h : afterControl? cs = some rest) :
    rest.length < cs.length := by
  unfold afterControl? at h
  have first := (List.dropWhile_sublist (l := cs) fun c => '0' ≤ c && c ≤ '?').length_le
  have second := (List.dropWhile_sublist (l := cs.dropWhile fun c => '0' ≤ c && c ≤ '?')
    fun c => ' ' ≤ c && c ≤ '/').length_le
  grind

def withoutControls : List Char → List Char
  | '\x1b' :: '[' :: cs =>
    match h : afterControl? cs with
    | some rest =>
      have := length_afterControl? h
      withoutControls rest
    | none => '\x1b' :: '[' :: withoutControls cs
  | c :: cs => c :: withoutControls cs
  | [] => []
termination_by cs => cs.length
decreasing_by all_goals simp only [List.length_cons]; omega

def withLineFeeds : List Char → List Char
  | '\r' :: '\n' :: cs => '\n' :: withLineFeeds cs
  | c :: cs => c :: withLineFeeds cs
  | [] => []

def printed (s : String) : String := String.ofList (withLineFeeds (withoutControls s.toList))

end BearerAccess
