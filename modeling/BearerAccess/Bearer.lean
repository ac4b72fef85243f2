import BearerAccess.Failure
import BearerAccess.Text.Blank

/-!
# Bearer headers

An authorization header presents a secret in two words: the name of the scheme, in either case, and
the secret.
-/

namespace BearerAccess

def bearerScheme : List Char := ['b', 'e', 'a', 'r', 'e', 'r']

def bearerSecret : Option Text → Except CredentialProblem Text
  | none => .error .noHeader
  | some header =>
    if header.isEmpty then .error .noHeader
    else match header.words with
      | [] => .error .otherScheme
      | scheme :: rest =>
        if scheme.legible.map Char.toLower ≠ bearerScheme then .error .otherScheme
        else match rest with
          | [secret] => .ok secret
          | _ => .error .malformed

end BearerAccess
