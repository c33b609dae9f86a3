import SelfUpdate.Text.Case

/-!
# Secure addresses

An address is secure when its scheme is `https`, in any letter case, and something follows the
scheme.
-/

namespace SelfUpdate.Url

/-- The text before and after the first `://`. -/
def splitScheme : List Char → Option (List Char × List Char)
  | [] => none
  | ':' :: '/' :: '/' :: rest => some ([], rest)
  | c :: rest => (splitScheme rest).map fun (scheme, rest) => (c :: scheme, rest)

def isSecure (url : String) : Bool :=
  match splitScheme url.toList with
  | none => false
  | some (scheme, rest) => scheme.map Char.toLower == ['h', 't', 't', 'p', 's'] && !rest.isEmpty

end SelfUpdate.Url
