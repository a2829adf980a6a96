/-!
Identifiers: an ASCII letter or underscore, then ASCII letters, digits and underscores.
-/

namespace ResourceApi.Text

def isIdentifierHead (c : Char) : Bool := c.isAlpha || c == '_'
def isIdentifierTail (c : Char) : Bool := c.isAlphanum || c == '_'

/-- Letters and digits are ASCII only, and the empty text is no identifier. -/
def isIdentifier (s : String) : Bool :=
  match s.toList with
  | [] => false
  | c :: cs => isIdentifierHead c && cs.all isIdentifierTail

end ResourceApi.Text
