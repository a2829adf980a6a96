import ResourceApi.Text.Lower

/-!
Snake case: an underscore where a new word starts inside a name, then small letters throughout.
-/

namespace ResourceApi.Text

/-- A word starts at `c` when `before` is a small letter or digit and `c` a capital, or when both are capitals
and a small letter follows, which ends an acronym. Letters and digits are ASCII only. -/
def startsWord (before c : Char) (after : Option Char) : Bool :=
  c.isUpper && (before.isLower || before.isDigit || (before.isUpper && after.any Char.isLower))

/-- The characters after `before`, with an underscore put in front of each that starts a word. -/
def separate (before : Char) : List Char → List Char
  | [] => []
  | c :: cs => if startsWord before c cs.head? then '_' :: c :: separate c cs else c :: separate c cs

/-- The words of a name, joined by underscores. The first character never starts a further word. -/
def separateWords : List Char → List Char
  | [] => []
  | c :: cs => c :: separate c cs

/-- The name in snake case: `BookEdition` gives `book_edition` and `ISBNRecord` gives `isbn_record`. -/
def snakeCase (s : String) : String := String.ofList (lowerChars (separateWords s.toList))

end ResourceApi.Text
