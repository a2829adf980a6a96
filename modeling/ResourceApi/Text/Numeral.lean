import ResourceApi.Text.Blank

/-!
Decimal numerals of integers. Around a numeral white space is allowed, before it a sign and zeros, between its
characters single underscores, and behind it a point with zeros. What is allowed beside the plain numeral is taken off
only if the text is not one already.
-/

namespace ResourceApi.Text

inductive NumeralError where
  | malformed
  | tooLong
  deriving DecidableEq, Repr

/-- The greatest number of digits of a plain numeral. -/
def maxDigits : Nat := 4300

def digitValue (c : Char) : Nat := c.toNat - '0'.toNat

def digitsValue (digits : List Char) : Nat := digits.foldl (fun value c => 10 * value + digitValue c) 0

/-- Takes off one sign and says whether it is a minus. Two signs are no sign, except that a minus may stand behind
zeros. -/
def dropSign? : List Char → Option (Bool × List Char)
  | '+' :: '-' :: _ => none
  | '-' :: '-' :: _ => none
  | '-' :: '+' :: _ => none
  | '+' :: cs => some (false, cs)
  | '-' :: cs => some (true, cs)
  | cs => some (false, cs)

/-- What counts of a numeral of which only zeros and underscores have been read, the last of them `last`. They are
passed over up to another digit or a minus sign. The last one is kept if a point or nothing follows. -/
def significantAfter? (last : Char) : List Char → Option (List Char)
  | [] => some [last]
  | c :: cs =>
    if c = '0' || c = '_' then significantAfter? c cs
    else if c = '.' then some (last :: c :: cs)
    else if c.isDigit || c = '-' then some (c :: cs)
    else none

/-- What counts of a numeral behind the zeros that it begins with. -/
def significant? : List Char → Option (List Char)
  | [] => none
  | c :: cs =>
    if c = '0' then significantAfter? c cs
    else if c.isDigit || c = '-' then some (c :: cs)
    else none

/-- Cuts off a point with nothing but zeros behind it, of which there has to be one. -/
def dropZeroFraction (s : List Char) : List Char :=
  match s.dropWhile (· != '.') with
  | _ :: '0' :: zeros => if zeros.all (· == '0') then s.takeWhile (· != '.') else s
  | _ => s

/-- No underscore comes first, last or beside another. The flag says that nothing or an underscore stands before. -/
def separated (atGap : Bool) : List Char → Bool
  | [] => !atGap
  | c :: cs => if c = '_' then !atGap && separated true cs else separated false cs

def dropSeparators? (s : List Char) : Option (List Char) :=
  if separated true s then some (s.filter (· != '_')) else none

/-- The digits of a natural number without zeros in front. Their number is checked before what follows them. -/
def natural (s : List Char) : Except NumeralError Nat :=
  match s.takeWhile Char.isDigit with
  | [] => .error .malformed
  | '0' :: _ => if s = ['0'] then .ok 0 else .error .malformed
  | digits =>
    if maxDigits < digits.length then .error .tooLong
    else if digits.length = s.length then .ok (digitsValue digits)
    else .error .malformed

/-- A numeral with nothing to be taken off. -/
def plainInteger : List Char → Except NumeralError Int
  | '-' :: cs => (natural cs).map fun n => -(n : Int)
  | cs => (natural cs).map Int.ofNat

/-- The plain form of a numeral, if all that stands beside it may be taken off. -/
def plain? (s : List Char) : Option (List Char) := do
  let (negative, unsigned) ← dropSign? (trimBy isSpace s)
  let significant ← significant? unsigned
  let digits ← dropSeparators? (dropZeroFraction significant)
  return if negative then '-' :: digits else digits

/-- Only a text that begins with too many digits is too long. A numeral whose plain form has too many is malformed. -/
def integer (s : String) : Except NumeralError Int :=
  match plainInteger s.toList with
  | .error .malformed =>
    match (plain? s.toList).map plainInteger with
    | some (.ok n) => .ok n
    | _ => .error .malformed
  | result => result

end ResourceApi.Text
