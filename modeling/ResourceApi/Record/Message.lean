import ResourceApi.Error
import ResourceApi.Schema.Scalar
import ResourceApi.Text.Identifier

/-!
Generated messages and the rules that a field has to meet to become part of one.
-/

namespace ResourceApi

/-- The type of a field's values; a message is given by its full name. -/
inductive FieldType where
  | scalar (type : ScalarType)
  | message (fullName : String)
  deriving DecidableEq, Repr

/-- A field of a generated message. A reference is to a resource of the given type, of any type if that is empty. -/
structure Field where
  name : String
  number : Int
  type : FieldType
  repeated : Bool := false
  required : Bool := false
  reference : Option String := none
  comment : String := ""
  deriving DecidableEq, Repr

def reservedFrom : Int := 19000
def reservedTo : Int := 20000

/-- Numbers from 19000 to 19999 are kept for the wire format itself. -/
def IsReservedNumber (number : Int) : Prop := reservedFrom ≤ number ∧ number < reservedTo

instance (number : Int) : Decidable (IsReservedNumber number) := inferInstanceAs (Decidable (_ ∧ _))

structure Message where
  name : String
  comment : String := ""
  fields : List Field := []
  deriving DecidableEq, Repr

namespace Message

/-- The conflict of a new field with one that the message has; a shared number is reported before a shared name. -/
def conflict? (message : String) (earlier later : Field) : Option Rejection :=
  if earlier.number = later.number then some (.numberTaken message later.number earlier.name later.name)
  else if earlier.name = later.name then some (.fieldTaken message later.name)
  else none

/-- What speaks against a further field, if anything does. -/
def objection? (m : Message) (f : Field) : Option Rejection :=
  if !Text.isIdentifier f.name then some (.fieldName m.name f.name)
  else if f.number < 1 ∨ maxFieldNumber < f.number then some (.numberRange m.name f.number)
  else if IsReservedNumber f.number then some (.numberReserved m.name f.number)
  else m.fields.findSome? fun earlier => conflict? m.name earlier f

/-- Puts a field at the end. -/
def add (m : Message) (f : Field) : Except Rejection Message :=
  match m.objection? f with
  | some why => .error why
  | none => .ok { m with fields := m.fields ++ [f] }

theorem add_eq_ok_iff {m m' : Message} {f : Field} :
    m.add f = .ok m' ↔ m.objection? f = none ∧ { m with fields := m.fields ++ [f] } = m' := by
  unfold add
  cases m.objection? f <;> simp

theorem add_eq_error_iff {m : Message} {f : Field} {why : Rejection} :
    m.add f = .error why ↔ m.objection? f = some why := by
  unfold add
  cases m.objection? f <;> simp

def addAll (m : Message) (fields : List Field) : Except Rejection Message := fields.foldlM add m

/-- The first field of that name. -/
def field? (m : Message) (name : String) : Option Field := m.fields.find? fun f => f.name == name

/-- Sets the number of a name, at the end if the name is new. -/
def putNumber (numbers : List (String × Int)) (name : String) (number : Int) : List (String × Int) :=
  if numbers.any (·.1 == name) then numbers.map fun p => if p.1 == name then (name, number) else p
  else numbers ++ [(name, number)]

/-- The numbers by field name. A name that occurs twice keeps its first place and has its last number. -/
def fieldNumbers (m : Message) : List (String × Int) :=
  m.fields.foldl (fun numbers f => putNumber numbers f.name f.number) []

end Message

end ResourceApi
