import ResourceApi.Schema.Method
import ResourceApi.Text.Snake

/-!
Resource definitions. Who the parents of a resource are is not part of the resource itself: a `Declaration` is a
definition with its parents as it was read.
-/

namespace ResourceApi

/-- A field as its author declares it. The type is a name that need not denote any type. -/
structure Property where
  name : String
  type : String
  number : Int
  deriving DecidableEq, Repr

structure Resource where
  kind : String
  plural : String
  type : String
  fields : List Property
  methods : MethodSet

namespace Resource

/-- Fields by number. Fields of equal number stay in the order of their declaration. -/
def fieldsByNumber (r : Resource) : List Property := r.fields.mergeSort fun a b => decide (a.number ≤ b.number)

/-- Name of the field that carries the resource in requests. -/
def fieldName (r : Resource) : String := Text.snakeCase r.kind

/-- The collection's segment in paths. -/
def segment (r : Resource) : String := Text.lower r.plural

end Resource

/-- A resource with its parents, which are written in place or refer to a resource known before. -/
inductive Declaration where
  | known (index : Nat)
  | inline (resource : Resource) (parents : List Declaration)

end ResourceApi
