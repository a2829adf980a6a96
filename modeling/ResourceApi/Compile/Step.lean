import ResourceApi.Compile.Slot
import ResourceApi.Descriptor.Pool
import ResourceApi.Record.Registry

/-!
Single steps of a compilation, and the message that stands for a resource itself.
-/

namespace ResourceApi

/-- An entry to be made, or the reason why it cannot even be attempted. -/
abbrev Step := Except ResourceError Entry

/-- Blames a rejection on the resource of the given kind. -/
def blame {α : Type} (kind : String) (result : Except Rejection α) : Except ResourceError α :=
  result.mapError fun why => ⟨kind, .rejected why⟩

def buildMessage (kind name comment : String) (fields : List Field) : Except ResourceError Message :=
  blame kind (Message.addAll { name, comment } fields)

/-- The import of the file of the pool that declares a well-known type. -/
def importOf (pool : Pool) (kind fullName : String) : Step :=
  match pool.declaring? fullName with
  | some file => .ok (.importFile file.name)
  | none => .error ⟨kind, .unknownType fullName⟩

/-- A declared field of the resource's own message. -/
def Property.toField (kind : String) (p : Property) : Except ResourceError Field :=
  match ScalarType.ofTypeName? p.type with
  | some type => .ok {
      name := p.name, number := p.number, type := .scalar type, comment := "Field for " ++ p.name ++ "." }
  | none => .error ⟨kind, .unsupportedType p.name p.type⟩

/-- The resource's own message, with its fields by number. A type that does not exist is reported before anything else
that is wrong with its field. -/
def Resource.toMessage (r : Resource) : Except ResourceError Message :=
  r.fieldsByNumber.foldlM (fun m p => do
    let field ← p.toField r.kind
    blame r.kind (m.add field)) { name := r.kind, comment := "A " ++ r.kind ++ " resource." }

end ResourceApi
