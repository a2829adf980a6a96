import ResourceApi.Descriptor.Basic
import ResourceApi.Record.Registry

/-!
Rendering of records as descriptors. Texts are Unicode texts without surrogates on their own. With such texts, rendering
fails on field numbers of more than 32 bits and on nothing else.
-/

namespace ResourceApi

def int32? (n : Int) : Except Rejection Int32 :=
  if -2147483648 ≤ n ∧ n ≤ 2147483647 then .ok (Int32.ofInt n) else .error (.notInt32 n)

namespace Field

def valueType (f : Field) : ValueType :=
  match f.type with
  | .scalar type => .scalar type
  | .message _ => .message

/-- Full names start with a dot. -/
def typeName (f : Field) : Option String :=
  match f.type with
  | .scalar _ => none
  | .message fullName => some ("." ++ fullName)

def options (f : Field) : Option FieldOptions :=
  if f.required ∨ f.reference.isSome then
    some { behaviors := if f.required then [.required] else [], reference := f.reference }
  else none

def render (f : Field) : Except Rejection FieldDescriptor := do
  let number ← int32? f.number
  return { name := f.name, number, repeated := f.repeated, type := f.valueType, typeName := f.typeName,
           options := f.options }

end Field

def Message.render (m : Message) : Except Rejection MessageDescriptor := do
  let fields ← m.fields.mapM Field.render
  return { name := m.name, fields }

def HttpBinding.render (h : HttpBinding) : HttpRule where
  pattern := .ofVerb h.path h.verb
  body := if h.body = "" then none else some h.body

def Rpc.render (r : Rpc) : MethodDescriptor where
  name := r.name
  inputType := "." ++ r.inputType
  outputType := "." ++ r.outputType
  http := r.http.render
  signatures := r.signatures

/-- There is no location for an empty comment. -/
def Location.ofComment (path : List Nat) (comment : String) : List Location :=
  if comment = "" then [] else [{ path, leadingComments := " " ++ comment ++ "\n" }]

/-- Message `i` of a file has the path `4, i` and its field `j` the path `4, i, 2, j`. -/
def Message.locations (m : Message) (i : Nat) : List Location :=
  Location.ofComment [4, i] m.comment ++
    m.fields.zipIdx.flatMap fun (f, j) => Location.ofComment [4, i, 2, j] f.comment

/-- Method `k` of the only service has the path `6, 0, 2, k`. -/
def Rpc.locations (r : Rpc) (k : Nat) : List Location := Location.ofComment [6, 0, 2, k] r.comment

namespace Registry

def locations (reg : Registry) : List Location :=
  (reg.messages.items.zipIdx.flatMap fun (m, i) => m.locations i) ++
    reg.rpcs.items.zipIdx.flatMap fun (r, k) => r.locations k

def render (reg : Registry) : Except Rejection FileDescriptor := do
  let messages ← reg.messages.items.mapM Message.render
  return { name := reg.fileName, package := reg.package, imports := reg.imports, messages,
           service := { name := reg.service, methods := reg.rpcs.items.map Rpc.render },
           locations := reg.locations }

end Registry

end ResourceApi
