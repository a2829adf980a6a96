import ResourceApi.Record.Message
import ResourceApi.Record.Rpc

/-!
Records written by hand, with names where the records themselves have types. They are checked when they are built.
-/

namespace ResourceApi

structure FieldDraft where
  name : String
  number : Int
  scalarType : Option String := none
  messageType : Option String := none
  repeated : Bool := false
  required : Bool := false
  reference : Option String := none
  comment : String := ""

/-- Exactly one type has to be given. A scalar type that does not exist is reported before that. -/
def FieldDraft.build (d : FieldDraft) : Except Rejection Field := do
  let scalar ← d.scalarType.mapM fun name =>
    match ScalarType.ofName? name with
    | some type => Except.ok type
    | none => Except.error (.notScalar name)
  let type ← match scalar, d.messageType with
    | some type, none => Except.ok (FieldType.scalar type)
    | none, some fullName => Except.ok (FieldType.message fullName)
    | _, _ => Except.error (.typeCount d.name)
  return { name := d.name, number := d.number, type, repeated := d.repeated, required := d.required,
           reference := d.reference, comment := d.comment }

/-- The fields of a draft are not compared with each other. -/
structure MessageDraft where
  name : String
  comment : String := ""
  fields : List FieldDraft := []

def MessageDraft.build (d : MessageDraft) : Except Rejection Message := do
  let fields ← d.fields.mapM FieldDraft.build
  return { name := d.name, comment := d.comment, fields }

structure HttpDraft where
  verb : String
  path : String
  body : String := ""

def HttpDraft.build (d : HttpDraft) : Except Rejection HttpBinding :=
  match Verb.ofName? d.verb with
  | some verb => .ok { verb, path := d.path, body := d.body }
  | none => .error (.unknownVerb d.verb)

structure RpcDraft where
  name : String
  inputType : String
  outputType : String
  http : HttpDraft
  signatures : List String := []
  comment : String := ""

def RpcDraft.build (d : RpcDraft) : Except Rejection Rpc := do
  let http ← d.http.build
  return { name := d.name, inputType := d.inputType, outputType := d.outputType, http,
           signatures := d.signatures, comment := d.comment }

end ResourceApi
