import ResourceApi.Record.Rpc
import ResourceApi.Schema.Scalar

/-!
Descriptors: the form in which a proto3 file is handed to other tools. What a descriptor leaves out is not written.
-/

namespace ResourceApi

inductive ValueType where
  | scalar (type : ScalarType)
  | message
  deriving DecidableEq, Repr

/-- What the type is called in descriptors. -/
def ValueType.name : ValueType → String
  | .scalar .string => "TYPE_STRING"
  | .scalar .int32 => "TYPE_INT32"
  | .scalar .int64 => "TYPE_INT64"
  | .scalar .boolean => "TYPE_BOOL"
  | .scalar .double => "TYPE_DOUBLE"
  | .scalar .float => "TYPE_FLOAT"
  | .message => "TYPE_MESSAGE"

inductive FieldBehavior where
  | required
  deriving DecidableEq, Repr

/-- Options of a field; a reference with an empty type is one to any resource. -/
structure FieldOptions where
  behaviors : List FieldBehavior
  reference : Option String
  deriving DecidableEq, Repr

/-- The type name is only there for messages, and the options only if one of them is set. -/
structure FieldDescriptor where
  name : String
  number : Int32
  repeated : Bool
  type : ValueType
  typeName : Option String
  options : Option FieldOptions
  deriving DecidableEq

structure MessageDescriptor where
  name : String
  fields : List FieldDescriptor
  deriving DecidableEq

/-- The fields of which an HTTP rule has one, with the path in it. -/
inductive HttpPattern where
  | get (path : String)
  | put (path : String)
  | post (path : String)
  | delete (path : String)
  | patch (path : String)
  deriving DecidableEq, Repr

namespace HttpPattern

def ofVerb (path : String) : Verb → HttpPattern
  | .get => .get path
  | .put => .put path
  | .post => .post path
  | .delete => .delete path
  | .patch => .patch path

def verb : HttpPattern → Verb
  | .get _ => .get
  | .put _ => .put
  | .post _ => .post
  | .delete _ => .delete
  | .patch _ => .patch

def path : HttpPattern → String
  | .get path | .put path | .post path | .delete path | .patch path => path

@[simp] theorem verb_ofVerb (path : String) (v : Verb) : (ofVerb path v).verb = v := by cases v <;> rfl

@[simp] theorem path_ofVerb (path : String) (v : Verb) : (ofVerb path v).path = path := by cases v <;> rfl

end HttpPattern

/-- The body is only there if it is not empty. -/
structure HttpRule where
  pattern : HttpPattern
  body : Option String
  deriving DecidableEq, Repr

namespace HttpRule

def verb (r : HttpRule) : Verb := r.pattern.verb

def path (r : HttpRule) : String := r.pattern.path

end HttpRule

structure MethodDescriptor where
  name : String
  inputType : String
  outputType : String
  http : HttpRule
  signatures : List String
  deriving DecidableEq

structure ServiceDescriptor where
  name : String
  methods : List MethodDescriptor
  deriving DecidableEq

/-- The comment of the element that a path leads to. -/
structure Location where
  path : List Nat
  leadingComments : String
  deriving DecidableEq

structure FileDescriptor where
  name : String
  package : String
  imports : List String
  messages : List MessageDescriptor
  service : ServiceDescriptor
  locations : List Location
  deriving DecidableEq

end ResourceApi
