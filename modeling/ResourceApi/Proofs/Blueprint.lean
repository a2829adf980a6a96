import ResourceApi.Proofs.Fields
import ResourceApi.Proofs.Names
import ResourceApi.Proofs.WellKnown
import ResourceApi.Session.Basic

/-!
The standard methods as a table, and the block of messages and RPCs that the table gives for one resource. A block
is made from the resource, the segments of its ancestors and the package. Nothing else of a compilation enters it, but
for the files that the pool has for the types of update masks and of empty answers.
-/

namespace ResourceApi

/-- What a method answers with: the resource, a page of resources, or an empty message. -/
inductive Answer where
  | resource | page | nothing
  deriving DecidableEq, Repr

/-- What a method's template addresses: the collection through the field `parent`, one instance through the field
`path` or through the resource's own `path`, or all resources of the kind. -/
inductive Target where
  | collection | item | nestedItem | everywhere
  deriving DecidableEq, Repr

structure MethodRow where
  request : List FieldRole
  answer : Answer
  verb : Verb
  target : Target
  hasBody : Bool := false
  signature : Option (List FieldRole) := none

def Method.row : Method → MethodRow
  | .create => { request := [.parent, .id, .resource], answer := .resource, verb := .post, target := .collection,
                 hasBody := true, signature := some [.parent, .resource] }
  | .read => { request := [.path], answer := .resource, verb := .get, target := .item, signature := some [.path] }
  | .update => { request := [.path, .resource, .updateMask], answer := .resource, verb := .patch,
                 target := .nestedItem, hasBody := true, signature := some [.resource, .updateMask] }
  | .delete => { request := [.path], answer := .nothing, verb := .delete, target := .item,
                 signature := some [.path] }
  | .list => { request := [.parent, .pageToken, .maxPageSize], answer := .page, verb := .get, target := .collection,
               signature := some [.parent] }
  | .globalList => { request := [.path, .pageToken], answer := .page, verb := .get, target := .everywhere }
  | .apply => { request := [.path, .resource], answer := .resource, verb := .put, target := .item, hasBody := true }

/-- The types that a method refers to and that are not generated. -/
def Method.wellKnown (m : Method) : List String :=
  (if .updateMask ∈ m.row.request then ["google.protobuf.FieldMask"] else []) ++
    if m.row.answer = .nothing then ["google.protobuf.Empty"] else []

theorem Pool.HasWellKnown.declares {pool : Pool} (h : pool.HasWellKnown) {m : Method} {type : String}
    (htype : type ∈ m.wellKnown) : pool.Declares type := by
  cases m with
  | update =>
    obtain rfl := List.mem_singleton.mp htype
    exact h.declares_fieldMask
  | delete =>
    obtain rfl := List.mem_singleton.mp htype
    exact h.declares_empty
  | create | read | list | globalList | apply => cases htype

namespace FieldRole

def isRequired : FieldRole → Bool
  | .parent | .path | .resource => true
  | _ => false

def isRepeated : FieldRole → Bool
  | .results => true
  | _ => false

end FieldRole

/-- What a block is made from. The segments are those of the ancestors, the outermost first. -/
structure Blueprint where
  package : String
  ancestors : List String
  resource : Resource

namespace Blueprint

variable (b : Blueprint)

def kind : String := b.resource.kind

def slot : FieldRole → Slot
  | .parent => ⟨"parent", 1⟩
  | .id => ⟨"id", 2⟩
  | .path => ⟨"path", 1⟩
  | .resource => ⟨b.resource.fieldName, 10015⟩
  | .results => ⟨"results", 10016⟩
  | .pageToken => ⟨"page_token", 10010⟩
  | .nextPageToken => ⟨"next_page_token", 10011⟩
  | .maxPageSize => ⟨"max_page_size", 10017⟩
  | .updateMask => ⟨"update_mask", 10012⟩

def fieldType : FieldRole → FieldType
  | .resource | .results => .message (fullName b.package b.kind)
  | .updateMask => .message "google.protobuf.FieldMask"
  | .maxPageSize => .scalar .int32
  | _ => .scalar .string

def reference : FieldRole → Option String
  | .parent => some ""
  | .path => some b.resource.type
  | _ => none

def fieldComment : FieldRole → String
  | .parent => "A field for the parent of " ++ b.kind
  | .id => "An id that uniquely identifies the resource within the collection"
  | .path => "The globally unique identifier for the resource"
  | .resource => "The resource to perform the operation on."
  | .results => "A list of " ++ b.resource.plural
  | .pageToken => "The page token indicating the starting point of the page"
  | .nextPageToken => "The page token indicating the ending point of this response."
  | .maxPageSize => "The maximum number of resources to return in a single page."
  | .updateMask => "The update mask for the resource"

def field (role : FieldRole) : Field where
  name := (b.slot role).name
  number := (b.slot role).number
  type := b.fieldType role
  repeated := role.isRepeated
  required := role.isRequired
  reference := b.reference role
  comment := b.fieldComment role

/-- Path of the collection, with a wildcard for each ancestor. -/
def collection : String := "/*/".intercalate (b.ancestors ++ [b.resource.segment])

def variableName : Target → String
  | .collection => "parent"
  | .item | .everywhere => "path"
  | .nestedItem => b.resource.fieldName ++ ".path"

def pattern : Target → String
  | .collection => b.collection
  | .item | .nestedItem => b.collection ++ "/*"
  | .everywhere => "--/" ++ Text.lower b.kind

def template (target : Target) : String :=
  "/\x7b" ++ b.variableName target ++ "=" ++ b.pattern target ++ "\x7d"

def requestComment (m : Method) : String :=
  if m = .create then "A Create request for a " ++ b.kind ++ " resource."
  else "Request message for the " ++ m.title ++ b.kind ++ " method"

def request (m : Method) : Message where
  name := m.messageName .request b.kind
  comment := b.requestComment m
  fields := m.row.request.map b.field

def page (m : Method) : Message where
  name := m.messageName .response b.kind
  comment := "Response message for the " ++ m.title ++ b.kind ++ " method"
  fields := [b.field .results, b.field .nextPageToken]

/-- What comments on RPCs speak of. -/
def subject : Method → String
  | .create | .read | .update | .delete => b.kind
  | .list | .globalList | .apply => b.resource.plural

def answerType (m : Method) : String :=
  match m.row.answer with
  | .resource => fullName b.package b.kind
  | .page => fullName b.package (m.messageName .response b.kind)
  | .nothing => "google.protobuf.Empty"

def rpc (m : Method) : Rpc where
  name := m.rpcName b.kind
  inputType := fullName b.package (m.messageName .request b.kind)
  outputType := b.answerType m
  http := { verb := m.row.verb, path := b.template m.row.target
            body := if m.row.hasBody then b.resource.fieldName else "" }
  signatures := m.row.signature.toList.map fun roles => ",".intercalate (roles.map fun role => (b.slot role).name)
  comment := "An aep-compliant " ++ m.title ++ " method for " ++ b.subject m ++ "."

def methodMessages (m : Method) : List Message :=
  b.request m :: if m.row.answer = .page then [b.page m] else []

def methodEntries (pool : Pool) (m : Method) : List Entry :=
  (m.wellKnown.map fun type => .importFile (pool.home type)) ++ (b.methodMessages m).map .message ++ [.rpc (b.rpc m)]

/-- The enabled methods, always in the same order. -/
def methods : List Method :=
  [Method.create, .read, .update, .delete, .list, .globalList, .apply].filter (· ∈ b.resource.methods)

def messages : List Message := b.resource.ownMessage :: b.methods.flatMap b.methodMessages

def rpcs : List Rpc := b.methods.map b.rpc

def imports (pool : Pool) : List String := b.methods.flatMap fun m => m.wellKnown.map pool.home

/-- The whole block, in the order in which its parts are registered. -/
def entries (pool : Pool) : List Entry :=
  .message b.resource.ownMessage :: b.methods.flatMap (b.methodEntries pool)

end Blueprint

end ResourceApi
