import ResourceApi.Compile.Step
import ResourceApi.Graph.Lineage

/-!
What a resource brings into the registry: its own message, then the parts of its methods.
-/

namespace ResourceApi

def Method.rpcComment (m : Method) (subject : String) : String :=
  "An aep-compliant " ++ m.title ++ " method for " ++ subject ++ "."

/-- What the methods of a resource are made from: the pool with the types that they may refer to, the package, the name
of the resource's message, the path of one instance and the template for its collection. The paths may have failed. -/
structure Site where
  pool : Pool
  resource : Resource
  package : String
  message : String
  item : Except ResourceError String
  collection : Except ResourceError String

namespace Site

variable (s : Site)

def kind : String := s.resource.kind

def fullName (name : String) : String := ResourceApi.fullName s.package name

def resourceField : Field := .resource s.resource (s.fullName s.message)

def resultsField : Field := .results s.resource (s.fullName s.message)

/-- A template that binds a field to the path of one instance. -/
def itemTemplate (variableName : String) : Except ResourceError String :=
  s.item.map fun path => "/\x7b" ++ variableName ++ "=" ++ path ++ "\x7d"

def requestName (m : Method) : String := m.title ++ s.kind ++ "Request"

def responseName (m : Method) : String := m.title ++ s.kind ++ "Response"

def request (m : Method) (comment : String) (fields : List Field) : Except ResourceError Message :=
  buildMessage s.kind (s.requestName m) comment fields

def requestComment (m : Method) : String := "Request message for the " ++ m.title ++ s.kind ++ " method"

/-- A page of results. -/
def response (m : Method) : Except ResourceError Message :=
  buildMessage s.kind (s.responseName m) ("Response message for the " ++ m.title ++ s.kind ++ " method")
    [s.resultsField, .nextPageToken]

def createSteps : List Step :=
  let body := s.resource.fieldName
  [ (s.request .create ("A Create request for a " ++ s.kind ++ " resource.")
      [.parent s.resource, .id, s.resourceField]).map .message,
    s.collection.map fun template => .rpc {
      name := Method.create.title ++ s.kind
      inputType := s.fullName (s.requestName .create)
      outputType := s.fullName s.message
      http := { verb := .post, path := template, body }
      signatures := [Slot.parent.name ++ "," ++ body]
      comment := Method.create.rpcComment s.kind } ]

def readSteps : List Step :=
  [ (s.request .read (s.requestComment .read) [.path s.resource]).map .message,
    (s.itemTemplate Slot.path.name).map fun template => .rpc {
      name := Method.read.title ++ s.kind
      inputType := s.fullName (s.requestName .read)
      outputType := s.fullName s.message
      http := { verb := .get, path := template }
      signatures := [Slot.path.name]
      comment := Method.read.rpcComment s.kind } ]

/-- The mask's type is imported once the other fields have been accepted. -/
def updateSteps : List Step :=
  let body := s.resource.fieldName
  let fields := [.path s.resource, s.resourceField]
  [ s.request .update (s.requestComment .update) fields >>= fun _ => importOf s.pool s.kind fieldMaskType,
    (s.request .update (s.requestComment .update) (fields ++ [.updateMask])).map .message,
    (s.itemTemplate (body ++ "." ++ Slot.path.name)).map fun template => .rpc {
      name := Method.update.title ++ s.kind
      inputType := s.fullName (s.requestName .update)
      outputType := s.fullName s.message
      http := { verb := .patch, path := template, body }
      signatures := [body ++ "," ++ Slot.updateMask.name]
      comment := Method.update.rpcComment s.kind } ]

def deleteSteps : List Step :=
  let message := s.request .delete (s.requestComment .delete) [.path s.resource]
  [ message >>= fun _ => importOf s.pool s.kind emptyType,
    message.map .message,
    (s.itemTemplate Slot.path.name).map fun template => .rpc {
      name := Method.delete.title ++ s.kind
      inputType := s.fullName (s.requestName .delete)
      outputType := emptyType
      http := { verb := .delete, path := template }
      signatures := [Slot.path.name]
      comment := Method.delete.rpcComment s.kind } ]

def listSteps : List Step :=
  [ (s.request .list (s.requestComment .list) [.parent s.resource, .pageToken, .maxPageSize]).map .message,
    (s.response .list).map .message,
    s.collection.map fun template => .rpc {
      name := Method.list.title ++ s.kind
      inputType := s.fullName (s.requestName .list)
      outputType := s.fullName (s.responseName .list)
      http := { verb := .get, path := template }
      signatures := [Slot.parent.name]
      comment := Method.list.rpcComment s.resource.plural } ]

/-- Stands in a path for every parent there is. -/
def wildcard : String := "--"

/-- A template that binds the field `path` to all resources of the kind. -/
def globalTemplate : String := "/\x7b" ++ Slot.path.name ++ "=" ++ wildcard ++ "/" ++ Text.lower s.kind ++ "\x7d"

def globalListSteps : List Step :=
  [ (s.request .globalList (s.requestComment .globalList) [.path s.resource, .pageToken]).map .message,
    (s.response .globalList).map .message,
    .ok (.rpc {
      name := Method.globalList.title ++ s.kind
      inputType := s.fullName (s.requestName .globalList)
      outputType := s.fullName (s.responseName .globalList)
      http := { verb := .get, path := s.globalTemplate }
      comment := Method.globalList.rpcComment s.resource.plural }) ]

def applySteps : List Step :=
  [ (s.request .apply (s.requestComment .apply) [.path s.resource, s.resourceField]).map .message,
    (s.itemTemplate Slot.path.name).map fun template => .rpc {
      name := Method.apply.title ++ s.kind
      inputType := s.fullName (s.requestName .apply)
      outputType := s.fullName s.message
      http := { verb := .put, path := template, body := s.resource.fieldName }
      comment := Method.apply.rpcComment s.resource.plural } ]

def methodSteps : Method → List Step
  | .create => s.createSteps
  | .read => s.readSteps
  | .update => s.updateSteps
  | .delete => s.deleteSteps
  | .list => s.listSteps
  | .globalList => s.globalListSteps
  | .apply => s.applySteps

/-- The resource's message, then the parts of the methods that it enables. -/
def steps : List Step :=
  s.resource.toMessage.map .message :: s.resource.methods.toList.flatMap s.methodSteps

end Site

/-- The site of a resource in a graph, with the given name for its message. -/
def Graph.site {n : Nat} (g : Graph n) (pool : Pool) (i : Fin n) (package message : String) : Site where
  pool := pool
  resource := g.resource i
  package := package
  message := message
  item := g.itemPath i
  collection := g.parentTemplate i

end ResourceApi
