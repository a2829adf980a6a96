import ResourceApi.Error

/-!
Generated RPCs and their HTTP bindings.
-/

namespace ResourceApi

inductive Verb where
  | get | put | post | delete | patch
  deriving DecidableEq, Repr

namespace Verb

def all : List Verb := [.get, .put, .post, .delete, .patch]

def name : Verb → String
  | .get => "get"
  | .put => "put"
  | .post => "post"
  | .delete => "delete"
  | .patch => "patch"

def ofName? (name : String) : Option Verb := all.find? fun v => v.name == name

theorem ofName?_name (v : Verb) : ofName? v.name = some v := by cases v <;> decide

end Verb

/-- How an RPC is called over HTTP. The body is the name of a request field, or empty. -/
structure HttpBinding where
  verb : Verb
  path : String
  body : String := ""
  deriving DecidableEq, Repr

/-- A generated RPC. The types are full names of messages, and each signature is a list of request fields. -/
structure Rpc where
  name : String
  inputType : String
  outputType : String
  http : HttpBinding
  signatures : List String := []
  comment : String := ""
  deriving DecidableEq, Repr

end ResourceApi
