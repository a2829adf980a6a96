import ResourceApi.Record.Message
import ResourceApi.Record.Rpc

/-!
The registry of one compilation: the messages, RPCs and imports of the file to be.
-/

namespace ResourceApi

/-- Records with a name under which they are registered. -/
class Named (α : Type) where
  name : α → String

instance : Named Message := ⟨Message.name⟩
instance : Named Rpc := ⟨Rpc.name⟩

/-- Records in the order of their registration, with the index of taken names that registration consults. -/
structure Table (α : Type) where
  items : List α := []
  taken : List String := []

namespace Table

variable {α : Type} [Named α]

def names (t : Table α) : List String := t.items.map Named.name

/-- Puts a record at the end, unless its name is taken. -/
def insert? (t : Table α) (a : α) : Option (Table α) :=
  if Named.name a ∈ t.taken then none
  else some { items := t.items ++ [a], taken := Named.name a :: t.taken }

theorem insert?_eq_some_iff {t t' : Table α} {a : α} :
    t.insert? a = some t' ↔
      Named.name a ∉ t.taken ∧ { items := t.items ++ [a], taken := Named.name a :: t.taken } = t' := by
  unfold insert?
  by_cases h : Named.name a ∈ t.taken <;> simp [h]

def get? (t : Table α) (name : String) : Option α := t.items.find? fun a => Named.name a == name

/-- Changes the first record of that name. -/
def modify (t : Table α) (name : String) (f : α → α) : Table α :=
  { t with items := t.items.modify (t.items.findIdx fun a => Named.name a == name) f }

end Table

/-- Files that every generated file imports. -/
def apiImports : List String := [
  "google/api/annotations.proto",
  "google/api/client.proto",
  "google/api/field_behavior.proto",
  "google/api/resource.proto"]

structure Registry where
  package : String
  fileName : String
  service : String
  messages : Table Message := {}
  rpcs : Table Rpc := {}
  imports : List String := apiImports

/-- The name with the package in front, if there is one. -/
def fullName (package name : String) : String := if package = "" then name else package ++ "." ++ name

/-- A change that a compilation makes to the registry. -/
inductive Entry where
  | importFile (file : String)
  | message (message : Message)
  | rpc (rpc : Rpc)
  deriving DecidableEq, Repr

namespace Registry

def fullName (reg : Registry) (name : String) : String := ResourceApi.fullName reg.package name

def addMessage (reg : Registry) (m : Message) : Except Rejection Registry :=
  match reg.messages.insert? m with
  | some messages => .ok { reg with messages }
  | none => .error (.messageTaken m.name reg.fileName)

def addRpc (reg : Registry) (r : Rpc) : Except Rejection Registry :=
  match reg.rpcs.insert? r with
  | some rpcs => .ok { reg with rpcs }
  | none => .error (.rpcTaken r.name reg.service)

/-- Importing a file again changes nothing. -/
def addImport (reg : Registry) (file : String) : Registry :=
  if file ∈ reg.imports then reg else { reg with imports := reg.imports ++ [file] }

def enter (reg : Registry) : Entry → Except Rejection Registry
  | .importFile file => .ok (reg.addImport file)
  | .message m => reg.addMessage m
  | .rpc r => reg.addRpc r

end Registry

end ResourceApi
