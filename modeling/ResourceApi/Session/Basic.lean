import ResourceApi.Compile.Service
import ResourceApi.Record.Draft

/-!
Sessions: one registry and messages kept in variables, with the operations that can be made on them.
-/

namespace ResourceApi

/-- A variable's message is the variable's own until it is registered; from then on the registry holds it. -/
inductive Handle where
  | own (message : Message)
  | registered (name : String)

structure Session where
  registry : Registry
  bindings : List (String × Handle) := []

/-- The fields that can be added to a message on their own. -/
inductive FieldRole where
  | parent | id | path | resource | results | pageToken | nextPageToken | maxPageSize | updateMask
  deriving DecidableEq, Repr

/-- An operation on a session over a graph of `n` resources. Variables are given by name; the one of the resource's
message can be left out where the field does not refer to it. -/
inductive Command (n : Nat) where
  | compile (i : Fin n)
  | generate (i : Fin n) (target : String)
  | define (target : String) (message : MessageDraft)
  | addField (target : String) (field : FieldDraft)
  | addRole (role : FieldRole) (i : Fin n) (target : String) (resource : Option String)
  | addMethod (method : Method) (i : Fin n) (resource : String)
  | register (source : String)
  | addRpc (rpc : RpcDraft)
  | addImport (file : String)
  | importType (i : Fin n) (fullName : String)
  | fullName (name : String)
  | message (name : String)
  | rpc (name : String)
  | field (source name : String)
  | fieldNumbers (source : String)
  | render
  | load

inductive Reply where
  | done
  | text (value : String)
  | message (value : Message)
  | field (value : Field)
  | rpc (value : Rpc)
  | numbers (value : List (String × Int))
  | file (value : FileDescriptor)
  | loaded (value : LoadedFile)

/-- The session after an operation, its reply or failure, and what it logged. -/
structure Response where
  session : Session
  result : Except Failure Reply
  log : List LogRecord := []

namespace Session

def ok (s : Session) (reply : Reply) (log : List LogRecord := []) : Response := ⟨s, .ok reply, log⟩

def fail (s : Session) (failure : Failure) : Response := ⟨s, .error failure, []⟩

/-- Replies to a question; the session stays as it is. -/
def answer (s : Session) (result : Except Failure Reply) : Response := ⟨s, result, []⟩

def assign (s : Session) (name : String) (handle : Handle) : Session :=
  { s with bindings := (name, handle) :: s.bindings.filter fun v => v.1 != name }

def handle? (s : Session) (name : String) : Option Handle := (s.bindings.find? fun v => v.1 == name).map Prod.snd

def message? (s : Session) (name : String) : Option Message :=
  match s.handle? name with
  | some (.own m) => some m
  | some (.registered name) => s.registry.messages.get? name
  | none => none

/-- Puts a message in place of the one that a variable stands for, in the registry if that holds it. -/
def replace (s : Session) (name : String) (m : Message) : Session :=
  match s.handle? name with
  | some (.registered registered) =>
    { s with registry := { s.registry with messages := s.registry.messages.modify registered fun _ => m } }
  | _ => s.assign name (.own m)

end Session

end ResourceApi
