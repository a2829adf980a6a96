import ResourceApi.Compile.Plan

/-!
Carrying out the steps of a resource. A failing step ends the run and leaves what the steps before it did.
-/

namespace ResourceApi

inductive LogRecord where
  | message (name : String)
  | rpc (name : String)
  | resource (kind : String) (methods : Nat)
  | service (resources : Nat) (file : String) (messages rpcs : Nat)
  deriving DecidableEq, Repr

def LogRecord.text : LogRecord → String
  | .message name => "Registered message " ++ name
  | .rpc name => "Registered method " ++ name
  | .resource kind methods => "Compiled resource " ++ kind ++ " (" ++ toString methods ++ " methods)"
  | .service resources file messages rpcs =>
    "Compiled " ++ toString resources ++ " resources into " ++ file ++ " (" ++ toString messages ++ " messages, " ++
      toString rpcs ++ " methods)"

/-- Imports are not logged. -/
def Entry.logged : Entry → List LogRecord
  | .importFile _ => []
  | .message m => [.message m.name]
  | .rpc r => [.rpc r.name]

/-- The registry at the end of a run, what was logged, and the error that ended it, if any. -/
structure Outcome where
  registry : Registry
  log : List LogRecord
  error : Option ResourceError

/-- Makes entries up to the first that fails. -/
def Registry.run (reg : Registry) (kind : String) : List Step → Outcome
  | [] => ⟨reg, [], none⟩
  | .error e :: _ => ⟨reg, [], some e⟩
  | .ok entry :: steps => match reg.enter entry with
    | .error why => ⟨reg, [], some ⟨kind, .rejected why⟩⟩
    | .ok next =>
      let rest := next.run kind steps
      { rest with log := entry.logged ++ rest.log }

namespace Graph

variable {n : Nat}

/-- Compiles one resource into a registry. Types that are not generated come from the pool. -/
def compileInto (g : Graph n) (pool : Pool) (i : Fin n) (reg : Registry) : Outcome :=
  let r := g.resource i
  let outcome := reg.run r.kind (g.site pool i reg.package r.kind).steps
  match outcome.error with
  | none => { outcome with log := outcome.log ++ [.resource r.kind r.methods.size] }
  | some _ => outcome

/-- Compiles resources in the given order, up to the first that fails. -/
def compileAll (g : Graph n) (pool : Pool) (reg : Registry) : List (Fin n) → Except ResourceError Registry
  | [] => .ok reg
  | i :: is =>
    let outcome := g.compileInto pool i reg
    match outcome.error with
    | none => g.compileAll pool outcome.registry is
    | some e => .error e

end Graph

end ResourceApi
