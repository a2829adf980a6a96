import ResourceApi.Error

/-!
Pools of loaded files, from which types and imports are resolved.
-/

namespace ResourceApi

/-- An enum in a package or message. Its values stand beside it, not inside it. -/
structure PoolEnum where
  scope : String
  name : String
  values : List String
  startsAtZero : Bool := true
  deriving DecidableEq, Repr

namespace PoolEnum

def fullName (e : PoolEnum) : String := e.scope ++ "." ++ e.name

def symbols (e : PoolEnum) : List String := e.fullName :: e.values.map fun value => e.scope ++ "." ++ value

end PoolEnum

/-- What is known of a loaded file: its direct imports, the full names of its messages, its enums, and the full names
of its extensions and services. -/
structure PoolFile where
  name : String
  imports : List String
  messages : List String
  enums : List PoolEnum := []
  others : List String := []
  deriving DecidableEq, Repr

/-- Full names that a further file may not declare again. -/
def PoolFile.symbols (f : PoolFile) : List String := f.messages ++ f.enums.flatMap PoolEnum.symbols ++ f.others

structure Pool where
  files : List PoolFile

namespace Pool

def file? (p : Pool) (name : String) : Option PoolFile := p.files.find? fun f => f.name == name

/-- The file that declares a message. -/
def declaring? (p : Pool) (fullName : String) : Option PoolFile := p.files.find? fun f => f.messages.contains fullName

/-- The pool with one more file behind those that it has. -/
def add (p : Pool) (f : PoolFile) : Pool := { files := p.files ++ [f] }

def declaring (p : Pool) (fullName : String) : Except Unknown PoolFile :=
  match p.declaring? fullName with
  | some f => .ok f
  | none => .error (.type fullName)

/-- A walk along imports: the files it has met, and those of them whose imports it has all gone through, in that
order. -/
structure Walk where
  met : List String := []
  done : List String := []

namespace Walk

def meet (w : Walk) (name : String) : Walk := { w with met := name :: w.met }

def finish (w : Walk) (name : String) : Walk := { w with done := w.done ++ [name] }

end Walk

/-- Goes on to a file and all that it imports, past the files that were met before. Chains of imports are followed to
the given depth. -/
def visit (p : Pool) : Nat → Walk → String → Walk
  | 0, w, _ => w
  | depth + 1, w, name =>
    if name ∈ w.met then w
    else match p.file? name with
      | none => w
      | some f => (f.imports.foldl (p.visit depth) (w.meet name)).finish name

/-- A file and all that it imports directly or indirectly, each after its own imports. No chain of imports without
repetition is longer than the pool. -/
def withImports (p : Pool) (name : String) : Except Unknown (List String) :=
  match p.file? name with
  | some _ => .ok (p.visit (p.files.length + 1) {} name).done
  | none => .error (.file name)

/-- Adds a file of the pool to a fresh one, unless that has a file of the name already. -/
def addMissing (p fresh : Pool) (name : String) : Pool :=
  match fresh.file? name with
  | some _ => fresh
  | none => (p.file? name).elim fresh fresh.add

/-- A fresh pool with all that is to be there before a file with the given imports: one import after another is added
with all that it imports. -/
def stock (p : Pool) (imports : List String) : Except Unknown Pool :=
  imports.foldlM (fun fresh name => do
    let names ← p.withImports name
    return names.foldl p.addMissing fresh) { files := [] }

end Pool

end ResourceApi
