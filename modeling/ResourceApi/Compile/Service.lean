import ResourceApi.Compile.Run
import ResourceApi.Descriptor.Load
import ResourceApi.Descriptor.Render
import ResourceApi.Graph.Order
import ResourceApi.Schema.Config

/-!
Compilation of requested resources into one file.
-/

namespace ResourceApi

structure Compilation where
  file : FileDescriptor
  summary : LogRecord

def Registry.ofConfig (c : Config) : Registry :=
  { package := c.package, fileName := c.targetFile, service := c.name }

namespace Graph

variable {n : Nat}

/-- Compiles the requested resources, ancestors first, into a fresh file. Any failure ends the run. -/
def compile (g : Graph n) (pool : Pool) (request : List (Fin n)) (c : Config) : Except Failure Compilation := do
  let ordered ← (g.order request).mapError .resource
  let reg ← (g.compileAll pool (.ofConfig c) ordered).mapError .resource
  let file ← reg.render.mapError .rejected
  return { file, summary := .service ordered.length file.name reg.messages.items.length reg.rpcs.items.length }

/-- As `compile`, but the file also has to load behind its imports. -/
def compileAndLoad (g : Graph n) (pool : Pool) (request : List (Fin n)) (c : Config) :
    Except Failure Compilation := do
  let result ← g.compile pool request c
  let _ ← (result.file.load pool).mapError (.load result.file.name)
  return result

end Graph

end ResourceApi
