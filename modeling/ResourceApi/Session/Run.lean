import ResourceApi.Session.Basic

/-!
What the operations of a session do. A failing operation keeps what it changed before it failed.
-/

namespace ResourceApi

/-- The field of a role for a resource whose message has the given full name. -/
def FieldRole.field (r : Resource) (message : String) : FieldRole → Field
  | .parent => .parent r
  | .id => .id
  | .path => .path r
  | .resource => .resource r message
  | .results => .results r message
  | .pageToken => .pageToken
  | .nextPageToken => .nextPageToken
  | .maxPageSize => .maxPageSize
  | .updateMask => .updateMask

/-- What has to be imported before the field is added. -/
def FieldRole.imports (pool : Pool) (kind : String) : FieldRole → List Step
  | .updateMask => [importOf pool kind fieldMaskType]
  | _ => []

namespace Session

/-- The result of a run of steps, with a reply if it came to its end. -/
def afterRun (s : Session) (outcome : Outcome) (reply : Reply) : Response where
  session := { s with registry := outcome.registry }
  result := match outcome.error with
    | none => .ok reply
    | some e => .error (.resource e)
  log := outcome.log

def withVariable (s : Session) (name : String) (f : Message → Response) : Response :=
  match s.message? name with
  | some m => f m
  | none => s.fail (.unknownName name)

/-- Stores the message that a variable stands for after a change, and shows it. -/
def settle (s : Session) (name : String) (changed : Except Failure Message) : Response :=
  match changed with
  | .ok m => (s.replace name m).ok (.message m)
  | .error e => s.fail e

def addRole (s : Session) (pool : Pool) (r : Resource) (role : FieldRole) (target message : String) : Response :=
  let outcome := s.registry.run r.kind (role.imports pool r.kind)
  let s' := { s with registry := outcome.registry }
  match outcome.error with
  | some e => s'.fail (.resource e)
  | none => s'.withVariable target fun m =>
      s'.settle target ((blame r.kind (m.add (role.field r (s.registry.fullName message)))).mapError .resource)

def register (s : Session) (source : String) : Response :=
  s.withVariable source fun m =>
    match s.registry.addMessage m with
    | .ok registry => ({ s with registry }.assign source (.registered m.name)).ok .done (Entry.message m).logged
    | .error why => s.fail (.rejected why)

def addRpc (s : Session) (draft : RpcDraft) : Response :=
  match draft.build >>= fun r => (s.registry.addRpc r).map fun registry => (r, registry) with
  | .ok (r, registry) => { s with registry }.ok .done (Entry.rpc r).logged
  | .error why => s.fail (.rejected why)

def found {α : Type} (name : String) (reply : α → Reply) : Option α → Except Failure Reply
  | some a => .ok (reply a)
  | none => .error (.unknownName name)

/-- One operation. Resources are those of the graph, and what is imported comes from the pool. -/
def step {n : Nat} (g : Graph n) (pool : Pool) (s : Session) : Command n → Response
  | .compile i => s.afterRun (g.compileInto pool i s.registry) .done
  | .generate i target => match (g.resource i).toMessage with
    | .ok m => (s.assign target (.own m)).ok (.message m)
    | .error e => s.fail (.resource e)
  | .define target draft => match draft.build with
    | .ok m => (s.assign target (.own m)).ok .done
    | .error why => s.fail (.rejected why)
  | .addField target draft => s.withVariable target fun m =>
      s.settle target ((draft.build >>= m.add).mapError .rejected)
  | .addRole role i target resource =>
      s.addRole pool (g.resource i) role target (((resource.bind s.message?).map Message.name).getD "")
  | .addMethod method i resource => s.withVariable resource fun m =>
      s.afterRun (s.registry.run (g.kind i) ((g.site pool i s.registry.package m.name).methodSteps method)) .done
  | .register source => s.register source
  | .addRpc draft => s.addRpc draft
  | .addImport file => { s with registry := s.registry.addImport file }.ok .done
  | .importType i fullName =>
      s.afterRun (s.registry.run (g.kind i) [importOf pool (g.kind i) fullName]) (.text fullName)
  | .fullName name => s.ok (.text (s.registry.fullName name))
  | .message name => s.answer (found name .message (s.registry.messages.get? name))
  | .rpc name => s.answer (found name .rpc (s.registry.rpcs.get? name))
  | .field source name => s.withVariable source fun m => s.answer (found name .field (m.field? name))
  | .fieldNumbers source => s.withVariable source fun m => s.ok (.numbers m.fieldNumbers)
  | .render => s.answer ((s.registry.render.mapError .rejected).map .file)
  | .load => s.answer (do
      let file ← s.registry.render.mapError .rejected
      let loaded ← (file.load pool).mapError (.load file.name)
      return .loaded loaded)

/-- The responses to operations one after another. -/
def steps {n : Nat} (g : Graph n) (pool : Pool) (s : Session) : List (Command n) → List Response
  | [] => []
  | command :: commands =>
    let response := s.step g pool command
    response :: response.session.steps g pool commands

end Session

end ResourceApi
