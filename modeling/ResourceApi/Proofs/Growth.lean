import ResourceApi.Proofs.Run
import ResourceApi.Session.Run

/-!
Registries over whole sessions. Whatever is done in a session, and whether it succeeds or fails, the taken names are
those of the records, and no record is lost, moved or exchanged. A registered message changes only by fields that are
added to it through a variable.
-/

namespace ResourceApi

theorem getElem?_of_isPrefix {α : Type} {as bs : List α} {k : Nat} {a : α} (h : as <+: bs) (hk : as[k]? = some a) :
    bs[k]? = some a := by
  obtain ⟨more, rfl⟩ := h
  obtain ⟨hlt, _⟩ := List.getElem?_eq_some_iff.mp hk
  rw [List.getElem?_append_left hlt, hk]

namespace Table

variable {α : Type} [Named α] {t : Table α} {a : α} {name : String} {f : α → α} {k : Nat}

/-- The index has the names of the records and no others, and no name occurs twice. -/
structure Consistent (t : Table α) : Prop where
  taken : ∀ name, name ∈ t.taken ↔ name ∈ t.names
  nodup : t.names.Nodup

theorem consistent_empty : Consistent ({} : Table α) := ⟨fun _ => Iff.rfl, List.nodup_nil⟩

theorem names_push : (t.push a).names = t.names ++ [Named.name a] := List.map_append

theorem Consistent.push (h : t.Consistent) (hfree : Named.name a ∉ t.taken) : (t.push a).Consistent where
  taken name := by
    rw [names_push, List.mem_append, List.mem_singleton, ← h.taken, Table.push, List.mem_cons, or_comm]
  nodup := by
    rw [names_push, ← List.concat_eq_append]
    exact h.nodup.concat (mt (h.taken _).mpr hfree)

theorem isSome_get?_iff : (t.get? name).isSome ↔ name ∈ t.names := by
  rw [get?, List.find?_isSome, names, List.mem_map]
  simp only [beq_iff_eq]

theorem Consistent.get?_eq_some_iff (h : t.Consistent) : t.get? name = some a ↔ a ∈ t.items ∧ Named.name a = name :=
  find?_key_eq_some_iff h.nodup

theorem Consistent.get?_of_getElem? (h : t.Consistent) (hk : t.items[k]? = some a) :
    t.get? (Named.name a) = some a :=
  h.get?_eq_some_iff.mpr ⟨List.mem_of_getElem? hk, rfl⟩

/-- The first record of a name is the only one, so it is the only one that changes. -/
theorem Consistent.items_modify (h : t.Consistent) :
    (t.modify name f).items = t.items.map fun a => if Named.name a = name then f a else a := by
  refine List.ext_getElem? fun k => ?_
  rw [modify, List.getElem?_modify, List.getElem?_map]
  cases hk : t.items[k]? with
  | none => rfl
  | some a =>
    have hindex : (t.items.findIdx fun a => Named.name a == name) = k ↔ Named.name a = name := by
      constructor
      · rintro rfl
        simpa using List.findIdx_of_getElem?_eq_some hk
      · intro hname
        have hfound : (t.items.findIdx fun a => Named.name a == name) < t.items.length :=
          List.findIdx_lt_length_of_exists ⟨a, List.mem_of_getElem? hk, beq_iff_eq.mpr hname⟩
        have hsame : Named.name t.items[t.items.findIdx fun a => Named.name a == name] = name := by
          simpa using List.findIdx_getElem (w := hfound)
        refine (List.getElem?_inj (by simpa [names] using hfound) h.nodup).mp ?_
        simp only [names, List.getElem?_map, hk, List.getElem?_eq_getElem hfound, Option.map_some, hname, hsame]
    simp only [hindex, Option.map_eq_map, Option.map_some]

theorem Consistent.names_modify (h : t.Consistent) (hf : ∀ a, Named.name a = name → Named.name (f a) = name) :
    (t.modify name f).names = t.names := by
  rw [names, h.items_modify, List.map_map]
  refine List.map_congr_left fun a _ => ?_
  rw [Function.comp_apply]
  split_ifs with hname
  · rw [hf a hname, hname]
  · rfl

theorem Consistent.modify (h : t.Consistent) (hf : ∀ a, Named.name a = name → Named.name (f a) = name) :
    (t.modify name f).Consistent where
  taken other := by
    rw [h.names_modify hf]
    exact h.taken other
  nodup := by
    rw [h.names_modify hf]
    exact h.nodup

end Table

namespace Message

variable {m m' : Message} {fields : List Field}

theorem eq_of_addAll_eq_ok (h : m.addAll fields = .ok m') : m' = { m with fields := m.fields ++ fields } := by
  induction fields generalizing m with
  | nil =>
    obtain rfl := Except.ok.inj h
    rw [List.append_nil]
  | cons f fields ih =>
    obtain ⟨next, hadd, hrest⟩ := Attempt.bind_eq_ok_iff.mp h
    obtain ⟨_, rfl⟩ := add_eq_ok_iff.mp hadd
    rw [ih hrest, List.append_assoc]
    rfl

theorem addAll_append (more : List Field) (h : m.addAll fields = .ok m') :
    m.addAll (fields ++ more) = m'.addAll more := by
  rw [addAll, List.foldlM_append]
  exact congrArg (· >>= fun m => m.addAll more) h

theorem addAll_singleton (m : Message) (f : Field) : m.addAll [f] = m.add f := by
  rw [addAll, List.foldlM_cons]
  exact bind_pure _

end Message

namespace Registry

variable {reg reg' reg'' : Registry} {e : Entry} {es : List Entry} {name : String} {m m' : Message}

/-- Both tables are consistent, and each file is imported once, those of the API annotations first. -/
structure Consistent (reg : Registry) : Prop where
  messages : reg.messages.Consistent
  rpcs : reg.rpcs.Consistent
  imports : reg.imports.Nodup
  apiImports : ["google/api/annotations.proto", "google/api/client.proto", "google/api/field_behavior.proto",
    "google/api/resource.proto"] <+: reg.imports

theorem consistent_fresh (package fileName service : String) : Consistent { package, fileName, service } where
  messages := Table.consistent_empty
  rpcs := Table.consistent_empty
  imports := show ResourceApi.apiImports.Nodup by decide
  apiImports := List.prefix_rfl

theorem Consistent.put (h : reg.Consistent) (hfree : reg.Free e) : (reg.put e).Consistent := by
  cases e with
  | importFile file =>
    rw [Registry.put, addImport_eq]
    split_ifs with hfile
    · exact h
    · refine { h with imports := ?_, apiImports := h.apiImports.trans (List.prefix_append _ _) }
      rw [← List.concat_eq_append]
      exact h.imports.concat hfile
  | message m => exact { h with messages := h.messages.push hfree }
  | rpc r => exact { h with rpcs := h.rpcs.push hfree }

theorem Consistent.extend (h : reg.Consistent) (hadmits : reg.Admits es) : (reg.extend es).Consistent := by
  induction es generalizing reg with
  | nil => exact h
  | cons e es ih =>
    obtain ⟨hfree, hrest⟩ := hadmits
    exact ih (h.put hfree) hrest

/-- An entry is accepted, with whatever follows from making it, exactly if its name is free. -/
theorem accepts_iff {P : Registry → Prop} (hput : P (reg.put e)) :
    (∃ reg', reg.enter e = .ok reg' ∧ P reg') ↔ reg.Free e := by
  simp only [enter_eq_ok_iff]
  constructor
  · rintro ⟨_, ⟨hfree, _⟩, _⟩
    exact hfree
  · intro hfree
    exact ⟨reg.put e, ⟨hfree, rfl⟩, hput⟩

theorem Consistent.accepts_message_iff (h : reg.Consistent) (m : Message) :
    (∃ reg', reg.addMessage m = .ok reg' ∧ reg'.messages.items = reg.messages.items ++ [m]) ↔
      m.name ∉ reg.messages.names :=
  (accepts_iff (e := .message m) messages_items_put).trans (not_congr (h.messages.taken m.name))

theorem Consistent.accepts_rpc_iff (h : reg.Consistent) (r : Rpc) :
    (∃ reg', reg.addRpc r = .ok reg' ∧ reg'.rpcs.items = reg.rpcs.items ++ [r]) ↔ r.name ∉ reg.rpcs.names :=
  (accepts_iff (e := .rpc r) rpcs_items_put).trans (not_congr (h.rpcs.taken r.name))

/-- Puts a message in place of the one that is registered under a name. -/
def amend (reg : Registry) (name : String) (m : Message) : Registry :=
  { reg with messages := reg.messages.modify name fun _ => m }

theorem Consistent.amend (h : reg.Consistent) (hname : m.name = name) : (reg.amend name m).Consistent :=
  { h with messages := h.messages.modify fun _ _ => hname }

theorem messages_getElem?_extend {k : Nat} (hk : reg.messages.items[k]? = some m) :
    (reg.extend es).messages.items[k]? = some m := by
  rw [messages_items_extend]
  exact getElem?_of_isPrefix (List.prefix_append _ _) hk

theorem Consistent.messages_getElem?_amend {k : Nat} (h : reg.Consistent) (hk : reg.messages.items[k]? = some m) :
    (reg.amend name m').messages.items[k]? = some (if m.name = name then m' else m) := by
  rw [Registry.amend, h.messages.items_modify, List.getElem?_map, hk]
  rfl

/-- Nothing that is registered or imported is lost or moved, and messages only get further fields. -/
structure Grows (reg reg' : Registry) : Prop where
  messages : ∀ (k : Nat) (m : Message), reg.messages.items[k]? = some m →
    ∃ m' fields, reg'.messages.items[k]? = some m' ∧ m.addAll fields = .ok m'
  rpcs : reg.rpcs.items <+: reg'.rpcs.items
  imports : reg.imports <+: reg'.imports

theorem Grows.refl (reg : Registry) : reg.Grows reg :=
  ⟨fun _ m hk => ⟨m, [], hk, rfl⟩, List.prefix_rfl, List.prefix_rfl⟩

theorem Grows.trans (h : reg.Grows reg') (h' : reg'.Grows reg'') : reg.Grows reg'' where
  messages k m hk := by
    obtain ⟨m', fields, hk', hadd⟩ := h.messages k m hk
    obtain ⟨m'', more, hk'', hmore⟩ := h'.messages k m' hk'
    exact ⟨m'', fields ++ more, hk'', by rw [Message.addAll_append more hadd, hmore]⟩
  rpcs := h.rpcs.trans h'.rpcs
  imports := h.imports.trans h'.imports

theorem Grows.names (h : reg.Grows reg') : reg.messages.names <+: reg'.messages.names := by
  rw [List.prefix_iff_getElem?]
  intro k hlt
  have hlt' : k < reg.messages.items.length := by simpa [Table.names] using hlt
  obtain ⟨m', fields, hk, hadd⟩ := h.messages k reg.messages.items[k] (List.getElem?_eq_getElem hlt')
  rw [Table.names, List.getElem?_map, hk, Message.eq_of_addAll_eq_ok hadd]
  simp [Table.names, Named.name]

end Registry

/-- Something done in a session: an operation over some graph and pool, or a registered message kept at hand in a
variable. -/
inductive Action where
  | operate {n : Nat} (g : Graph n) (p : Pool) (command : Command n)
  | hold (target name : String)

/-- The variable whose message gets a field. -/
def Action.fieldTarget? : Action → Option String
  | .operate _ _ (.addField target _) => some target
  | .operate _ _ (.addRole _ _ target _) => some target
  | _ => none

namespace Session

variable {s : Session} {a : Action} {k : Nat} {m : Message}

/-- The session after an action. An operation that fails leaves what it changed before it failed. -/
def act (s : Session) : Action → Session
  | .operate g p command => (s.step g p command).session
  | .hold target name => if (s.registry.messages.get? name).isSome then s.assign target (.registered name) else s

def after (s : Session) (actions : List Action) : Session := actions.foldl act s

theorem withVariable_registry {name : String} {f : Message → Response} (h : ∀ m, (f m).session.registry = s.registry) :
    (s.withVariable name f).session.registry = s.registry := by
  rw [withVariable]
  cases s.message? name with
  | none => rfl
  | some m => exact h m

/-- A changed message is put back where the variable has it, in the registry or outside of it. -/
theorem settle_cases (s : Session) (target : String) (change : Message → Except Failure Message) :
    let response := s.withVariable target fun m => s.settle target (change m)
    response.session.registry = s.registry ∨
      ∃ name m m', s.handle? target = some (.registered name) ∧ s.registry.messages.get? name = some m ∧
        change m = .ok m' ∧ response.session.registry = s.registry.amend name m' := by
  intro response
  cases hm : s.message? target with
  | none => exact .inl (by simp only [response, withVariable, hm, fail])
  | some m =>
    cases hchange : change m with
    | error e => exact .inl (by simp only [response, withVariable, hm, settle, hchange, fail])
    | ok m' =>
      have hresponse : response.session = s.replace target m' := by
        simp only [response, withVariable, hm, settle, hchange, ok]
      rw [hresponse, replace]
      cases hhandle : s.handle? target with
      | none => exact .inl rfl
      | some handle =>
        cases handle with
        | own own => exact .inl rfl
        | registered name =>
          -- The variable stands for what the registry has under the name, so that is what was changed.
          have hget : s.registry.messages.get? name = some m := by
            rw [message?, hhandle] at hm
            exact hm
          exact .inr ⟨name, m, m', rfl, hget, hchange, rfl⟩

/-- What is imported for the field stays, even if the field is refused. -/
theorem addRole_cases (s : Session) (pool : Pool) (r : Resource) (role : FieldRole) (target message : String) :
    let reg := (s.registry.run r.kind (role.imports pool r.kind)).registry
    let response := s.addRole pool r role target message
    response.session.registry = reg ∨
      ∃ name m f m', s.handle? target = some (.registered name) ∧ reg.messages.get? name = some m ∧
        m.add f = .ok m' ∧ response.session.registry = reg.amend name m' := by
  intro reg response
  dsimp only [response]
  rw [addRole]
  cases (s.registry.run r.kind (role.imports pool r.kind)).error with
  | some e => exact .inl rfl
  | none =>
    rcases settle_cases { s with registry := reg } target fun m =>
        (blame r.kind (m.add (role.field r (s.registry.fullName message)))).mapError .resource with
      hkeep | ⟨name, m, m', hhandle, hget, hadd, hreg⟩
    · exact .inl hkeep
    · rw [Attempt.mapError_eq_ok_iff, blame, Attempt.mapError_eq_ok_iff] at hadd
      exact .inr ⟨name, m, _, m', hhandle, hget, hadd, hreg⟩

theorem register_registry (s : Session) (source : String) :
    ∃ made, s.registry.Admits made ∧ (s.register source).session.registry = s.registry.extend made := by
  rw [register, withVariable]
  cases s.message? source with
  | none => exact ⟨[], trivial, rfl⟩
  | some m =>
    cases hadd : s.registry.addMessage m with
    | error why => exact ⟨[], trivial, by simp only [hadd]; rfl⟩
    | ok registry =>
      obtain ⟨hfree, rfl⟩ := Registry.enter_eq_ok_iff.mp (show s.registry.enter (.message m) = .ok registry from hadd)
      exact ⟨[.message m], ⟨hfree, trivial⟩, by simp only [hadd]; rfl⟩

theorem addRpc_registry (s : Session) (draft : RpcDraft) :
    ∃ made, s.registry.Admits made ∧ (s.addRpc draft).session.registry = s.registry.extend made := by
  rw [addRpc]
  split
  case h_1 r registry hadd =>
    obtain ⟨r', _, hmap⟩ := Attempt.bind_eq_ok_iff.mp hadd
    obtain ⟨registry', henter, heq⟩ := Attempt.map_eq_ok_iff.mp hmap
    obtain ⟨rfl, rfl⟩ := Prod.mk.inj heq
    obtain ⟨hfree, rfl⟩ := Registry.enter_eq_ok_iff.mp (show s.registry.enter (.rpc r') = .ok registry' from henter)
    exact ⟨[.rpc r'], ⟨hfree, trivial⟩, rfl⟩
  case h_2 why _ => exact ⟨[], trivial, rfl⟩

/-- A field is added to the message that is registered under a name, through a variable that holds it. -/
structure AddsField (s : Session) (a : Action) (reg : Registry) (name : String) (m m' : Message) : Prop where
  held : ∃ target, a.fieldTarget? = some target ∧ s.handle? target = some (.registered name)
  registered : reg.messages.get? name = some m
  added : ∃ f, m.add f = .ok m'

/-- What an action can do to the registry: it makes entries that the registry admits, and may then add a field to a
registered message. -/
theorem act_cases (s : Session) (a : Action) :
    (∃ made, s.registry.Admits made ∧ (s.act a).registry = s.registry.extend made) ∨
      ∃ made name m m', s.registry.Admits made ∧ s.AddsField a (s.registry.extend made) name m m' ∧
        (s.act a).registry = (s.registry.extend made).amend name m' := by
  cases a with
  | hold target name =>
    refine .inl ⟨[], trivial, ?_⟩
    rw [act]
    split_ifs <;> rfl
  | @operate n g p command =>
    cases command with
    | compile i =>
      have hreg := (g.compileInto_run p i s.registry).1
      obtain ⟨made, hadmits, hrun⟩ :=
        s.registry.run_registry (g.kind i) (g.site p i s.registry.package (g.kind i)).steps
      exact .inl ⟨made, hadmits, hreg.trans hrun⟩
    | generate i target =>
      refine .inl ⟨[], trivial, ?_⟩
      rw [act, step]
      split <;> rfl
    | define target draft =>
      refine .inl ⟨[], trivial, ?_⟩
      rw [act, step]
      split <;> rfl
    | addField target draft =>
      rcases s.settle_cases target fun m => (draft.build >>= m.add).mapError .rejected with
        hkeep | ⟨name, m, m', hhandle, hget, hadd, hreg⟩
      · exact .inl ⟨[], trivial, hkeep⟩
      · obtain ⟨f, _, hadd⟩ := Attempt.bind_eq_ok_iff.mp (Attempt.mapError_eq_ok_iff.mp hadd)
        exact .inr ⟨[], name, m, m', trivial, ⟨⟨target, rfl, hhandle⟩, hget, f, hadd⟩, hreg⟩
    | addRole role i target resource =>
      obtain ⟨made, hadmits, hrun⟩ :=
        s.registry.run_registry (g.resource i).kind (role.imports p (g.resource i).kind)
      have hcases :=
        s.addRole_cases p (g.resource i) role target (((resource.bind s.message?).map Message.name).getD "")
      rw [hrun] at hcases
      rcases hcases with hreg | ⟨name, m, f, m', hhandle, hget, hadd, hreg⟩
      · exact .inl ⟨made, hadmits, hreg⟩
      · exact .inr ⟨made, name, m, m', hadmits, ⟨⟨target, rfl, hhandle⟩, hget, f, hadd⟩, hreg⟩
    | addMethod method i resource =>
      rw [act, step, withVariable]
      cases s.message? resource with
      | none => exact .inl ⟨[], trivial, rfl⟩
      | some m => exact .inl (s.registry.run_registry _ _)
    | register source => exact .inl (s.register_registry source)
    | addRpc draft => exact .inl (s.addRpc_registry draft)
    | addImport file => exact .inl ⟨[.importFile file], ⟨trivial, trivial⟩, rfl⟩
    | importType i fullName => exact .inl (s.registry.run_registry _ _)
    | fullName name => exact .inl ⟨[], trivial, rfl⟩
    | message name => exact .inl ⟨[], trivial, rfl⟩
    | rpc name => exact .inl ⟨[], trivial, rfl⟩
    | field source name => exact .inl ⟨[], trivial, withVariable_registry fun _ => rfl⟩
    | fieldNumbers source => exact .inl ⟨[], trivial, withVariable_registry fun _ => rfl⟩
    | render => exact .inl ⟨[], trivial, rfl⟩
    | load => exact .inl ⟨[], trivial, rfl⟩

theorem act_consistent (h : s.registry.Consistent) (a : Action) : (s.act a).registry.Consistent := by
  rcases s.act_cases a with ⟨made, hadmits, hreg⟩ | ⟨made, name, m, m', hadmits, ⟨_, hget, _, hadd⟩, hreg⟩
  · rw [hreg]
    exact h.extend hadmits
  · have hextended := h.extend hadmits
    obtain ⟨_, rfl⟩ := Message.add_eq_ok_iff.mp hadd
    rw [hreg]
    exact hextended.amend (hextended.messages.get?_eq_some_iff.mp hget).2

/-- One action leaves a registered message as it is, unless it adds a field through a variable that holds it. -/
theorem act_messages (h : s.registry.Consistent) (a : Action) (hk : s.registry.messages.items[k]? = some m) :
    (s.act a).registry.messages.items[k]? = some m ∨
      ∃ target f m', a.fieldTarget? = some target ∧ s.handle? target = some (.registered m.name) ∧
        m.add f = .ok m' ∧ (s.act a).registry.messages.items[k]? = some m' := by
  rcases s.act_cases a with ⟨made, hadmits, hreg⟩ |
    ⟨made, name, m₀, m', hadmits, ⟨⟨target, htarget, hhandle⟩, hget, f, hadd⟩, hreg⟩
  · rw [hreg]
    exact .inl (Registry.messages_getElem?_extend hk)
  · have hextended := h.extend hadmits
    have hk' : (s.registry.extend made).messages.items[k]? = some m := Registry.messages_getElem?_extend hk
    rw [hreg, hextended.messages_getElem?_amend hk']
    split_ifs with hname
    · -- The name occurs once, so the message that gets the field is this one.
      obtain rfl := hname
      obtain rfl : m = m₀ := Option.some.inj ((hextended.messages.get?_of_getElem? hk').symm.trans hget)
      exact .inr ⟨target, f, m', htarget, hhandle, hadd, rfl⟩
    · exact .inl rfl

theorem act_grows (h : s.registry.Consistent) (a : Action) : s.registry.Grows (s.act a).registry := by
  obtain ⟨made, hrpcs, himports⟩ : ∃ made, (s.act a).registry.rpcs = (s.registry.extend made).rpcs ∧
      (s.act a).registry.imports = (s.registry.extend made).imports := by
    rcases s.act_cases a with ⟨made, _, hreg⟩ | ⟨made, _, _, _, _, _, hreg⟩
    · exact ⟨made, by rw [hreg], by rw [hreg]⟩
    · exact ⟨made, by rw [hreg, Registry.amend], by rw [hreg, Registry.amend]⟩
  refine ⟨fun k m hk => ?_, ?_, ?_⟩
  · rcases act_messages h a hk with hk' | ⟨_, f, m', _, _, hadd, hk'⟩
    · exact ⟨m, [], hk', rfl⟩
    · exact ⟨m', [f], hk', by rw [Message.addAll_singleton, hadd]⟩
  · rw [hrpcs, Registry.rpcs_items_extend]
    exact List.prefix_append _ _
  · rw [himports, Registry.imports_extend]
    exact List.prefix_append _ _

theorem after_upkeep (h : s.registry.Consistent) (actions : List Action) :
    (s.after actions).registry.Consistent ∧ s.registry.Grows (s.after actions).registry := by
  induction actions generalizing s with
  | nil => exact ⟨h, .refl _⟩
  | cons a actions ih =>
    obtain ⟨hconsistent, hgrows⟩ := ih (act_consistent h a)
    exact ⟨hconsistent, (act_grows h a).trans hgrows⟩

/-- In every state of a session the taken names are those of the records, each of them once, and each file is imported
once. Whatever is done later, the names of the messages, the RPCs and the imports stay where they are, with new ones
behind them. A lookup succeeds exactly for the names of records, and then gives the same record ever after, in the same
place. A message among them changes only in that fields are added to it through a variable that holds it. A further
record is accepted exactly if its name is new. -/
theorem registry_upkeep (package fileName service : String) (earlier later : List Action) :
    let s := after { registry := { package, fileName, service } } earlier
    let t := s.after later
    s.registry.Consistent ∧
    (s.registry.messages.names <+: t.registry.messages.names ∧ s.registry.rpcs.items <+: t.registry.rpcs.items ∧
      s.registry.imports <+: t.registry.imports) ∧
    (∀ name, ((s.registry.messages.get? name).isSome ↔ name ∈ s.registry.messages.names) ∧
      ((s.registry.rpcs.get? name).isSome ↔ name ∈ s.registry.rpcs.names)) ∧
    (∀ (k : Nat) (m : Message), s.registry.messages.items[k]? = some m →
      s.registry.messages.get? m.name = some m ∧
      ∃ fields, let m' := { m with fields := m.fields ++ fields }
        m.addAll fields = .ok m' ∧ t.registry.messages.items[k]? = some m' ∧
          t.registry.messages.get? m.name = some m') ∧
    (∀ (k : Nat) (r : Rpc), s.registry.rpcs.items[k]? = some r →
      s.registry.rpcs.get? r.name = some r ∧ t.registry.rpcs.items[k]? = some r ∧
        t.registry.rpcs.get? r.name = some r) ∧
    (∀ (a : Action) (k : Nat) (m : Message), s.registry.messages.items[k]? = some m →
      (s.act a).registry.messages.items[k]? = some m ∨
        ∃ target f m', a.fieldTarget? = some target ∧ s.handle? target = some (.registered m.name) ∧
          m.add f = .ok m' ∧ (s.act a).registry.messages.items[k]? = some m') ∧
    (∀ m, (∃ reg, s.registry.addMessage m = .ok reg ∧ reg.messages.items = s.registry.messages.items ++ [m]) ↔
      m.name ∉ s.registry.messages.names) ∧
    ∀ r, (∃ reg, s.registry.addRpc r = .ok reg ∧ reg.rpcs.items = s.registry.rpcs.items ++ [r]) ↔
      r.name ∉ s.registry.rpcs.names := by
  intro s t
  have hs : s.registry.Consistent := (after_upkeep (Registry.consistent_fresh package fileName service) earlier).1
  obtain ⟨ht, hgrows⟩ := after_upkeep hs later
  refine ⟨hs, ⟨hgrows.names, hgrows.rpcs, hgrows.imports⟩, fun _ => ⟨Table.isSome_get?_iff, Table.isSome_get?_iff⟩,
    ?_, ?_, fun a k m hk => act_messages hs a hk, hs.accepts_message_iff, hs.accepts_rpc_iff⟩
  · intro k m hk
    obtain ⟨m', fields, hk', hadd⟩ := hgrows.messages k m hk
    obtain rfl := Message.eq_of_addAll_eq_ok hadd
    exact ⟨hs.messages.get?_of_getElem? hk, fields, hadd, hk', ht.messages.get?_of_getElem? hk'⟩
  · intro k r hk
    have hk' := getElem?_of_isPrefix hgrows.rpcs hk
    exact ⟨hs.rpcs.get?_of_getElem? hk, hk', ht.rpcs.get?_of_getElem? hk'⟩

/-- Notes can only be read. -/
def notes : Graph 1 where
  resource _ := { kind := "Note", plural := "notes", type := "notes.example.com/Note", fields := []
                  methods := .ofList [.read] }
  parents _ := []

def notesCompiled : List Action := [.operate notes .standard (.compile 0)]

/-- Notes are compiled again, which fails, and their message gets a field once a variable holds it. A digest of them is
made by hand: a message that gets its field after it is registered, and an RPC. -/
def notesAmended : List Action := [
  .operate notes .standard (.compile 0),
  .hold "note" "Note",
  .operate notes .standard (.addRole .updateMask 0 "note" none),
  .operate notes .standard (.define "digest" { name := "Digest" }),
  .operate notes .standard (.register "digest"),
  .operate notes .standard (.addField "digest" { name := "length", number := 1, scalarType := some "int32" }),
  .operate notes .standard (.addRpc {
    name := "DigestNotes", inputType := "notes.v1.Digest", outputType := "notes.v1.Note"
    http := { verb := "post", path := "/notes:digest" } })]

def notesBefore : Session :=
  after { registry := { package := "notes.v1", fileName := "notes.proto", service := "Notes" } } notesCompiled

def notesAfter : Session := notesBefore.after notesAmended

/-- The note's message stays the first with one more field, and what is made by hand comes behind it. -/
theorem note_gets_mask :
    notesBefore.registry.messages.items[0]? = some { name := "Note", comment := "A Note resource." } ∧
      (∃ mask, mask.name = "update_mask" ∧
        notesAfter.registry.messages.items[0]? =
          some { name := "Note", comment := "A Note resource.", fields := [mask] } ∧
        notesAfter.registry.messages.get? "Note" =
          some { name := "Note", comment := "A Note resource.", fields := [mask] }) ∧
      notesAfter.registry.messages.names = ["Note", "GetNoteRequest", "Digest"] ∧
      ((notesAfter.registry.messages.get? "Digest").map fun m => m.fields.map Field.name) = some ["length"] ∧
      notesAfter.registry.rpcs.names = ["GetNote", "DigestNotes"] ∧
      notesAfter.registry.imports = ResourceApi.apiImports ++ ["google/protobuf/field_mask.proto"] := by
  have hnote : notesBefore.registry.messages.items[0]? = some { name := "Note", comment := "A Note resource." } := by
    decide +kernel
  obtain ⟨hnames, hrecords⟩ :
      (notesAfter.registry.messages.items[0]?.map fun m => m.fields.map Field.name) = some ["update_mask"] ∧
        notesAfter.registry.messages.names = ["Note", "GetNoteRequest", "Digest"] ∧
        ((notesAfter.registry.messages.get? "Digest").map fun m => m.fields.map Field.name) = some ["length"] ∧
        notesAfter.registry.rpcs.names = ["GetNote", "DigestNotes"] ∧
        notesAfter.registry.imports = ResourceApi.apiImports ++ ["google/protobuf/field_mask.proto"] := by
    decide +kernel
  have hupkeep := registry_upkeep "notes.v1" "notes.proto" "Notes" notesCompiled notesAmended
  dsimp only at hupkeep
  rw [← notesBefore, ← notesAfter] at hupkeep
  obtain ⟨_, _, _, hkept, _⟩ := hupkeep
  obtain ⟨_, fields, _, hitem, hget⟩ := hkept 0 _ hnote
  rw [hitem] at hnames
  obtain ⟨mask, rfl, hmask⟩ := List.map_eq_singleton_iff.mp (Option.some.inj hnames)
  exact ⟨hnote, ⟨mask, hmask, hitem, hget⟩, hrecords⟩

end Session

end ResourceApi
