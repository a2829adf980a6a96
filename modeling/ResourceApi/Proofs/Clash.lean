import ResourceApi.Proofs.Blame
import ResourceApi.Proofs.Compilation

/-!
Names that meet. An RPC is registered after the request that it takes, and the name of one determines that of the
other, so a call whose RPC would be taken has stopped at the request before. The messages of two calls meet only where
the kind of one of them does.
-/

namespace ResourceApi

theorem Method.messageName_ne_kind (m : Method) (role : MessageRole) (kind : String) :
    m.messageName role kind ≠ kind := by
  intro h
  have htitle : 0 < m.title.length := by cases m <;> decide
  have hlength := congrArg String.length h
  rw [messageName, String.length_append, String.length_append] at hlength
  omega

namespace Blueprint

variable {b : Blueprint} {pool : Pool} {r : Rpc} {made rest before after : List Entry}

theorem mem_messageNames_entries {name : String} :
    name ∈ Registry.messageNames (b.entries pool) ↔
      name = b.kind ∨ ∃ m ∈ b.resource.methods, ∃ role ∈ m.messageRoles, name = m.messageName role b.kind := by
  rw [Registry.messageNames, filterMap_message_entries, map_name_messages, List.mem_cons]
  simp only [List.mem_map, Prod.exists, mem_messageKeys, and_assoc, exists_and_left, eq_comm]

/-- A block does not repeat the name of a message. -/
theorem name_not_mem_of_message {x : Message} (h : b.entries pool = before ++ .message x :: after) :
    x.name ∉ Registry.messageNames before := by
  have hnodup : (Registry.messageNames (b.entries pool)).Nodup := by
    rw [Registry.messageNames, filterMap_message_entries, map_name_messages, List.nodup_cons]
    constructor
    · intro hkind
      obtain ⟨key, _, hname⟩ := List.mem_map.mp hkind
      exact key.1.messageName_ne_kind key.2 b.kind hname
    · apply b.nodup_messageKeys.map
      intro key key' hname
      obtain ⟨hm, hrole, _⟩ := Method.messageName_inj.mp hname
      exact Prod.ext hm hrole
  intro hbefore
  rw [h, Registry.messageNames, List.filterMap_append, List.map_append, List.nodup_append] at hnodup
  exact hnodup.2.2 _ hbefore _ List.mem_cons_self rfl

/-- A block does not repeat the name of an RPC. -/
theorem name_not_mem_of_rpc (h : b.entries pool = before ++ .rpc r :: after) : r.name ∉ Registry.rpcNames before := by
  have hnodup : (Registry.rpcNames (b.entries pool)).Nodup := by
    rw [Registry.rpcNames, filterMap_rpc_entries, map_name_rpcs]
    apply b.nodup_methods.map
    intro m m' hname
    exact (Method.rpcName_inj.mp hname).1
  intro hbefore
  rw [h, Registry.rpcNames, List.filterMap_append, List.map_append, List.nodup_append] at hnodup
  exact hnodup.2.2 _ hbefore _ List.mem_cons_self rfl

/-- Each RPC of a block stands behind its request. -/
theorem request_before_rpc (h : b.entries pool = before ++ .rpc r :: after) :
    ∃ m, r = b.rpc m ∧ .message (b.request m) ∈ before := by
  cases before with
  | nil => cases h
  | cons own before =>
    obtain ⟨_, hmethods⟩ := List.cons.inj h
    obtain ⟨_, m, _, inner, rest, _, hm, rfl⟩ := exists_of_flatMap_eq_append_cons hmethods
    rw [methodEntries] at hm
    -- The RPC is the last entry of its method, and the only one that is an RPC.
    rcases List.eq_nil_or_concat rest with rfl | ⟨rest, e, rfl⟩
    · obtain ⟨hinner, hlast⟩ := List.append_inj' hm rfl
      obtain rfl := Entry.rpc.inj (List.singleton_injective hlast)
      refine ⟨m, rfl, List.mem_cons_of_mem _ (List.mem_append_right _ ?_)⟩
      rw [← hinner]
      exact List.mem_append_right _ (List.mem_map_of_mem (mem_methodMessages.mpr (.inl rfl)))
    · rw [List.concat_eq_append, ← List.cons_append, ← List.append_assoc] at hm
      obtain ⟨hinner, _⟩ := List.append_inj' hm rfl
      have hmem : .rpc r ∈ (m.wellKnown.map fun type => Entry.importFile (pool.home type)) ++
          (b.methodMessages m).map Entry.message := by
        rw [hinner]
        exact List.mem_append_right _ List.mem_cons_self
      simp at hmem

/-- The kind is the first name of a block. -/
theorem kind_mem_of_front (h : made <+: b.entries pool) (hne : made ≠ []) : b.kind ∈ Registry.messageNames made := by
  cases made with
  | nil => exact absurd rfl hne
  | cons own made =>
    obtain ⟨rest, hrest⟩ := h
    obtain ⟨rfl, _⟩ := List.cons.inj hrest
    exact List.mem_cons_self

theorem request_mem_of_front {name : String} (h : made <+: b.entries pool) (hname : name ∈ Registry.rpcNames made) :
    ∃ m, name = Method.rpcName m b.kind ∧ m.messageName .request b.kind ∈ Registry.messageNames made := by
  obtain ⟨r, hr, rfl⟩ := Registry.mem_rpcNames.mp hname
  obtain ⟨before, after, rfl⟩ := List.append_of_mem hr
  obtain ⟨rest, hrest⟩ := h
  rw [List.append_assoc] at hrest
  obtain ⟨m, rfl, hm⟩ := request_before_rpc hrest.symm
  exact ⟨m, rfl, Registry.mem_messageNames.mpr ⟨b.request m, List.mem_append_left _ hm, rfl⟩⟩

end Blueprint

/-- A call on a registry: the resource of a graph that is compiled into it, and the pool that it is compiled with. -/
structure Call where
  size : Nat
  graph : Graph size
  pool : Pool
  index : Fin size

namespace Call

def kind (call : Call) : String := call.graph.kind call.index

def blueprint (call : Call) (package : String) : Blueprint := call.graph.blueprint package call.index

def outcome (call : Call) (reg : Registry) : Outcome := call.graph.compileInto call.pool call.index reg

/-- The name belongs to a request or a response of one of the resource's methods. -/
def Generates (call : Call) (name : String) : Prop :=
  ∃ m ∈ (call.graph.resource call.index).methods, ∃ role ∈ m.messageRoles, name = m.messageName role call.kind

theorem mem_messageNames {call : Call} {package name : String} :
    name ∈ Registry.messageNames ((call.blueprint package).entries call.pool) ↔
      name = call.kind ∨ call.Generates name :=
  Blueprint.mem_messageNames_entries

theorem Generates.ne_kind {call : Call} {name : String} (h : call.Generates name) : name ≠ call.kind := by
  obtain ⟨m, _, role, _, rfl⟩ := h
  exact m.messageName_ne_kind role call.kind

/-- Generated names meet only where the kinds that they are made from do. -/
theorem Generates.kind_eq {call other : Call} {name : String} (h : call.Generates name)
    (hother : other.Generates name) : call.kind = other.kind := by
  obtain ⟨m, _, role, _, hname⟩ := h
  obtain ⟨m', _, role', _, hname'⟩ := hother
  exact (Method.messageName_inj.mp (hname.symm.trans hname')).2.2

end Call

namespace Registry

variable {reg : Registry} {calls : List Call} {call : Call} {made rest : List Entry}

/-- The registry after calls one after another, whether they fail or not. -/
def afterCalls (reg : Registry) (calls : List Call) : Registry :=
  calls.foldl (fun reg call => (call.outcome reg).registry) reg

/-- Each name of a message comes from a call whose kind is registered as well, and each name of an RPC has the name of
its request beside it. -/
structure Traced (reg : Registry) (calls : List Call) : Prop where
  messages : ∀ name ∈ reg.messages.taken, ∃ call ∈ calls,
    (name = call.kind ∨ call.Generates name) ∧ call.kind ∈ reg.messages.taken
  rpcs : ∀ name ∈ reg.rpcs.taken, ∃ m kind,
    name = Method.rpcName m kind ∧ m.messageName .request kind ∈ reg.messages.taken

theorem traced_fresh (package fileName service : String) : Traced { package, fileName, service } [] where
  messages _ h := absurd h List.not_mem_nil
  rpcs _ h := absurd h List.not_mem_nil

/-- A call keeps track of its names wherever it stops. -/
theorem Traced.outcome (h : reg.Traced calls) (call : Call) :
    (call.outcome reg).registry.Traced (calls ++ [call]) := by
  obtain ⟨made, rest, hsplit, hreg, _⟩ := call.graph.compileInto_registry call.pool call.index reg
  have hfront : made <+: (call.blueprint reg.package).entries call.pool := ⟨rest, hsplit.symm⟩
  rw [Call.outcome, hreg]
  constructor
  · intro name hname
    simp only [mem_messages_taken_extend] at hname ⊢
    rcases hname with hname | hname
    · obtain ⟨m, hm, rfl⟩ := mem_messageNames.mp hname
      refine ⟨call, by simp, ?_, .inl (Blueprint.kind_mem_of_front hfront (List.ne_nil_of_mem hm))⟩
      exact Call.mem_messageNames.mp (mem_messageNames.mpr ⟨m, hfront.subset hm, rfl⟩)
    · obtain ⟨earlier, hearlier, hnames, hkind⟩ := h.messages name hname
      exact ⟨earlier, by simp [hearlier], hnames, .inr hkind⟩
  · intro name hname
    simp only [mem_rpcs_taken_extend, mem_messages_taken_extend] at hname ⊢
    rcases hname with hname | hname
    · obtain ⟨m, hm, hrequest⟩ := Blueprint.request_mem_of_front hfront hname
      exact ⟨m, _, hm, .inl hrequest⟩
    · obtain ⟨m, kind, hm, hrequest⟩ := h.rpcs name hname
      exact ⟨m, kind, hm, .inr hrequest⟩

theorem Traced.afterCalls {earlier : List Call} (h : reg.Traced earlier) (calls : List Call) :
    (reg.afterCalls calls).Traced (earlier ++ calls) := by
  induction calls generalizing reg earlier with
  | nil =>
    rw [List.append_nil]
    exact h
  | cons call calls ih =>
    rw [← List.singleton_append, ← List.append_assoc]
    exact ih (h.outcome call)

/-- When a call comes to an RPC, its name is not taken. -/
theorem Traced.rpc_free {r : Rpc} (h : reg.Traced calls) (hadmits : reg.Admits made)
    (hsplit : (call.blueprint reg.package).entries call.pool = made ++ .rpc r :: rest) :
    r.name ∉ (reg.extend made).rpcs.taken := by
  intro htaken
  obtain ⟨m, rfl, hrequest⟩ := Blueprint.request_before_rpc hsplit
  obtain ⟨⟨_, hfresh⟩, _⟩ := admits_iff.mp hadmits
  rcases mem_rpcs_taken_extend.mp htaken with hown | hother
  · exact Blueprint.name_not_mem_of_rpc hsplit hown
  · obtain ⟨m', kind', hname, htaken'⟩ := h.rpcs _ hother
    obtain ⟨rfl, rfl⟩ := Method.rpcName_inj.mp hname
    exact hfresh _ (mem_messageNames.mpr ⟨_, hrequest, rfl⟩) htaken'

/-- A call stops at a message because its kind is registered or generated already, or because its message has the kind
of an earlier call. Two generated names do not meet, since the kinds they are made from would have met before. -/
theorem Traced.message_taken {x : Message} (h : reg.Traced calls) (hadmits : reg.Admits made)
    (hsplit : (call.blueprint reg.package).entries call.pool = made ++ .message x :: rest)
    (htaken : x.name ∈ (reg.extend made).messages.taken) :
    x.name ∈ reg.messages.taken ∧
      ∃ earlier ∈ calls, (x.name = call.kind ∧ (x.name = earlier.kind ∨ earlier.Generates x.name)) ∨
        (call.Generates x.name ∧ x.name = earlier.kind) := by
  obtain ⟨⟨_, hfresh⟩, _⟩ := admits_iff.mp hadmits
  have hreg : x.name ∈ reg.messages.taken :=
    (mem_messages_taken_extend.mp htaken).resolve_left (Blueprint.name_not_mem_of_message hsplit)
  have hx : x.name = call.kind ∨ call.Generates x.name :=
    Call.mem_messageNames.mp (mem_messageNames.mpr ⟨x, by rw [hsplit]; simp, rfl⟩)
  obtain ⟨earlier, hearlier, hnames, hkind⟩ := h.messages x.name hreg
  refine ⟨hreg, earlier, hearlier, ?_⟩
  rcases hx with hx | hx
  · exact .inl ⟨hx, hnames⟩
  · rcases hnames with hnames | hnames
    · exact .inr ⟨hx, hnames⟩
    · have hne : made ≠ [] := by
        rintro rfl
        obtain ⟨hown, _⟩ := List.cons.inj hsplit
        obtain rfl := Entry.message.inj hown
        exact hx.ne_kind rfl
      rw [← hx.kind_eq hnames] at hkind
      exact absurd hkind (hfresh call.kind (Blueprint.kind_mem_of_front ⟨_, hsplit.symm⟩ hne))

/-- Names of RPCs and of generated messages tell all their parts, and no sequence of calls on a fresh registry comes to
an RPC whose name is taken. Where a call fails over a name, it is the name of a message that belongs to an earlier
call too, and it is the kind of one of the two. -/
theorem clashes_are_on_messages (package fileName service : String) (calls : List Call) (call : Call) :
    let reg := afterCalls { package, fileName, service } calls
    (Function.Injective fun key : Method × String => key.1.rpcName key.2) ∧
    (Function.Injective fun key : Method × MessageRole × String => key.1.messageName key.2.1 key.2.2) ∧
    (∀ kind rpc service', (call.outcome reg).error ≠ some ⟨kind, .rejected (.rpcTaken rpc service')⟩) ∧
    ∀ kind name file, (call.outcome reg).error = some ⟨kind, .rejected (.messageTaken name file)⟩ →
      kind = call.kind ∧ name ∈ reg.messages.taken ∧
        ∃ earlier ∈ calls, (name = call.kind ∧ (name = earlier.kind ∨ earlier.Generates name)) ∨
          (call.Generates name ∧ name = earlier.kind) := by
  intro reg
  have htraced : reg.Traced calls := (traced_fresh package fileName service).afterCalls calls
  refine ⟨?_, ?_, ?_, ?_⟩
  · intro key key' hname
    obtain ⟨hm, hkind⟩ := Method.rpcName_inj.mp hname
    exact Prod.ext hm hkind
  · intro key key' hname
    obtain ⟨hm, hrole, hkind⟩ := Method.messageName_inj.mp hname
    exact Prod.ext hm (Prod.ext hrole hkind)
  · intro kind rpc service' herror
    obtain ⟨_, made, e, rest, hadmits, hsplit, henter⟩ := Graph.refused_of_not_ofField herror nofun
    rcases taken_of_enter_eq_error henter with ⟨_, _, _, hwhy⟩ | ⟨r, rfl, htaken, _⟩
    · cases hwhy
    · exact htraced.rpc_free hadmits hsplit htaken
  · intro kind name file herror
    obtain ⟨hkind, made, e, rest, hadmits, hsplit, henter⟩ := Graph.refused_of_not_ofField herror nofun
    rcases taken_of_enter_eq_error henter with ⟨x, rfl, htaken, hwhy⟩ | ⟨_, _, _, hwhy⟩
    · obtain ⟨rfl, _⟩ := Rejection.messageTaken.inj hwhy
      exact ⟨hkind, htraced.message_taken hadmits hsplit htaken⟩
    · cases hwhy

end Registry

/-- A book that can be read, and a resource of the kind that the request for it has. -/
def Graph.echoes : Graph 2 where
  resource i := match i with
    | 0 => { kind := "Book", plural := "books", type := "example.com/Book", fields := [], methods := .ofList [.read] }
    | 1 => { kind := "GetBookRequest", plural := "requests", type := "example.com/Request", fields := []
             methods := .ofList [] }
  parents _ := []

/-- The second call clashes with a message that the first has generated. -/
theorem Graph.echoes_clash_on_request :
    let reg : Registry := { package := "books.v1", fileName := "books.proto", service := "Books" }
    let book : Call := ⟨2, echoes, .standard, 0⟩
    let request : Call := ⟨2, echoes, .standard, 1⟩
    (request.outcome (reg.afterCalls [book])).error =
        some ⟨"GetBookRequest", .rejected (.messageTaken "GetBookRequest" "books.proto")⟩ ∧
      book.Generates "GetBookRequest" := by
  intro reg book request
  have herror : (request.outcome (reg.afterCalls [book])).error =
      some ⟨"GetBookRequest", .rejected (.messageTaken "GetBookRequest" "books.proto")⟩ := by decide +kernel
  obtain ⟨_, _, _, hclash⟩ := Registry.clashes_are_on_messages "books.v1" "books.proto" "Books" [book] request
  obtain ⟨_, _, earlier, hearlier, hnames⟩ := hclash _ _ _ herror
  obtain rfl := List.mem_singleton.mp hearlier
  have hkind : "GetBookRequest" ≠ book.kind := by decide
  rcases hnames with ⟨_, hnames⟩ | ⟨_, hnames⟩
  · exact ⟨herror, hnames.resolve_left hkind⟩
  · exact absurd hnames hkind

end ResourceApi
