import ResourceApi.Proofs.Compilation

/-!
References between messages, RPCs and imports. Whatever calls have been made on a registry, and wherever they have
stopped, each type that it refers to is registered or imported.
-/

namespace ResourceApi

/-- The types that an entry refers to, by full name. -/
def Entry.references : Entry → List String
  | .importFile _ => []
  | .message m => m.fields.filterMap fun f => match f.type with
    | .scalar _ => none
    | .message type => some type
  | .rpc r => [r.inputType, r.outputType]

namespace Registry

variable {reg : Registry} {e : Entry} {es es' : List Entry} {type : String}

/-- The type is a registered message, or a well-known one whose file is imported. -/
def Resolves (reg : Registry) (type : String) : Prop :=
  (∃ m ∈ reg.messages.items, type = reg.fullName m.name) ∨
    (type = "google.protobuf.FieldMask" ∧ "google/protobuf/field_mask.proto" ∈ reg.imports) ∨
    (type = "google.protobuf.Empty" ∧ "google/protobuf/empty.proto" ∈ reg.imports)

/-- No type is referred to that does not resolve. -/
structure Closed (reg : Registry) : Prop where
  fields : ∀ m ∈ reg.messages.items, ∀ f ∈ m.fields, ∀ type, f.type = .message type → reg.Resolves type
  rpcs : ∀ r ∈ reg.rpcs.items, reg.Resolves r.inputType ∧ reg.Resolves r.outputType

theorem mem_imports_extend {file : String} :
    file ∈ (reg.extend es).imports ↔ file ∈ reg.imports ∨ file ∈ es.filterMap Entry.file? := by
  rw [imports_extend, List.mem_append, List.mem_eraseDups, List.mem_filter]
  by_cases h : file ∈ reg.imports <;> simp [h]

theorem resolves_message (es : List Entry) {m : Message} (hm : m ∈ es.filterMap Entry.message?) :
    (reg.extend es).Resolves (reg.fullName m.name) := by
  refine .inl ⟨m, ?_, by simp only [fullName, package_extend]⟩
  rw [messages_items_extend]
  exact List.mem_append_right _ hm

theorem Resolves.extend (h : reg.Resolves type) (es : List Entry) : (reg.extend es).Resolves type := by
  rcases h with ⟨m, hm, rfl⟩ | ⟨rfl, hfile⟩ | ⟨rfl, hfile⟩
  · refine .inl ⟨m, ?_, by simp only [fullName, package_extend]⟩
    rw [messages_items_extend]
    exact List.mem_append_left _ hm
  · exact .inr (.inl ⟨rfl, mem_imports_extend.mpr (.inl hfile)⟩)
  · exact .inr (.inr ⟨rfl, mem_imports_extend.mpr (.inl hfile)⟩)

/-- What the entry refers to resolves before the entry is made. -/
def Supplies (reg : Registry) (e : Entry) : Prop := ∀ type ∈ e.references, reg.Resolves type

theorem Closed.put (h : reg.Closed) (he : reg.Supplies e) : (reg.put e).Closed where
  fields m hm f hf type htype := by
    rw [messages_items_put, List.mem_append] at hm
    refine Resolves.extend ?_ [e]
    rcases hm with hm | hm
    · exact h.fields m hm f hf type htype
    · cases e with
      | message m' =>
        obtain rfl := List.mem_singleton.mp hm
        exact he type (List.mem_filterMap.mpr ⟨f, hf, by rw [htype]⟩)
      | importFile file => cases hm
      | rpc r => cases hm
  rpcs r hr := by
    rw [rpcs_items_put, List.mem_append] at hr
    have hresolves : reg.Resolves r.inputType ∧ reg.Resolves r.outputType := by
      rcases hr with hr | hr
      · exact h.rpcs r hr
      · cases e with
        | rpc r' =>
          obtain rfl := List.mem_singleton.mp hr
          exact ⟨he _ (by simp [Entry.references]), he _ (by simp [Entry.references])⟩
        | importFile file => cases hr
        | message m => cases hr
    exact ⟨hresolves.1.extend [e], hresolves.2.extend [e]⟩

/-- What an entry refers to resolves once those before it are made. -/
def SuppliesAll (reg : Registry) : List Entry → Prop
  | [] => True
  | e :: es => reg.Supplies e ∧ (reg.put e).SuppliesAll es

theorem suppliesAll_append :
    reg.SuppliesAll (es ++ es') ↔ reg.SuppliesAll es ∧ (reg.extend es).SuppliesAll es' := by
  induction es generalizing reg with
  | nil => simp [SuppliesAll]
  | cons e es ih => simp only [List.cons_append, SuppliesAll, ih, extend_cons, and_assoc]

theorem suppliesAll_of_forall (h : ∀ e ∈ es, reg.Supplies e) : reg.SuppliesAll es := by
  induction es generalizing reg with
  | nil => trivial
  | cons e es ih =>
    obtain ⟨he, hes⟩ := List.forall_mem_cons.mp h
    exact ⟨he, ih fun e' he' type htype => (hes e' he' type htype).extend [e]⟩

theorem Closed.extend (h : reg.Closed) (hes : reg.SuppliesAll es) : (reg.extend es).Closed := by
  induction es generalizing reg with
  | nil => exact h
  | cons e es ih => exact ih (h.put hes.1) hes.2

end Registry

namespace Blueprint

variable {b : Blueprint} {pool : Pool} {reg : Registry} {m : Method}

theorem field_references (roles : List FieldRole) {type : String}
    (h : type ∈ (roles.map b.field).filterMap fun f => match f.type with
      | .scalar _ => none
      | .message type => some type) :
    type = fullName b.package b.kind ∨ (type = "google.protobuf.FieldMask" ∧ .updateMask ∈ roles) := by
  rw [List.filterMap_map, List.mem_filterMap] at h
  obtain ⟨role, hrole, h⟩ := h
  cases role with
  | resource | results => exact .inl (Option.some.inj h).symm
  | updateMask => exact .inr ⟨(Option.some.inj h).symm, hrole⟩
  | parent | id | path | pageToken | nextPageToken | maxPageSize => cases h

theorem supplies_ownMessage (r : Resource) : reg.Supplies (.message r.ownMessage) := by
  intro type htype
  obtain ⟨f, hf, htype⟩ := List.mem_filterMap.mp htype
  obtain ⟨p, _, hp⟩ := List.mem_filterMap.mp hf
  obtain ⟨_, _, rfl⟩ := Option.map_eq_some_iff.mp hp
  cases htype

/-- The messages of a method refer to the resource's message and to what the method imports. -/
theorem supplies_methodMessages (hpool : pool.HasWellKnown) (hkind : reg.Resolves (fullName b.package b.kind))
    (himports : ∀ type ∈ m.wellKnown, pool.home type ∈ reg.imports) {x : Message} (hx : x ∈ b.methodMessages m) :
    reg.Supplies (.message x) := by
  intro type htype
  rcases mem_methodMessages.mp hx with rfl | ⟨_, rfl⟩
  · rcases field_references m.row.request htype with rfl | ⟨rfl, hmask⟩
    · exact hkind
    · exact .inr (.inl ⟨rfl, hpool.home_fieldMask ▸ himports _ (by simp [Method.wellKnown, hmask])⟩)
  · rcases field_references [.results, .nextPageToken] htype with rfl | ⟨_, hmask⟩
    · exact hkind
    · simp at hmask

theorem supplies_rpc (hpool : pool.HasWellKnown) (hkind : reg.Resolves (fullName b.package b.kind))
    (himports : ∀ type ∈ m.wellKnown, pool.home type ∈ reg.imports)
    (hmessages : ∀ x ∈ b.methodMessages m, reg.Resolves (fullName b.package x.name)) :
    reg.Supplies (.rpc (b.rpc m)) := by
  have hinput : reg.Resolves (b.rpc m).inputType := hmessages (b.request m) (mem_methodMessages.mpr (.inl rfl))
  have houtput : reg.Resolves (b.rpc m).outputType := by
    change reg.Resolves (b.answerType m)
    unfold answerType
    split
    next => exact hkind
    next h => exact hmessages (b.page m) (mem_methodMessages.mpr (.inr ⟨h, rfl⟩))
    next h => exact .inr (.inr ⟨rfl, hpool.home_empty ▸ himports _ (by simp [Method.wellKnown, h])⟩)
  intro type htype
  rcases List.mem_pair.mp htype with rfl | rfl
  · exact hinput
  · exact houtput

/-- A method imports and registers before it refers. -/
theorem suppliesAll_methodEntries (hpool : pool.HasWellKnown) (hpackage : reg.package = b.package)
    (hkind : reg.Resolves (fullName b.package b.kind)) (m : Method) : reg.SuppliesAll (b.methodEntries pool m) := by
  have himports (es : List Entry) : ∀ type ∈ m.wellKnown, pool.home type ∈
      (reg.extend ((m.wellKnown.map fun type => .importFile (pool.home type)) ++ es)).imports := by
    intro type htype
    refine Registry.mem_imports_extend.mpr (.inr (List.mem_filterMap.mpr ⟨.importFile (pool.home type), ?_, rfl⟩))
    exact List.mem_append_left _ (List.mem_map_of_mem htype)
  rw [methodEntries, Registry.suppliesAll_append, Registry.suppliesAll_append]
  refine ⟨⟨?_, ?_⟩, ?_⟩
  · refine Registry.suppliesAll_of_forall (List.forall_mem_map.mpr fun _ _ type htype => ?_)
    cases htype
  · refine Registry.suppliesAll_of_forall (List.forall_mem_map.mpr fun x hx => ?_)
    exact supplies_methodMessages hpool (hkind.extend _) (by simpa using himports []) hx
  · refine Registry.suppliesAll_of_forall (List.forall_mem_singleton.mpr ?_)
    refine supplies_rpc hpool (hkind.extend _) (himports _) fun x hx => ?_
    rw [← hpackage]
    exact Registry.resolves_message _ (by simpa [Entry.message?] using hx)

theorem suppliesAll_entries (hpool : pool.HasWellKnown) (hpackage : reg.package = b.package) :
    reg.SuppliesAll (b.entries pool) := by
  have hmethods (ms : List Method) {reg : Registry} (hpackage : reg.package = b.package)
      (hkind : reg.Resolves (fullName b.package b.kind)) : reg.SuppliesAll (ms.flatMap (b.methodEntries pool)) := by
    induction ms generalizing reg with
    | nil => trivial
    | cons m ms ih =>
      rw [List.flatMap_cons, Registry.suppliesAll_append]
      exact ⟨suppliesAll_methodEntries hpool hpackage hkind m, ih (by simpa using hpackage) (hkind.extend _)⟩
  refine ⟨supplies_ownMessage b.resource, hmethods b.methods (by simpa using hpackage) ?_⟩
  rw [← hpackage]
  exact Registry.resolves_message [.message b.resource.ownMessage] List.mem_cons_self

private theorem flatMap_filter_eq {α β : Type} (p : α → Bool) (f : α → List β) (as : List α) :
    (as.filter p).flatMap f = as.flatMap fun a => if p a then f a else [] := by
  induction as with
  | nil => rfl
  | cons a as ih =>
    rw [List.flatMap_cons, ← ih, List.filter_cons]
    split_ifs <;> simp

theorem imports_eq (hpool : pool.HasWellKnown) (b : Blueprint) :
    b.imports pool = (if .update ∈ b.resource.methods then ["google/protobuf/field_mask.proto"] else []) ++
      if .delete ∈ b.resource.methods then ["google/protobuf/empty.proto"] else [] := by
  rw [imports, methods, flatMap_filter_eq]
  simp [Method.wellKnown, Method.row, hpool.home_fieldMask, hpool.home_empty]

end Blueprint

/-- Registries that calls on a fresh one reach with a pool, whether they fail or not. A call is also looked at after
each of its steps, and the resources may change between calls. -/
inductive Registry.Reached (pool : Pool) : Registry → Prop where
  | fresh (package fileName service : String) : Reached pool { package, fileName, service }
  | call {reg : Registry} {n : Nat} (g : Graph n) (i : Fin n) :
      reg.Reached pool → Reached pool (g.compileInto pool i reg).registry
  | within {reg : Registry} {n : Nat} (g : Graph n) (i : Fin n) (k : Nat) : reg.Reached pool →
      Reached pool (reg.run (g.kind i) ((g.site pool i reg.package (g.kind i)).steps.take k)).registry

namespace Registry

variable {pool : Pool} {reg : Registry}

/-- A block can be left after any of its entries. -/
theorem Closed.extend_front (hpool : pool.HasWellKnown) (h : reg.Closed) {n : Nat} {g : Graph n} {i : Fin n}
    {made : List Entry} (hfront : made <+: (g.blueprint reg.package i).entries pool) : (reg.extend made).Closed := by
  obtain ⟨rest, hrest⟩ := hfront
  have hall : reg.SuppliesAll ((g.blueprint reg.package i).entries pool) := Blueprint.suppliesAll_entries hpool rfl
  rw [← hrest, suppliesAll_append] at hall
  exact h.extend hall.1

theorem Reached.closed (hpool : pool.HasWellKnown) (h : reg.Reached pool) : reg.Closed := by
  induction h with
  | fresh => exact ⟨fun _ hm => absurd hm List.not_mem_nil, fun _ hr => absurd hr List.not_mem_nil⟩
  | @call reg n g i _ ih =>
    obtain ⟨made, rest, hsplit, hreg, _⟩ := g.compileInto_registry pool i reg
    rw [hreg]
    exact ih.extend_front hpool ⟨rest, hsplit.symm⟩
  | @within reg n g i k _ ih =>
    have hyield := List.forall₂_take k (Site.steps_yield g pool i reg.package)
    obtain ⟨made, rest, hsplit, hreg, _⟩ := reg.run_of_yields (g.kind i) hyield
    have hfront : made <+: ((g.blueprint reg.package i).entries pool).take k := ⟨rest, hsplit.symm⟩
    rw [hreg]
    exact ih.extend_front hpool (hfront.trans (List.take_prefix k _))

end Registry

namespace Graph

variable {n : Nat} {g : Graph n} {i : Fin n} {ordered : List (Fin n)}

/-- The files that a resource asks for besides those that every file imports. -/
def wellKnownImports (g : Graph n) (i : Fin n) : List String :=
  (if .update ∈ (g.resource i).methods then ["google/protobuf/field_mask.proto"] else []) ++
    if .delete ∈ (g.resource i).methods then ["google/protobuf/empty.proto"] else []

theorem mem_wellKnownImports {file : String} :
    file ∈ g.wellKnownImports i ↔
      (file = "google/protobuf/field_mask.proto" ∧ .update ∈ (g.resource i).methods) ∨
        (file = "google/protobuf/empty.proto" ∧ .delete ∈ (g.resource i).methods) := by
  simp only [wellKnownImports, List.mem_append, List.mem_ite_nil_right, List.mem_singleton, and_comm]

theorem mem_flatMap_wellKnownImports {file : String} :
    file ∈ ordered.flatMap g.wellKnownImports ↔
      (file = "google/protobuf/field_mask.proto" ∧ ∃ i ∈ ordered, .update ∈ (g.resource i).methods) ∨
        (file = "google/protobuf/empty.proto" ∧ ∃ i ∈ ordered, .delete ∈ (g.resource i).methods) := by
  simp only [List.mem_flatMap, mem_wellKnownImports, and_or_left, exists_or, and_left_comm, exists_and_left]

theorem not_mem_apiImports {file : String} (h : file ∈ ordered.flatMap g.wellKnownImports) : file ∉ apiImports := by
  rcases mem_flatMap_wellKnownImports.mp h with ⟨rfl, _⟩ | ⟨rfl, _⟩ <;> decide

/-- None of the files is among those that are imported anyway. -/
theorem compilation_imports_eq {pool : Pool} (hpool : pool.HasWellKnown) (g : Graph n) (c : Config)
    (is : List (Fin n)) :
    (g.compilation pool c is).file.imports = apiImports ++ (is.flatMap g.wellKnownImports).eraseDups := by
  have hblocks : (is.flatMap fun i => (g.blueprint c.package i).imports pool) = is.flatMap g.wellKnownImports := by
    simp only [Blueprint.imports_eq hpool]
    rfl
  rw [compilation_imports, hblocks, List.filter_eq_self.mpr]
  exact fun file hfile => decide_eq_true (not_mem_apiImports hfile)

theorem nodup_compilation_imports (g : Graph n) (pool : Pool) (c : Config) (is : List (Fin n)) :
    (g.compilation pool c is).file.imports.Nodup := by
  rw [compilation_imports]
  refine List.nodup_append.mpr ⟨by decide, nodup_eraseDups _, fun file hfile file' hfile' heq => ?_⟩
  have hother : file' ∉ apiImports := by simpa using (List.mem_filter.mp (List.mem_eraseDups.mp hfile')).2
  exact hother (heq ▸ hfile)

/-- No call leaves a reference behind that does not resolve, and a compiled file imports what its resources ask for in
the order of its first use. -/
theorem references_resolve {pool : Pool} (hpool : pool.HasWellKnown) :
    (∀ reg : Registry, reg.Reached pool → reg.Closed) ∧
    ∀ {n : Nat} (g : Graph n) (request : List (Fin n)) (c : Config) (result : Compilation),
      g.compile pool request c = .ok result →
        (∃ ordered, g.order request = .ok ordered ∧
          result.file.imports =
            ["google/api/annotations.proto", "google/api/client.proto", "google/api/field_behavior.proto",
              "google/api/resource.proto"] ++ (ordered.flatMap g.wellKnownImports).eraseDups) ∧
        result.file.imports.Nodup ∧
        ("google/protobuf/field_mask.proto" ∈ result.file.imports ↔
          ∃ i ∈ request, .update ∈ (g.resource i).methods) ∧
        ("google/protobuf/empty.proto" ∈ result.file.imports ↔
          ∃ i ∈ request, .delete ∈ (g.resource i).methods) := by
  refine ⟨fun reg h => h.closed hpool, fun g request c result h => ?_⟩
  obtain ⟨_, ordered, horder, rfl⟩ := compile_eq_ok_iff.mp h
  have himports := g.compilation_imports_eq hpool c ordered
  have hmem (file : String) (hother : file ∉ apiImports) : file ∈ (g.compilation pool c ordered).file.imports ↔
      file ∈ ordered.flatMap g.wellKnownImports := by
    rw [himports, List.mem_append, List.mem_eraseDups, or_iff_right hother]
  refine ⟨⟨ordered, horder, himports⟩, g.nodup_compilation_imports pool c ordered, ?_, ?_⟩
  · rw [hmem _ (by decide), mem_flatMap_wellKnownImports]
    simp [mem_order_iff horder]
  · rw [hmem _ (by decide), mem_flatMap_wellKnownImports]
    simp [mem_order_iff horder]

/-- Books are compiled twice on one registry, although their names are taken the second time. -/
theorem bookstore_references :
    ((bookstore.compileInto .standard 1 (bookstore.compileInto .standard 1
      { package := "bookstore.v1", fileName := "api.proto", service := "Bookstore" }).registry).registry).Closed ∧
    ∃ result, bookstore.compile .standard [1, 0, 1] ⟨"Bookstore", "bookstore.v1", none⟩ = .ok result ∧
      "google/protobuf/field_mask.proto" ∈ result.file.imports := by
  obtain ⟨hclosed, hcompile⟩ := references_resolve Pool.standard_hasWellKnown
  obtain ⟨result, h⟩ := bookstore_compiles _
  obtain ⟨_, _, hmask, _⟩ := hcompile _ _ _ _ h
  exact ⟨hclosed _ (.call _ _ (.call _ _ (.fresh _ _ _))), result, h, hmask.mpr ⟨1, by decide⟩⟩

end Graph

end ResourceApi
