import ResourceApi.Proofs.Order
import ResourceApi.Proofs.Rendering
import ResourceApi.Proofs.Run

/-!
Compilations of requests. Whether one succeeds depends on the resources and on the names of what is generated from
them, and the file of one that does consists of the blocks of the ordered resources.
-/

namespace ResourceApi

/-- The messages that a method brings besides the resource's own. -/
def Method.messageRoles (m : Method) : List MessageRole :=
  .request :: if m.row.answer = .page then [.response] else []

namespace Blueprint

variable (b : Blueprint)

def messageKeys : List (Method × MessageRole) := b.methods.flatMap fun m => m.messageRoles.map (m, ·)

theorem mem_methods {m : Method} : m ∈ b.methods ↔ m ∈ b.resource.methods := by
  rw [methods_eq]
  rfl

theorem mem_messageKeys {m : Method} {role : MessageRole} :
    (m, role) ∈ b.messageKeys ↔ m ∈ b.resource.methods ∧ role ∈ m.messageRoles := by
  simp [messageKeys, mem_methods]

theorem nodup_methods : b.methods.Nodup := List.Nodup.filter _ (by decide)

theorem nodup_messageKeys : b.messageKeys.Nodup := by
  refine List.nodup_flatMap.mpr ⟨fun m _ => ?_, b.nodup_methods.imp fun {m m'} hne key h h' => ?_⟩
  · cases m <;> decide
  · obtain ⟨_, _, rfl⟩ := List.mem_map.mp h
    obtain ⟨_, _, heq⟩ := List.mem_map.mp h'
    exact hne (congrArg Prod.fst heq).symm

theorem map_name_messages :
    b.messages.map Message.name = b.kind :: b.messageKeys.map fun key => key.1.messageName key.2 b.kind := by
  have hmethod (m : Method) : (b.methodMessages m).map Message.name =
      m.messageRoles.map fun role => m.messageName role b.kind := by
    unfold methodMessages Method.messageRoles
    split_ifs <;> rfl
  rw [messages, List.map_cons, List.map_flatMap, messageKeys, List.map_flatMap]
  simp only [hmethod, List.map_map]
  rfl

theorem map_name_rpcs : b.rpcs.map Rpc.name = b.methods.map fun m => m.rpcName b.kind := by
  rw [rpcs, List.map_map]
  rfl

/-- Pages are legal whatever the resource is like. -/
theorem messages_legal {b : Blueprint} (hfields : b.resource.LegalFields)
    (hfits : ∀ m ∈ b.resource.methods, FieldNameFits b.resource.fieldName m) : ∀ x ∈ b.messages, x.Legal := by
  intro x hx
  rcases List.mem_cons.mp hx with rfl | hx
  · exact hfields.ownMessage_legal
  · obtain ⟨m, hm, hx⟩ := List.mem_flatMap.mp hx
    rcases mem_methodMessages.mp hx with rfl | ⟨_, rfl⟩
    · exact (b.request_legal_iff m).mpr (hfits m (b.mem_methods.mp hm))
    · exact b.page_legal m

end Blueprint

namespace Graph

variable {n : Nat} {g : Graph n} {pool : Pool} {request ordered is : List (Fin n)} {c : Config} {result : Compilation}

/-- What a request has to meet. Neither its order nor the configuration plays a part. -/
@[mk_iff]
structure Compilable (g : Graph n) (pool : Pool) (request : List (Fin n)) : Prop where
  declared : ∀ i ∈ request, ∀ m ∈ (g.resource i).methods, ∀ type ∈ m.wellKnown, pool.Declares type
  walks : ∀ i ∈ request, g.WalkEnds i
  fields : ∀ i ∈ request, (g.resource i).LegalFields
  fits : ∀ i ∈ request, ∀ m ∈ (g.resource i).methods, Blueprint.FieldNameFits (g.resource i).fieldName m
  kinds : ∀ i ∈ request, ∀ j ∈ request, g.kind i = g.kind j → i = j
  apart : ∀ i ∈ request, ∀ j ∈ request, ∀ m ∈ (g.resource j).methods, ∀ role ∈ m.messageRoles,
    g.kind i ≠ m.messageName role (g.kind j)

/-- Names that are made from a kind and one of its keys differ if the kinds do. -/
theorem nodup_generated {κ : Type} {keys : Fin n → List κ} {name : κ → String → String} (his : is.Nodup)
    (hkinds : ∀ i ∈ is, ∀ j ∈ is, g.kind i = g.kind j → i = j) (hkeys : ∀ i, (keys i).Nodup)
    (hname : ∀ {x x' k k'}, name x k = name x' k' → x = x' ∧ k = k') :
    (is.flatMap fun i => (keys i).map fun x => name x (g.kind i)).Nodup := by
  refine List.nodup_flatMap.mpr ⟨fun i _ => (hkeys i).map fun x x' h => (hname h).1, ?_⟩
  refine his.imp_of_mem fun {i j} hi hj hne s hs hs' => hne ?_
  obtain ⟨x, _, rfl⟩ := List.mem_map.mp hs
  obtain ⟨x', _, h⟩ := List.mem_map.mp hs'
  exact hkinds i hi j hj (hname h).2.symm

theorem filterMap_message_blocks (g : Graph n) (pool : Pool) (package : String) (is : List (Fin n)) :
    (g.blocks pool package is).filterMap Entry.message? = is.flatMap fun i => (g.blueprint package i).messages := by
  simp only [blocks, List.filterMap_flatMap, Blueprint.filterMap_message_entries]

theorem filterMap_rpc_blocks (g : Graph n) (pool : Pool) (package : String) (is : List (Fin n)) :
    (g.blocks pool package is).filterMap Entry.rpc? = is.flatMap fun i => (g.blueprint package i).rpcs := by
  simp only [blocks, List.filterMap_flatMap, Blueprint.filterMap_rpc_entries]

theorem filterMap_file_blocks (g : Graph n) (pool : Pool) (package : String) (is : List (Fin n)) :
    (g.blocks pool package is).filterMap Entry.file? = is.flatMap fun i => (g.blueprint package i).imports pool := by
  simp only [blocks, List.filterMap_flatMap, Blueprint.filterMap_file_entries]

/-- Sorted by where they come from, the names of messages are the kinds and those generated for methods. -/
theorem messageNames_blocks_perm (g : Graph n) (pool : Pool) (package : String) (is : List (Fin n)) :
    (is.map g.kind ++ is.flatMap fun i => (g.blueprint package i).messageKeys.map
      fun key => key.1.messageName key.2 (g.kind i)).Perm (Registry.messageNames (g.blocks pool package is)) := by
  rw [Registry.messageNames, filterMap_message_blocks, List.map_flatMap]
  simp only [Blueprint.map_name_messages]
  exact List.map_append_flatMap_perm is g.kind _

theorem rpcNames_blocks (g : Graph n) (pool : Pool) (package : String) (is : List (Fin n)) :
    Registry.rpcNames (g.blocks pool package is) =
      is.flatMap fun i => (g.blueprint package i).methods.map fun m => m.rpcName (g.kind i) := by
  rw [Registry.rpcNames, filterMap_rpc_blocks, List.map_flatMap]
  simp only [Blueprint.map_name_rpcs]
  rfl

/-- Names that are generated never meet each other without two kinds that are equal. -/
theorem nodup_messageNames_blocks_iff (his : is.Nodup) (pool : Pool) (package : String) :
    (Registry.messageNames (g.blocks pool package is)).Nodup ↔
      (∀ i ∈ is, ∀ j ∈ is, g.kind i = g.kind j → i = j) ∧
        ∀ i ∈ is, ∀ j ∈ is, ∀ m ∈ (g.resource j).methods, ∀ role ∈ m.messageRoles,
          g.kind i ≠ m.messageName role (g.kind j) := by
  have hkinds : (is.map g.kind).Nodup ↔ ∀ i ∈ is, ∀ j ∈ is, g.kind i = g.kind j → i = j :=
    List.nodup_map_iff_inj_on his
  have hapart : (∀ a ∈ is.map g.kind, ∀ b ∈ is.flatMap (fun i => (g.blueprint package i).messageKeys.map
        fun key => key.1.messageName key.2 (g.kind i)), a ≠ b) ↔
      ∀ i ∈ is, ∀ j ∈ is, ∀ m ∈ (g.resource j).methods, ∀ role ∈ m.messageRoles,
        g.kind i ≠ m.messageName role (g.kind j) := by
    simp only [List.forall_mem_map, List.forall_mem_flatMap, Prod.forall, Blueprint.mem_messageKeys, and_imp]
    exact ⟨fun h i hi j hj m hm role => h i hi j hj m role hm, fun h i hi j hj m role hm => h i hi j hj m hm role⟩
  rw [← (g.messageNames_blocks_perm pool package is).nodup_iff, List.nodup_append, hkinds, hapart]
  constructor
  · rintro ⟨hk, _, ha⟩
    exact ⟨hk, ha⟩
  · rintro ⟨hk, ha⟩
    refine ⟨hk, nodup_generated his hk (fun i => (g.blueprint package i).nodup_messageKeys) ?_, ha⟩
    rintro ⟨m, role⟩ ⟨m', role'⟩ k k' h
    obtain ⟨rfl, rfl, rfl⟩ := Method.messageName_inj.mp h
    exact ⟨rfl, rfl⟩

theorem nodup_rpcNames_blocks (his : is.Nodup) (hkinds : ∀ i ∈ is, ∀ j ∈ is, g.kind i = g.kind j → i = j)
    (pool : Pool) (package : String) : (Registry.rpcNames (g.blocks pool package is)).Nodup := by
  rw [rpcNames_blocks]
  exact nodup_generated his hkinds (fun i => (g.blueprint package i).nodup_methods) Method.rpcName_inj.mp

/-- A fresh registry takes the blocks of different resources exactly when no kind meets another name. -/
theorem admits_blocks_iff (his : is.Nodup) :
    (Registry.ofConfig c).Admits (g.blocks pool c.package is) ↔
      (∀ i ∈ is, ∀ j ∈ is, g.kind i = g.kind j → i = j) ∧
        ∀ i ∈ is, ∀ j ∈ is, ∀ m ∈ (g.resource j).methods, ∀ role ∈ m.messageRoles,
          g.kind i ≠ m.messageName role (g.kind j) := by
  have hfresh : (Registry.ofConfig c).Admits (g.blocks pool c.package is) ↔
      (Registry.messageNames (g.blocks pool c.package is)).Nodup ∧
        (Registry.rpcNames (g.blocks pool c.package is)).Nodup := by
    simp [Registry.admits_iff, Registry.ofConfig]
  rw [hfresh, nodup_messageNames_blocks_iff his]
  exact and_iff_left_of_imp fun h => nodup_rpcNames_blocks his h.1 pool c.package

/-- The outcome for resources in the given order, whatever stands in its way. -/
def compilation (g : Graph n) (pool : Pool) (c : Config) (is : List (Fin n)) : Compilation :=
  let reg := (Registry.ofConfig c).extend (g.blocks pool c.package is)
  { file := reg.descriptor
    summary := .service is.length c.targetFile reg.messages.items.length reg.rpcs.items.length }

theorem compilation_messages (g : Graph n) (pool : Pool) (c : Config) (is : List (Fin n)) :
    (g.compilation pool c is).file.messages =
      (is.flatMap fun i => (g.blueprint c.package i).messages).map Message.descriptor := by
  change ((Registry.ofConfig c).extend _).messages.items.map Message.descriptor = _
  rw [Registry.messages_items_extend, filterMap_message_blocks]
  rfl

theorem compilation_methods (g : Graph n) (pool : Pool) (c : Config) (is : List (Fin n)) :
    (g.compilation pool c is).file.service.methods =
      (is.flatMap fun i => (g.blueprint c.package i).rpcs).map Rpc.descriptor := by
  change ((Registry.ofConfig c).extend _).rpcs.items.map Rpc.descriptor = _
  rw [Registry.rpcs_items_extend, filterMap_rpc_blocks]
  rfl

theorem compilation_imports (g : Graph n) (pool : Pool) (c : Config) (is : List (Fin n)) :
    (g.compilation pool c is).file.imports = apiImports ++
      ((is.flatMap fun i => (g.blueprint c.package i).imports pool).filter (· ∉ apiImports)).eraseDups := by
  change ((Registry.ofConfig c).extend _).imports = _
  rw [Registry.imports_extend, filterMap_file_blocks]
  rfl

theorem compilation_package (g : Graph n) (pool : Pool) (c : Config) (is : List (Fin n)) :
    (g.compilation pool c is).file.package = c.package := Registry.package_extend

theorem compilation_name (g : Graph n) (pool : Pool) (c : Config) (is : List (Fin n)) :
    (g.compilation pool c is).file.name = c.targetFile := Registry.fileName_extend

theorem Compilable.of_subset (h : g.Compilable pool request) (hsub : ∀ i ∈ is, i ∈ request) : g.Compilable pool is where
  declared i hi := h.declared i (hsub i hi)
  walks i hi := h.walks i (hsub i hi)
  fields i hi := h.fields i (hsub i hi)
  fits i hi := h.fits i (hsub i hi)
  kinds i hi j hj := h.kinds i (hsub i hi) j (hsub j hj)
  apart i hi j hj := h.apart i (hsub i hi) j (hsub j hj)

theorem Compilable.of_mem_iff (h : g.Compilable pool request) (hmem : ∀ i, i ∈ is ↔ i ∈ request) :
    g.Compilable pool is :=
  h.of_subset fun i => (hmem i).mp

/-- Rendering never stops what got through the registry. -/
theorem Compilable.render_eq_ok (h : g.Compilable pool is) (c : Config) :
    ((Registry.ofConfig c).extend (g.blocks pool c.package is)).render = .ok (g.compilation pool c is).file := by
  refine Registry.render_eq_ok_descriptor ?_
  rw [Registry.messages_items_extend, filterMap_message_blocks]
  intro x hx
  obtain ⟨i, hi, hx⟩ := List.mem_flatMap.mp hx
  exact Blueprint.messages_legal (h.fields i hi) (h.fits i hi) x hx

theorem compileAll_ofConfig_eq_ok_iff (his : is.Nodup) (hwalks : ∀ i ∈ is, g.WalkEnds i) {reg : Registry} :
    g.compileAll pool (.ofConfig c) is = .ok reg ↔
      g.Compilable pool is ∧ reg = (Registry.ofConfig c).extend (g.blocks pool c.package is) := by
  have hsteps : (∀ i ∈ is, ∀ step ∈ (g.site pool i c.package (g.kind i)).steps, Succeeds step) ↔
      ∀ i ∈ is, (g.resource i).LegalFields ∧
        ∀ m ∈ (g.resource i).methods, Blueprint.FieldNameFits (g.resource i).fieldName m ∧
          ∀ type ∈ m.wellKnown, pool.Declares type :=
    forall₂_congr fun i hi => Site.steps_succeed_iff (hwalks i hi)
  rw [compileAll_eq_ok_iff, ← and_assoc]
  refine and_congr_left fun _ => ?_
  change (∀ i ∈ is, ∀ step ∈ (g.site pool i c.package (g.kind i)).steps, Succeeds step) ∧
    (Registry.ofConfig c).Admits (g.blocks pool c.package is) ↔ _
  rw [hsteps, admits_blocks_iff his]
  constructor
  · rintro ⟨hlegal, hkinds, hapart⟩
    refine ⟨fun i hi m hm => ((hlegal i hi).2 m hm).2, hwalks, fun i hi => (hlegal i hi).1, ?_, hkinds, hapart⟩
    exact fun i hi m hm => ((hlegal i hi).2 m hm).1
  · intro h
    refine ⟨fun i hi => ⟨h.fields i hi, fun m hm => ⟨h.fits i hi m hm, h.declared i hi m hm⟩⟩, h.kinds, h.apart⟩

/-- A compilation succeeds on the requests that can be compiled, with the blocks of the resources in order. -/
theorem compile_eq_ok_iff :
    g.compile pool request c = .ok result ↔
      g.Compilable pool request ∧ ∃ ordered, g.order request = .ok ordered ∧ result = g.compilation pool c ordered := by
  rw [compile]
  simp only [Attempt.bind_eq_ok_iff, Attempt.mapError_eq_ok_iff]
  constructor
  · rintro ⟨ordered, horder, reg, hreg, file, hfile, hresult⟩
    have hwalks := fun i => walkEnds_of_order horder (i := i)
    obtain ⟨hcompilable, rfl⟩ := (compileAll_ofConfig_eq_ok_iff (nodup_of_order horder) hwalks).mp hreg
    rw [hcompilable.render_eq_ok c, Except.ok.injEq] at hfile
    subst hfile
    refine ⟨hcompilable.of_mem_iff fun i => (mem_order_iff horder i).symm, ordered, horder, ?_⟩
    rw [← Except.ok.inj hresult, compilation_name]
    rfl
  · rintro ⟨hcompilable, ordered, horder, rfl⟩
    have hordered := hcompilable.of_mem_iff (mem_order_iff horder)
    refine ⟨ordered, horder, _, (compileAll_ofConfig_eq_ok_iff (nodup_of_order horder) hordered.walks).mpr
      ⟨hordered, rfl⟩, _, hordered.render_eq_ok c, ?_⟩
    rw [compilation_name]
    rfl

theorem exists_compile_iff_compilable :
    (∃ result, g.compile pool request c = .ok result) ↔ g.Compilable pool request := by
  simp only [compile_eq_ok_iff]
  constructor
  · rintro ⟨_, h, _⟩
    exact h
  · intro h
    obtain ⟨ordered, horder⟩ := exists_order_iff.mpr h.walks
    exact ⟨_, h, ordered, horder, rfl⟩

/-- Books below stores. Every method of books is enabled, and two of stores. -/
def bookstore : Graph 2 where
  resource
    | 0 => { kind := "Store", plural := "stores", type := "bookstore.example.com/Store"
             fields := [⟨"name", "string", 1⟩], methods := .ofList [.read, .list] }
    | 1 => { kind := "Book", plural := "books", type := "bookstore.example.com/Book"
             fields := [⟨"title", "string", 2⟩, ⟨"price", "float", 1⟩], methods := .ofList Method.all }
  parents
    | 0 => []
    | 1 => [0]

theorem bookstore_compilable : bookstore.Compilable .standard [1, 0, 1] where
  declared _ _ _ _ _ := Pool.standard_hasWellKnown.declares
  walks i _ := ⟨2, by revert i; decide⟩
  fields i _ := ⟨by revert i; decide, by revert i; decide⟩
  fits i _ m _ := by
    have hname : ∀ i, Text.isIdentifier (bookstore.resource i).fieldName = true ∧
        (bookstore.resource i).fieldName ∉ ["parent", "id", "path", "update_mask"] := by decide
    obtain ⟨hid, hother⟩ := hname i
    cases m <;> simp_all [Blueprint.FieldNameFits]
  kinds := by decide
  apart i _ j _ m hm := by
    have hapart : ∀ i j, ∀ m ∈ (bookstore.resource j).methods.toList, ∀ role ∈ m.messageRoles,
        bookstore.kind i ≠ m.messageName role (bookstore.kind j) := by decide
    exact hapart i j m hm

theorem bookstore_compiles (c : Config) : ∃ result, bookstore.compile .standard [1, 0, 1] c = .ok result :=
  exists_compile_iff_compilable.mpr bookstore_compilable

end Graph

end ResourceApi
