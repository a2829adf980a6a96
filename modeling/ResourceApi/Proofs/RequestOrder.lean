import ResourceApi.Proofs.Closure
import ResourceApi.Proofs.Comments

/-!
Requests for the same resources in another order. They are compiled into files that differ in nothing but the order of
their parts.
-/

namespace ResourceApi

/-- The files have the same names and, up to order, the same imports, messages and methods with the same comments. -/
structure FileDescriptor.Rearranges (file file' : FileDescriptor) : Prop where
  name : file.name = file'.name
  package : file.package = file'.package
  service : file.service.name = file'.service.name
  imports : file.imports.Perm file'.imports
  messages : file.commentedMessages.Perm file'.commentedMessages
  methods : file.commentedMethods.Perm file'.commentedMethods

namespace Graph

variable {n : Nat} {g : Graph n} {pool : Pool} {request request' is is' : List (Fin n)}

theorem compilation_commentedMessages (g : Graph n) (pool : Pool) (c : Config) (is : List (Fin n)) :
    (g.compilation pool c is).file.commentedMessages =
      (is.flatMap fun i => (g.blueprint c.package i).messages).map Message.commented := by
  change ((Registry.ofConfig c).extend _).descriptor.commentedMessages = _
  rw [Registry.commentedMessages_descriptor, Registry.messages_items_extend, filterMap_message_blocks]
  rfl

theorem compilation_commentedMethods (g : Graph n) (pool : Pool) (c : Config) (is : List (Fin n)) :
    (g.compilation pool c is).file.commentedMethods =
      (is.flatMap fun i => (g.blueprint c.package i).rpcs).map Rpc.commented := by
  change ((Registry.ofConfig c).extend _).descriptor.commentedMethods = _
  rw [Registry.commentedMethods_descriptor, Registry.rpcs_items_extend, filterMap_rpc_blocks]
  rfl

theorem compilation_service (g : Graph n) (pool : Pool) (c : Config) (is : List (Fin n)) :
    (g.compilation pool c is).file.service.name = c.name := Registry.service_extend

/-- Imports come in the order of their first use, so another order of the resources may change theirs, but not which
files there are. -/
theorem compilation_imports_perm (g : Graph n) (pool : Pool) (c : Config) (h : is.Perm is') :
    (g.compilation pool c is).file.imports.Perm (g.compilation pool c is').file.imports := by
  have hnodup := g.nodup_compilation_imports pool c
  refine (List.perm_ext_iff_of_nodup (hnodup is) (hnodup is')).mpr fun file => ?_
  have hblocks := (h.flatMap_right fun i => (g.blueprint c.package i).imports pool).mem_iff (a := file)
  rw [compilation_imports, compilation_imports, List.mem_append, List.mem_append, List.mem_eraseDups,
    List.mem_eraseDups, List.mem_filter, List.mem_filter, hblocks]

/-- Blocks do not depend on each other, so they move with their resources. -/
theorem compilation_rearranges (g : Graph n) (pool : Pool) (c : Config) (h : is.Perm is') :
    (g.compilation pool c is).file.Rearranges (g.compilation pool c is').file where
  name := by rw [compilation_name, compilation_name]
  package := by rw [compilation_package, compilation_package]
  service := by rw [compilation_service, compilation_service]
  imports := g.compilation_imports_perm pool c h
  messages := by
    rw [compilation_commentedMessages, compilation_commentedMessages]
    exact (h.flatMap_right _).map _
  methods := by
    rw [compilation_commentedMethods, compilation_commentedMethods]
    exact (h.flatMap_right _).map _

theorem order_perm {ordered ordered' : List (Fin n)} (hsame : ∀ i, i ∈ request ↔ i ∈ request')
    (h : g.order request = .ok ordered) (h' : g.order request' = .ok ordered') : ordered.Perm ordered' := by
  refine (List.perm_ext_iff_of_nodup (nodup_of_order h) (nodup_of_order h')).mpr fun i => ?_
  rw [mem_order_iff h, mem_order_iff h', hsame]

/-- Neither the order of a request nor its repetitions decide whether it is compiled or what the file consists of. -/
theorem compile_rearranges (g : Graph n) (pool : Pool) (c : Config) (request request' : List (Fin n))
    (hsame : ∀ i, i ∈ request ↔ i ∈ request') :
    ((∃ result, g.compile pool request c = .ok result) ↔ ∃ result', g.compile pool request' c = .ok result') ∧
    ∀ result result', g.compile pool request c = .ok result → g.compile pool request' c = .ok result' →
      result.file.Rearranges result'.file := by
  constructor
  · rw [exists_compile_iff_compilable, exists_compile_iff_compilable]
    exact ⟨fun h => h.of_mem_iff fun i => (hsame i).symm, fun h => h.of_mem_iff hsame⟩
  · intro result result' h h'
    obtain ⟨_, ordered, horder, rfl⟩ := compile_eq_ok_iff.mp h
    obtain ⟨_, ordered', horder', rfl⟩ := compile_eq_ok_iff.mp h'
    exact g.compilation_rearranges pool c (order_perm hsame horder horder')

/-- Books are requested first and again at the end, or once and after the stores. -/
theorem bookstore_rearranges :
    ∃ result result', bookstore.compile .standard [1, 0, 1] ⟨"Bookstore", "bookstore.v1", none⟩ = .ok result ∧
      bookstore.compile .standard [0, 1] ⟨"Bookstore", "bookstore.v1", none⟩ = .ok result' ∧
      result.file.Rearranges result'.file := by
  have hsame : ∀ i, i ∈ [1, 0, 1] ↔ i ∈ [(0 : Fin 2), 1] := by decide
  obtain ⟨hsuccess, hfiles⟩ := compile_rearranges bookstore .standard ⟨"Bookstore", "bookstore.v1", none⟩ _ _ hsame
  obtain ⟨result, h⟩ := bookstore_compiles ⟨"Bookstore", "bookstore.v1", none⟩
  obtain ⟨result', h'⟩ := hsuccess.mp ⟨result, h⟩
  exact ⟨result, result', h, h', hfiles result result' h h'⟩

end Graph

end ResourceApi
