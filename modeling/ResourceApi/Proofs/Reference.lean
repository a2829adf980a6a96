import Mathlib.Algebra.BigOperators.Group.Finset.Basic
import ResourceApi.Proofs.Compilation

/-!
Compiled files against the table of methods: a file is the blocks of its resources, and the summary counts them.
-/

namespace ResourceApi

namespace Blueprint

variable (b : Blueprint)

theorem length_methods : b.methods.length = b.resource.methods.size := by
  rw [methods_eq]
  rfl

theorem length_rpcs : b.rpcs.length = b.resource.methods.size := by
  rw [rpcs, List.length_map, length_methods]

private theorem length_flatMap_methodMessages (ms : List Method) :
    (ms.flatMap b.methodMessages).length = ms.length + ms.countP (·.row.answer = .page) := by
  induction ms with
  | nil => rfl
  | cons m ms ih =>
    rw [List.flatMap_cons, List.length_append, ih, List.countP_cons, List.length_cons]
    by_cases h : m.row.answer = .page
    · simp only [methodMessages, h, if_true, List.length_cons, List.length_nil, decide_true]
      omega
    · simp only [methodMessages, h, if_false, List.length_cons, List.length_nil, decide_false, Bool.false_eq_true]
      omega

/-- One message for the resource, one for each method, and one more for each that answers with a page. -/
theorem length_messages :
    b.messages.length = 1 + (b.resource.methods.size + (if .list ∈ b.resource.methods then 1 else 0) +
      if .globalList ∈ b.resource.methods then 1 else 0) := by
  have hpages : b.methods.countP (·.row.answer = .page) =
      (if .list ∈ b.resource.methods then 1 else 0) + if .globalList ∈ b.resource.methods then 1 else 0 := by
    rw [methods, List.countP_filter]
    simp [List.countP_cons, Method.row, Nat.add_comm]
  rw [messages, List.length_cons, length_flatMap_methodMessages, hpages, length_methods]
  omega

end Blueprint

namespace Graph

variable {n : Nat} {g : Graph n} {pool : Pool} {i : Fin n} {ancestors request ordered : List (Fin n)} {c : Config}
  {result : Compilation}

theorem ancestorSegments_eq (h : g.IsLineage i (ancestors ++ [i])) :
    g.ancestorSegments i = ancestors.map fun j => (g.resource j).segment := by
  rw [ancestorSegments, lineage_eq_ok_iff.mpr h]
  simp only [List.dropLast_concat]

theorem exists_ancestors (h : g.WalkEnds i) : ∃ ancestors, g.IsLineage i (ancestors ++ [i]) := by
  obtain ⟨chain, hchain⟩ := exists_isLineage_iff_walkEnds.mpr h
  exact ⟨chain.dropLast, hchain.eq_dropLast ▸ hchain⟩

/-- Blocks in order are counted by the requested resources, each taken once. -/
theorem length_flatMap_order {α : Type} (h : g.order request = .ok ordered) (f : Fin n → List α) :
    (ordered.flatMap f).length = ∑ i ∈ request.toFinset, (f i).length := by
  rw [List.length_flatMap, ← toFinset_order h, List.sum_toFinset _ (nodup_of_order h)]

theorem length_order (h : g.order request = .ok ordered) : ordered.length = request.toFinset.card := by
  rw [← toFinset_order h, List.toFinset_card_of_nodup (nodup_of_order h)]

theorem compilation_summary (horder : g.order request = .ok ordered) :
    (g.compilation pool c ordered).summary = .service request.toFinset.card c.targetFile
      (request.toFinset.card + ∑ i ∈ request.toFinset, ((g.resource i).methods.size +
        (if .list ∈ (g.resource i).methods then 1 else 0) + if .globalList ∈ (g.resource i).methods then 1 else 0))
      (∑ i ∈ request.toFinset, (g.resource i).methods.size) := by
  have hmessages : (ordered.flatMap fun i => (g.blueprint c.package i).messages).length =
      request.toFinset.card + ∑ i ∈ request.toFinset, ((g.resource i).methods.size +
        (if .list ∈ (g.resource i).methods then 1 else 0) +
          if .globalList ∈ (g.resource i).methods then 1 else 0) := by
    rw [length_flatMap_order horder, Finset.card_eq_sum_ones, ← Finset.sum_add_distrib]
    exact Finset.sum_congr rfl fun i _ => (g.blueprint c.package i).length_messages
  have hrpcs : (ordered.flatMap fun i => (g.blueprint c.package i).rpcs).length =
      ∑ i ∈ request.toFinset, (g.resource i).methods.size := by
    rw [length_flatMap_order horder]
    exact Finset.sum_congr rfl fun i _ => (g.blueprint c.package i).length_rpcs
  rw [← hmessages, ← hrpcs, ← length_order horder, ← filterMap_message_blocks g pool, ← filterMap_rpc_blocks g pool]
  simp only [compilation, Registry.messages_items_extend, Registry.rpcs_items_extend]
  rfl

/-- A file is the blocks of its resources in order. A block is made from the package, the resource and the segments of
its ancestors, and from nothing that is compiled before it. -/
theorem compile_eq_reference (h : g.compile pool request c = .ok result) :
    ∃ ordered, g.order request = .ok ordered ∧
      result.file.messages = (ordered.flatMap fun i => (g.blueprint c.package i).messages).map Message.descriptor ∧
      result.file.service.methods = (ordered.flatMap fun i => (g.blueprint c.package i).rpcs).map Rpc.descriptor ∧
      (∀ i ∈ ordered, ∃ ancestors, g.IsLineage i (ancestors ++ [i]) ∧ g.blueprint c.package i =
        { package := c.package, resource := g.resource i
          ancestors := ancestors.map fun j => Text.lower (g.resource j).plural }) ∧
      result.summary = .service request.toFinset.card result.file.name
        (request.toFinset.card + ∑ i ∈ request.toFinset, ((g.resource i).methods.size +
          (if .list ∈ (g.resource i).methods then 1 else 0) + if .globalList ∈ (g.resource i).methods then 1 else 0))
        (∑ i ∈ request.toFinset, (g.resource i).methods.size) := by
  obtain ⟨_, ordered, horder, rfl⟩ := compile_eq_ok_iff.mp h
  refine ⟨ordered, horder, g.compilation_messages pool c ordered, g.compilation_methods pool c ordered, ?_, ?_⟩
  · intro i hi
    obtain ⟨ancestors, hancestors⟩ := exists_ancestors (walkEnds_of_order horder hi)
    refine ⟨ancestors, hancestors, ?_⟩
    rw [blueprint, ancestorSegments_eq hancestors]
    rfl
  · rw [compilation_name]
    exact compilation_summary horder

/-- Books are requested twice and stores last, and each of them is compiled once. -/
theorem bookstore_summary :
    ∃ result, bookstore.compile .standard [1, 0, 1] ⟨"Bookstore", "bookstore.v1", none⟩ = .ok result ∧
      result.summary = .service 2 result.file.name 14 9 := by
  obtain ⟨result, h⟩ := bookstore_compiles _
  obtain ⟨_, _, _, _, _, hsummary⟩ := compile_eq_reference h
  exact ⟨result, h, hsummary⟩

end Graph

end ResourceApi
