import ResourceApi.Proofs.OwnMessage
import ResourceApi.Proofs.Reference

/-!
What a compilation depends on. Graphs that agree on the requested resources, on the first parents of all resources
above them and on the segments of these are compiled into the same file.
-/

namespace ResourceApi

/-- Of the declared fields, a block shows what the resource's own message shows. -/
theorem Blueprint.entries_eq_of_alike {b b' : Blueprint} (pool : Pool) (hpackage : b.package = b'.package)
    (hancestors : b.ancestors = b'.ancestors) (h : b.resource.Alike b'.resource) (hlegal : b.resource.LegalFields) :
    b.entries pool = b'.entries pool := by
  have hown := h.ownMessage hlegal
  obtain ⟨package, ancestors, kind, plural, type, fields, methods⟩ := b
  obtain ⟨package', ancestors', kind', plural', type', fields', methods'⟩ := b'
  obtain ⟨hkind, hplural, htype, hmethods, _⟩ := h
  cases hpackage
  cases hancestors
  cases hkind
  cases hplural
  cases htype
  cases hmethods
  rw [entries, hown]
  rfl

namespace Graph

variable {n : Nat} {g g' : Graph n} {pool : Pool} {request ordered chain : List (Fin n)} {i j : Fin n} {k : Nat}

/-- The graphs agree on all that a compilation of the request may depend on. -/
structure Agrees (g g' : Graph n) (request : List (Fin n)) : Prop where
  resources : ∀ i ∈ request, (g.resource i).Alike (g'.resource i)
  parents : ∀ i ∈ request, g.parent? i = g'.parent? i
  ancestors : ∀ i ∈ request, ∀ k j, g.walk i k = some j → j ∉ request →
    g.parent? j = g'.parent? j ∧ Text.lower (g.resource j).plural = Text.lower (g'.resource j).plural

theorem IsLineage.of_parents (h : g.IsLineage i chain) (hparents : ∀ j ∈ chain, g.parent? j = g'.parent? j) :
    g'.IsLineage i chain := by
  induction h with
  | root h => exact .root (by rw [← hparents _ (by simp), h])
  | @child i p chain hp _ ih =>
    refine .child ?_ (ih fun j hj => hparents j (List.mem_append_left _ hj))
    rw [← hparents i (by simp), hp]

namespace Agrees

variable (h : g.Agrees g' request)

include h

theorem parent (hi : i ∈ request) (hj : g.walk i k = some j) : g.parent? j = g'.parent? j := by
  by_cases hmem : j ∈ request
  · exact h.parents j hmem
  · exact (h.ancestors i hi k j hj hmem).1

theorem segment (hi : i ∈ request) (hj : g.walk i k = some j) : (g.resource j).segment = (g'.resource j).segment := by
  by_cases hmem : j ∈ request
  · exact (h.resources j hmem).segment
  · exact (h.ancestors i hi k j hj hmem).2

/-- Each step of a walk starts where the graphs agree on the parent. -/
theorem walk (hi : i ∈ request) (k : Nat) : g.walk i k = g'.walk i k := by
  induction k with
  | zero => rfl
  | succ k ih =>
    rw [Graph.walk, Graph.walk, ← ih]
    cases hk : g.walk i k with
    | none => rfl
    | some j => exact h.parent hi hk

theorem symm : g'.Agrees g request where
  resources i hi := (h.resources i hi).symm
  parents i hi := (h.parents i hi).symm
  ancestors i hi k j hj hmem := by
    obtain ⟨hparent, hsegment⟩ := h.ancestors i hi k j ((h.walk hi k).trans hj) hmem
    exact ⟨hparent.symm, hsegment.symm⟩

theorem isLineage (hi : i ∈ request) (hchain : g.IsLineage i chain) : g'.IsLineage i chain := by
  refine hchain.of_parents fun j hj => ?_
  obtain ⟨k, hk⟩ := hchain.exists_walk hj
  exact h.parent hi hk

theorem order (horder : g.order request = .ok ordered) : g'.order request = .ok ordered := by
  obtain ⟨chains, hchains, rfl⟩ := order_eq_ok_iff.mp horder
  have hboth : List.Forall₂ (fun i chain => i ∈ request ∧ g.lineage i = .ok chain) request chains :=
    (List.forall₂_and_left request chains).mpr ⟨fun i hi => hi, Attempt.mapM_eq_ok_iff.mp hchains⟩
  refine order_eq_ok_iff.mpr ⟨chains, Attempt.mapM_eq_ok_iff.mpr (hboth.imp ?_), rfl⟩
  rintro i chain ⟨hi, hchain⟩
  exact lineage_eq_ok_iff.mpr (h.isLineage hi (lineage_eq_ok_iff.mp hchain))

theorem ancestorSegments (hi : i ∈ request) (hends : g.WalkEnds i) :
    g.ancestorSegments i = g'.ancestorSegments i := by
  obtain ⟨ancestors, hancestors⟩ := exists_ancestors hends
  rw [ancestorSegments_eq hancestors, ancestorSegments_eq (h.isLineage hi hancestors)]
  refine List.map_congr_left fun j hj => ?_
  obtain ⟨k, hk⟩ := hancestors.exists_walk (List.mem_append_left _ hj)
  exact h.segment hi hk

theorem compilable (hcompilable : g.Compilable pool request) : g'.Compilable pool request where
  declared i hi m hm := by
    rw [← (h.resources i hi).methods] at hm
    exact hcompilable.declared i hi m hm
  walks i hi := by
    obtain ⟨k, hk⟩ := hcompilable.walks i hi
    exact ⟨k, (h.walk hi k).symm.trans hk⟩
  fields i hi := (h.resources i hi).legalFields (hcompilable.fields i hi)
  fits i hi m hm := by
    rw [← (h.resources i hi).methods] at hm
    rw [← (h.resources i hi).fieldName]
    exact hcompilable.fits i hi m hm
  kinds i hi j hj heq := by
    refine hcompilable.kinds i hi j hj ?_
    rw [kind, kind, (h.resources i hi).kind, (h.resources j hj).kind]
    exact heq
  apart i hi j hj m hm role hrole := by
    rw [← (h.resources j hj).methods] at hm
    rw [kind, kind, ← (h.resources i hi).kind, ← (h.resources j hj).kind]
    exact hcompilable.apart i hi j hj m hm role hrole

theorem entries (hcompilable : g.Compilable pool request) (hi : i ∈ request) (package : String) :
    (g.blueprint package i).entries pool = (g'.blueprint package i).entries pool :=
  Blueprint.entries_eq_of_alike pool rfl (h.ancestorSegments hi (hcompilable.walks i hi)) (h.resources i hi)
    (hcompilable.fields i hi)

theorem compile {c : Config} {result : Compilation} (hresult : g.compile pool request c = .ok result) :
    g'.compile pool request c = .ok result := by
  obtain ⟨hcompilable, ordered, horder, rfl⟩ := compile_eq_ok_iff.mp hresult
  refine compile_eq_ok_iff.mpr ⟨h.compilable hcompilable, ordered, h.order horder, ?_⟩
  have hblocks : g.blocks pool c.package ordered = g'.blocks pool c.package ordered :=
    List.flatMap_congr fun i hi => h.entries hcompilable ((mem_order_iff horder i).mp hi) c.package
  rw [compilation, hblocks, compilation]

end Agrees

/-- Nothing but the requested resources and the first parents and segments of those above them shows in a file. Further
parents, the order of fields, and everything else about resources that are not requested stay without effect. -/
theorem compile_agrees (g g' : Graph n) (pool : Pool) (request : List (Fin n)) (c : Config)
    (h : g.Agrees g' request) :
    ((∃ failure, g.compile pool request c = .error failure) ∧ ∃ failure, g'.compile pool request c = .error failure) ∨
      ∃ result, g.compile pool request c = .ok result ∧ g'.compile pool request c = .ok result := by
  cases hresult : g.compile pool request c with
  | ok result => exact .inr ⟨result, rfl, h.compile hresult⟩
  | error failure =>
    cases hresult' : g'.compile pool request c with
    | error failure' => exact .inl ⟨⟨failure, rfl⟩, failure', rfl⟩
    | ok result' =>
      rw [h.symm.compile hresult'] at hresult
      cases hresult

/-- The books of `bookstore` with their fields the other way round, below shops that only have the segment of stores.
They are parents of themselves too, after the shops. -/
def bookshop : Graph 2 where
  resource i :=
    if i.val = 0 then
      { kind := "Shop", plural := "STORES", type := "bookshop.example.com/Shop", fields := []
        methods := .ofList Method.all }
    else { bookstore.resource i with fields := (bookstore.resource i).fields.reverse }
  parents i := (bookstore.parents i).flatMap fun p => [p, i]

/-- The common file has the books by themselves: the fields of their message by number, and paths below the segment of
stores. -/
theorem bookshop_agrees :
    bookstore.Agrees bookshop [1] ∧
    ∃ result, bookstore.compile .standard [1] ⟨"Bookstore", "bookstore.v1", none⟩ = .ok result ∧
      bookshop.compile .standard [1] ⟨"Bookstore", "bookstore.v1", none⟩ = .ok result ∧
      result.file.messages.length = 10 ∧
      (result.file.messages.head?.map fun m => (m.name, m.fields.map FieldDescriptor.name)) =
        some ("Book", ["price", "title"]) ∧
      (result.file.service.methods.map fun r => (r.name, r.http.path)) =
        [("CreateBook", "/\x7bparent=stores/*/books\x7d"), ("GetBook", "/\x7bpath=stores/*/books/*\x7d"),
          ("UpdateBook", "/\x7bbook.path=stores/*/books/*\x7d"), ("DeleteBook", "/\x7bpath=stores/*/books/*\x7d"),
          ("ListBook", "/\x7bparent=stores/*/books\x7d"), ("GlobalListBook", "/\x7bpath=--/book\x7d"),
          ("ApplyBook", "/\x7bpath=stores/*/books/*\x7d")] := by
  have hagrees : bookstore.Agrees bookshop [1] := by
    refine ⟨?_, by decide, fun i _ k j _ hj => ?_⟩
    · exact List.forall_mem_singleton.mpr ⟨rfl, rfl, rfl, rfl, (List.reverse_perm _).symm⟩
    · have hshop : ∀ j : Fin 2, j ∉ [1] → j = 0 := by decide
      obtain rfl := hshop j hj
      exact ⟨rfl, by decide⟩
  have hcompilable : bookstore.Compilable .standard [1] := bookstore_compilable.of_subset (by decide)
  have hresult := compile_eq_ok_iff (c := ⟨"Bookstore", "bookstore.v1", none⟩).mpr ⟨hcompilable, [1], rfl, rfl⟩
  have hfields : (bookstore.resource 1).fieldsByNumber = [⟨"price", "float", 1⟩, ⟨"title", "string", 2⟩] := by
    simp [bookstore, Resource.fieldsByNumber, List.mergeSort]
  rcases compile_agrees bookstore bookshop .standard [1] ⟨"Bookstore", "bookstore.v1", none⟩ hagrees with
    ⟨⟨_, herror⟩, _⟩ | ⟨result, h, h'⟩
  · rw [hresult] at herror
    cases herror
  · obtain rfl := Except.ok.inj (hresult.symm.trans h)
    refine ⟨hagrees, _, h, h', ?_, ?_, ?_⟩
    · rw [compilation_messages]
      decide +kernel
    · rw [compilation_messages, List.flatMap_singleton]
      change some (_, (List.filterMap Property.field? (bookstore.resource 1).fieldsByNumber).map _ |>.map _) = _
      rw [hfields]
      decide +kernel
    · rw [compilation_methods]
      decide +kernel

end Graph

end ResourceApi
