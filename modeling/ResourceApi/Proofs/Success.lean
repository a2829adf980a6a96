import ResourceApi.Proofs.Compilation

/-!
When a request is compiled, in terms of its resources alone.
-/

namespace ResourceApi

namespace Resource

variable {r : Resource}

/-- Only the methods whose requests carry the resource ask anything of the name of its field. -/
theorem fieldNameFits_iff :
    (∀ m ∈ r.methods, Blueprint.FieldNameFits r.fieldName m) ↔
      (Method.create ∈ r.methods ∨ Method.update ∈ r.methods ∨ Method.apply ∈ r.methods →
        Text.IsIdentifier r.fieldName) ∧
      (Method.create ∈ r.methods → r.fieldName ≠ "parent" ∧ r.fieldName ≠ "id") ∧
      (Method.update ∈ r.methods → r.fieldName ≠ "path" ∧ r.fieldName ≠ "update_mask") ∧
      (Method.apply ∈ r.methods → r.fieldName ≠ "path") := by
  rw [← Text.isIdentifier_iff]
  constructor
  · intro h
    refine ⟨?_, fun hm => (h _ hm).2, fun hm => (h _ hm).2, fun hm => (h _ hm).2⟩
    rintro (hm | hm | hm)
    · exact (h _ hm).1
    · exact (h _ hm).1
    · exact (h _ hm).1
  · rintro ⟨hid, hcreate, hupdate, happly⟩ m hm
    cases m with
    | create => exact ⟨hid (.inl hm), hcreate hm⟩
    | update => exact ⟨hid (.inr (.inl hm)), hupdate hm⟩
    | apply => exact ⟨hid (.inr (.inr hm)), happly hm⟩
    | read | delete | list | globalList => trivial

end Resource

theorem Method.forall_messageRoles_iff {m : Method} {kind other : String} :
    (∀ role ∈ m.messageRoles, kind ≠ m.messageName role other) ↔
      kind ≠ m.title ++ other ++ "Request" ∧
        (m = .list ∨ m = .globalList → kind ≠ m.title ++ other ++ "Response") := by
  have hpage : m.row.answer = .page ↔ m = .list ∨ m = .globalList := by cases m <;> decide
  rw [messageRoles, List.forall_mem_cons]
  refine and_congr Iff.rfl ?_
  rw [← hpage]
  split_ifs with h <;> simp [h, messageName, MessageRole.ending]

namespace Graph

variable {n : Nat}

/-- With the usual pool, a request is compiled exactly when the walk from each of its resources ends, their declared
fields are legal, their own field fits into the requests that carry it, and no kind is the name of another message. -/
theorem exists_compile_iff {pool : Pool} (hpool : pool.HasWellKnown) (g : Graph n) (request : List (Fin n))
    (c : Config) :
    (∃ result, g.compile pool request c = .ok result) ↔
      (∀ i ∈ request, g.WalkEnds i) ∧
      (∀ i ∈ request,
        (∀ p ∈ (g.resource i).fields, (ScalarType.ofTypeName? p.type).isSome = true ∧ Text.IsIdentifier p.name ∧
          (1 ≤ p.number ∧ p.number ≤ 536870911) ∧ ¬ (19000 ≤ p.number ∧ p.number ≤ 19999)) ∧
        ((g.resource i).fields.map Property.number).Nodup ∧ ((g.resource i).fields.map Property.name).Nodup) ∧
      (∀ i ∈ request,
        (Method.create ∈ (g.resource i).methods ∨ Method.update ∈ (g.resource i).methods ∨
          Method.apply ∈ (g.resource i).methods → Text.IsIdentifier (g.resource i).fieldName) ∧
        (Method.create ∈ (g.resource i).methods →
          (g.resource i).fieldName ≠ "parent" ∧ (g.resource i).fieldName ≠ "id") ∧
        (Method.update ∈ (g.resource i).methods →
          (g.resource i).fieldName ≠ "path" ∧ (g.resource i).fieldName ≠ "update_mask") ∧
        (Method.apply ∈ (g.resource i).methods → (g.resource i).fieldName ≠ "path")) ∧
      (∀ i ∈ request, ∀ j ∈ request, g.kind i = g.kind j → i = j) ∧
      (∀ i ∈ request, ∀ j ∈ request, ∀ m ∈ (g.resource j).methods,
        g.kind i ≠ m.title ++ g.kind j ++ "Request" ∧
          (m = .list ∨ m = .globalList → g.kind i ≠ m.title ++ g.kind j ++ "Response")) := by
  have hdeclared : ∀ i ∈ request, ∀ m ∈ (g.resource i).methods, ∀ type ∈ m.wellKnown, pool.Declares type :=
    fun _ _ _ _ _ => hpool.declares
  rw [exists_compile_iff_compilable, compilable_iff, and_iff_right hdeclared]
  simp only [Resource.legalFields_iff, Resource.fieldNameFits_iff, Method.forall_messageRoles_iff]

/-- Entries of a diary under another name. -/
def diary (kind : String) : Graph 1 where
  resource _ := { kind, plural := "entries", type := "diary.example.com/Entry", fields := [⟨"text", " String", 1⟩]
                  methods := .ofList [.create, .list] }
  parents _ := []

/-- Entries can be called so, but not ids, since requests for new resources have a field `id` already. -/
theorem diary_compiles :
    (∃ result, (diary "Entry").compile .standard [0, 0] ⟨"Diary", "diary.v1", none⟩ = .ok result) ∧
      ¬ ∃ result, (diary "Id").compile .standard [0] ⟨"Diary", "diary.v1", none⟩ = .ok result := by
  constructor
  · refine (exists_compile_iff Pool.standard_hasWellKnown _ _ _).mpr ⟨?_, ?_, ?_, by decide, ?_⟩
    · exact fun _ _ => ⟨1, rfl⟩
    · intro i _
      have hid : Text.IsIdentifier "text" := Text.isIdentifier_iff.mp (by decide)
      exact ⟨List.forall_mem_singleton.mpr ⟨by decide, hid, by decide, by decide⟩, List.nodup_singleton _,
        List.nodup_singleton _⟩
    · intro i _
      exact ⟨fun _ => Text.isIdentifier_iff.mp (by revert i; decide), by revert i; decide, by revert i; decide,
        by revert i; decide⟩
    · intro i _ j _ m hm
      have hapart : ∀ m ∈ ((diary "Entry").resource 0).methods.toList, "Entry" ≠ m.title ++ "Entry" ++ "Request" ∧
          (m = .list ∨ m = .globalList → "Entry" ≠ m.title ++ "Entry" ++ "Response") := by decide
      exact hapart m hm
  · intro h
    obtain ⟨_, _, hfits, _⟩ := (exists_compile_iff Pool.standard_hasWellKnown _ _ _).mp h
    obtain ⟨_, hcreate, _⟩ := hfits 0 List.mem_cons_self
    exact (hcreate (by decide)).2 (by decide)

end Graph

end ResourceApi
