import ResourceApi.Proofs.Blame
import ResourceApi.Proofs.Compilation

/-!
How compilations of requests fail. The order of the request is settled before anything is compiled, so walks that do
not end come before all other faults, and every failure is reported for a resource of the request.
-/

namespace ResourceApi

theorem Cause.OfField.unsupported_or_rejected {cause : Cause} (h : cause.OfField) :
    (∃ field type, cause = .unsupportedType field type) ∨ ∃ why, cause = .rejected why := by
  cases cause with
  | unsupportedType field type => exact .inl ⟨field, type, rfl⟩
  | rejected why => exact .inr ⟨why, rfl⟩
  | unknownType type => cases h
  | parentCycle walk => cases h

namespace Graph

variable {n : Nat} {g : Graph n} {pool : Pool} {request : List (Fin n)} {c : Config} {i : Fin n} {e : ResourceError}

/-- The first requested walk that does not end is the one that is reported. -/
theorem order_eq_error_iff :
    g.order request = .error e ↔
      ∃ front i back, request = front ++ i :: back ∧ (∀ j ∈ front, g.WalkEnds j) ∧ g.lineage i = .error e := by
  rw [order, Attempt.bind_eq_error_iff, Attempt.mapM_eq_error_iff]
  simp only [exists_lineage_iff_walkEnds, pure, Except.pure, reduceCtorEq, and_false, exists_false, or_false]

/-- Resources are compiled one after another up to the first that fails. -/
theorem exists_of_compileAll_eq_error {reg : Registry} {is : List (Fin n)} (h : g.compileAll pool reg is = .error e) :
    ∃ front i back reg', is = front ++ i :: back ∧ g.compileAll pool reg front = .ok reg' ∧
      (g.compileInto pool i reg').error = some e := by
  induction is generalizing reg with
  | nil => cases h
  | cons i is ih =>
    rw [compileAll] at h
    cases herror : (g.compileInto pool i reg).error with
    | none =>
      simp only [herror] at h
      obtain ⟨front, j, back, reg', rfl, hfront, hj⟩ := ih h
      refine ⟨i :: front, j, back, reg', rfl, ?_, hj⟩
      rw [compileAll]
      simpa only [herror] using hfront
    | some why =>
      simp only [herror] at h
      obtain rfl := Except.error.inj h
      exact ⟨[], i, is, reg, rfl, rfl, herror⟩

/-- What gets through the registry is rendered, so a request fails over its order or over one of its resources. -/
theorem compile_eq_error_iff {f : Failure} :
    g.compile pool request c = .error f ↔
      ∃ e, f = .resource e ∧ (g.order request = .error e ∨
        ∃ ordered, g.order request = .ok ordered ∧ g.compileAll pool (.ofConfig c) ordered = .error e) := by
  have hrender {ordered : List (Fin n)} {reg : Registry} (horder : g.order request = .ok ordered)
      (hreg : g.compileAll pool (.ofConfig c) ordered = .ok reg) : ∃ file, reg.render = .ok file := by
    have hwalks := fun i => walkEnds_of_order horder (i := i)
    obtain ⟨hcompilable, rfl⟩ := (compileAll_ofConfig_eq_ok_iff (nodup_of_order horder) hwalks).mp hreg
    exact ⟨_, hcompilable.render_eq_ok c⟩
  rw [compile]
  simp only [Attempt.bind_eq_error_iff, Attempt.mapError_eq_error_iff, Attempt.mapError_eq_ok_iff]
  constructor
  · rintro (⟨e, horder, rfl⟩ | ⟨ordered, horder, ⟨e, hall, rfl⟩ | ⟨reg, hreg, ⟨why, hfile, _⟩ | ⟨_, _, hpure⟩⟩⟩)
    · exact ⟨e, rfl, .inl horder⟩
    · exact ⟨e, rfl, .inr ⟨ordered, horder, hall⟩⟩
    · obtain ⟨file, hok⟩ := hrender horder hreg
      rw [hok] at hfile
      cases hfile
    · cases hpure
  · rintro ⟨e, rfl, horder | ⟨ordered, horder, hall⟩⟩
    · exact .inl ⟨e, horder, rfl⟩
    · exact .inr ⟨ordered, horder, .inl ⟨e, hall, rfl⟩⟩

/-- Where the walk ends, a failed call is reported for the resource itself, and it is not the walk that failed. -/
theorem compileInto_error_of_walkEnds {reg : Registry} (hw : g.WalkEnds i)
    (h : (g.compileInto pool i reg).error = some e) :
    e.kind = g.kind i ∧ ((∃ field type, e.cause = .unsupportedType field type) ∨ (∃ why, e.cause = .rejected why) ∨
      ∃ m ∈ (g.resource i).methods, e.LacksType pool (g.kind i) m) := by
  rcases compileInto_error_cases h with hfield | hlacks | ⟨_, _, reason, _, _, _, rfl⟩ | ⟨m, j, _, hstart, hlineage⟩
  · rcases hfield.2.unsupported_or_rejected with htype | hwhy
    · exact ⟨hfield.1, .inl htype⟩
    · exact ⟨hfield.1, .inr (.inl hwhy)⟩
  · obtain ⟨_, _, _, _, _, rfl⟩ := id hlacks
    exact ⟨rfl, .inr (.inr hlacks)⟩
  · exact ⟨rfl, .inr (.inl ⟨reason, rfl⟩)⟩
  · exact absurd ((walkEnds_of_walkStart? hstart).mp hw) (not_walkEnds_of_lineage_eq_error hlineage)

/-- A request fails with the first of its walks that does not end, whatever else is wrong. If all walks end, it fails
with the first resource in order that cannot be compiled after those before it, over a field's type or a rejection. -/
theorem compile_failure (hpool : pool.HasWellKnown) {f : Failure} (h : g.compile pool request c = .error f) :
    ∃ e, f = .resource e ∧
      ((∃ i ∈ request, ¬ g.WalkEnds i) →
        g.order request = .error e ∧
        ∃ front i back, request = front ++ i :: back ∧ (∀ j ∈ front, g.WalkEnds j) ∧ ¬ g.WalkEnds i ∧
          e.kind = g.kind i ∧ ∃ walk, e.cause = .parentCycle walk) ∧
      ((∀ i ∈ request, g.WalkEnds i) →
        ∃ front i back reg, g.order request = .ok (front ++ i :: back) ∧
          g.compileAll pool (.ofConfig c) front = .ok reg ∧ (g.compileInto pool i reg).error = some e ∧
          e.kind = g.kind i ∧
          ((∃ field type, e.cause = .unsupportedType field type) ∨ ∃ why, e.cause = .rejected why)) := by
  obtain ⟨e, rfl, horder | ⟨ordered, horder, hall⟩⟩ := compile_eq_error_iff.mp h
  · obtain ⟨front, i, back, hrequest, hfront, hlineage⟩ := order_eq_error_iff.mp horder
    have hends := not_walkEnds_of_lineage_eq_error hlineage
    refine ⟨e, rfl, ?_, ?_⟩
    · intro _
      exact ⟨horder, front, i, back, hrequest, hfront, hends, cycle_of_lineage_eq_error hlineage⟩
    · intro hwalks
      exact absurd (hwalks i (hrequest ▸ by simp)) hends
  · obtain ⟨front, i, back, reg, rfl, hfront, herror⟩ := exists_of_compileAll_eq_error hall
    have hwalks := exists_order_iff.mp ⟨_, horder⟩
    refine ⟨e, rfl, ?_, ?_⟩
    · intro ⟨j, hj, hends⟩
      exact absurd (hwalks j hj) hends
    · intro _
      have hw : g.WalkEnds i := walkEnds_of_order horder (by simp)
      obtain ⟨hkind, htype | hwhy | ⟨m, _, type, hneeds, hlacks, _⟩⟩ := compileInto_error_of_walkEnds hw herror
      · exact ⟨front, i, back, reg, horder, hfront, herror, hkind, .inl htype⟩
      · exact ⟨front, i, back, reg, horder, hfront, herror, hkind, .inr hwhy⟩
      · exact absurd (hpool.declares hneeds) hlacks

/-- Books have a field of no known type. Shelves and stores are each other's parents. -/
def jumble : Graph 3 where
  resource
    | 0 => { kind := "Book", plural := "books", type := "bookstore.example.com/Book"
             fields := [⟨"price", "money", 1⟩], methods := .empty }
    | 1 => { kind := "Shelf", plural := "shelves", type := "bookstore.example.com/Shelf", fields := []
             methods := .ofList [.create] }
    | 2 => { kind := "Store", plural := "stores", type := "bookstore.example.com/Store", fields := []
             methods := .ofList [.create] }
  parents
    | 0 => []
    | 1 => [2]
    | 2 => [1]

/-- The store is reported although the book comes before it, and the book once neither store nor shelf is requested. -/
theorem jumble_failure :
    (jumble.compile .standard [0, 2, 1] ⟨"Bookstore", "bookstore.v1", none⟩ =
        .error (.resource ⟨"Store", .parentCycle ["Store", "Shelf", "Store"]⟩) ∧
      ∃ front i back, [0, 2, 1] = front ++ i :: back ∧ (∀ j ∈ front, jumble.WalkEnds j) ∧ ¬ jumble.WalkEnds i ∧
        "Store" = jumble.kind i) ∧
    (jumble.compile .standard [0] ⟨"Bookstore", "bookstore.v1", none⟩ =
        .error (.resource ⟨"Book", .unsupportedType "price" "money"⟩) ∧
      ∃ front i back, jumble.order [0] = .ok (front ++ i :: back) ∧ "Book" = jumble.kind i) := by
  constructor
  · have hstore : jumble.compile .standard [0, 2, 1] ⟨"Bookstore", "bookstore.v1", none⟩ =
        .error (.resource ⟨"Store", .parentCycle ["Store", "Shelf", "Store"]⟩) := rfl
    have hlineage : jumble.lineage 2 = .error ⟨"Store", .parentCycle ["Store", "Shelf", "Store"]⟩ := rfl
    obtain ⟨e, he, hcycle, _⟩ := compile_failure Pool.standard_hasWellKnown hstore
    obtain rfl := Failure.resource.inj he
    obtain ⟨_, front, i, back, hrequest, hfront, hends, hkind, _⟩ :=
      hcycle ⟨2, by simp, not_walkEnds_of_lineage_eq_error hlineage⟩
    exact ⟨hstore, front, i, back, hrequest, hfront, hends, hkind⟩
  · have herror : (jumble.compileInto .standard 0 (.ofConfig ⟨"Bookstore", "bookstore.v1", none⟩)).error =
        some ⟨"Book", .unsupportedType "price" "money"⟩ := by decide +kernel
    have hbook : jumble.compile .standard [0] ⟨"Bookstore", "bookstore.v1", none⟩ =
        .error (.resource ⟨"Book", .unsupportedType "price" "money"⟩) :=
      compile_eq_error_iff.mpr ⟨_, rfl, .inr ⟨[0], rfl, by simp only [compileAll, herror]⟩⟩
    obtain ⟨e, he, _, hbuild⟩ := compile_failure Pool.standard_hasWellKnown hbook
    obtain rfl := Failure.resource.inj he
    obtain ⟨front, i, back, _, horder, _, _, hkind, _⟩ := hbuild (exists_order_iff.mp ⟨[0], rfl⟩)
    exact ⟨hbook, front, i, back, horder, hkind⟩

end Graph

end ResourceApi
