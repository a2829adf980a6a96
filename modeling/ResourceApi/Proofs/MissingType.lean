import ResourceApi.Proofs.Blame
import ResourceApi.Proofs.Compilation

/-!
Types that the pool lacks. A call gets as far as the first method that refers to one, and what is made for the methods
before it stays. Nothing is registered for that method, and no resource that has it is ever compiled.
-/

namespace ResourceApi

/-- Steps that all succeed make the entries in their places. -/
theorem eq_map_ok_of_yields {steps : List Step} {es : List Entry} (hyield : List.Forall₂ Yields steps es)
    (h : ∀ step ∈ steps, Succeeds step) : steps = es.map .ok := by
  induction hyield with
  | nil => rfl
  | cons hstep _ ih =>
    obtain ⟨⟨made, rfl⟩, hrest⟩ := List.forall_mem_cons.mp h
    rw [hstep made rfl, ih hrest, List.map_cons]

/-- A run makes what it can up to the first step that fails. -/
theorem Registry.run_of_first_error {reg : Registry} {es : List Entry} (h : reg.Admits es) (kind : String)
    (why : ResourceError) (more : List Step) :
    reg.run kind (es.map .ok ++ .error why :: more) = ⟨reg.extend es, es.flatMap Entry.logged, some why⟩ := by
  induction es generalizing reg with
  | nil => rfl
  | cons e es ih =>
    obtain ⟨hfree, hrest⟩ := h
    have henter : reg.enter e = .ok (reg.put e) := enter_eq_ok_iff.mpr ⟨hfree, rfl⟩
    simp [run, henter, ih hrest]

theorem Blueprint.importStep_eq_unknownType_iff {b : Blueprint} {pool : Pool} {m : Method} {type kind other : String} :
    b.importStep pool m type = .error ⟨kind, .unknownType other⟩ ↔
      LegalSlots ((b.fieldsBeforeImport m).map Field.slot) ∧ ¬ pool.Declares type ∧ kind = b.kind ∧ other = type := by
  constructor
  · intro h
    rcases Attempt.bind_eq_error_iff.mp h with hbuild | ⟨made, hbuild, himport⟩
    · exact absurd (faultsField_of_buildMessage hbuild).2 id
    · obtain ⟨hlacks, he⟩ := importOf_eq_error_iff.mp himport
      obtain ⟨rfl, hcause⟩ := ResourceError.mk.inj he
      exact ⟨(buildMessage_eq_ok_iff.mp hbuild).1, hlacks, rfl, Cause.unknownType.inj hcause⟩
  · rintro ⟨hlegal, hlacks, rfl, rfl⟩
    rw [importStep_eq_importOf hlegal]
    exact importOf_eq_error_iff.mpr ⟨hlacks, rfl⟩

namespace Site

variable {n : Nat} {g : Graph n} {pool : Pool} {i : Fin n} {package : String} {m : Method} {before after : List Method}

theorem steps_eq_of_split (h : (g.resource i).methods.toList = before ++ m :: after) :
    (g.site pool i package (g.kind i)).steps = (g.site pool i package (g.kind i)).stepsFor before ++
      ((g.site pool i package (g.kind i)).methodSteps m ++
        after.flatMap (g.site pool i package (g.kind i)).methodSteps) := by
  change _ :: (g.resource i).methods.toList.flatMap _ = _
  rw [h, List.flatMap_append, List.flatMap_cons]
  rfl

/-- A method that refers to a type begins with its import. -/
theorem exists_methodSteps_eq_cons (g : Graph n) (pool : Pool) (i : Fin n) (package : String) {type : String}
    (h : type ∈ m.wellKnown) :
    ∃ rest, (g.site pool i package (g.kind i)).methodSteps m =
      (g.blueprint package i).importStep pool m type :: rest := by
  rw [methodSteps_eq]
  cases m with
  | update | delete =>
    obtain rfl := List.mem_singleton.mp h
    exact ⟨_, rfl⟩
  | create | read | list | globalList | apply => cases h

/-- A step that fails over a type, after others that succeed, is the import of its method. -/
theorem import_of_unknownType {kind type : String} {made : List Entry} {more : List Step}
    (h : (g.site pool i package (g.kind i)).steps = made.map .ok ++ .error ⟨kind, .unknownType type⟩ :: more) :
    ∃ before m after, (g.resource i).methods.toList = before ++ m :: after ∧ type ∈ m.wellKnown ∧
      (g.blueprint package i).importStep pool m type = .error ⟨kind, .unknownType type⟩ ∧
      (g.site pool i package (g.kind i)).stepsFor before = made.map .ok := by
  rcases first_error_of_steps h with hown | ⟨before, m, after, inner, rest, hsplit, hm, hfront⟩
  · exact absurd (Resource.faultsField_of_toMessage hown).2 id
  · rcases error_of_mem_methodSteps (hm ▸ List.mem_append_right _ List.mem_cons_self) with
      hfield | ⟨type', htype, hlacks, he⟩ | ⟨j, _, hlineage⟩
    · exact absurd hfield.2 id
    · obtain ⟨_, hcause⟩ := ResourceError.mk.inj he
      obtain rfl := Cause.unknownType.inj hcause
      obtain ⟨later, hfirst⟩ := exists_methodSteps_eq_cons g pool i package htype
      rw [hfirst] at hm
      cases inner with
      | nil =>
        obtain ⟨himport, _⟩ := List.cons.inj hm
        rw [List.append_nil] at hfront
        exact ⟨before, m, after, hsplit, htype, himport, hfront.symm⟩
      | cons step inner =>
        -- The import would be among the steps that succeed.
        obtain ⟨himport, _⟩ := List.cons.inj hm
        have hmade : step ∈ made.map Except.ok := hfront ▸ List.mem_append_right _ List.mem_cons_self
        obtain ⟨entry, _, rfl⟩ := List.mem_map.mp hmade
        exact absurd (Blueprint.importStep_eq_ok himport).1 hlacks
    · obtain ⟨_, _, hcause⟩ := Graph.cycle_of_lineage_eq_error hlineage
      cases hcause

end Site

namespace Graph

variable {n : Nat} {g : Graph n} {pool : Pool} {request : List (Fin n)} {i : Fin n} {reg : Registry} {c : Config}
  {kind type : String} {before : List Method} {m : Method}

/-- The call gets to a method whose type the pool lacks: all before the method succeeds, and so do the fields of its
request that come before the type is needed. -/
structure Misses (g : Graph n) (pool : Pool) (i : Fin n) (reg : Registry) (before : List Method) (m : Method)
    (type : String) : Prop where
  split : ∃ after, (g.resource i).methods.toList = before ++ m :: after
  needed : type ∈ m.wellKnown
  undeclared : ¬ pool.Declares type
  fields : LegalSlots (((g.blueprint reg.package i).fieldsBeforeImport m).map Field.slot)
  succeeds : ∀ step ∈ (g.site pool i reg.package (g.kind i)).stepsFor before, Succeeds step
  admits : reg.Admits ((g.blueprint reg.package i).entriesFor pool before)

/-- The outcome of such a call: nothing of the method itself is imported, registered or logged. -/
theorem Misses.compileInto_eq (h : g.Misses pool i reg before m type) :
    let made := (g.blueprint reg.package i).entriesFor pool before
    g.compileInto pool i reg = ⟨reg.extend made, made.flatMap Entry.logged, some ⟨g.kind i, .unknownType type⟩⟩ := by
  intro made
  obtain ⟨after, hsplit⟩ := h.split
  obtain ⟨rest, hmethod⟩ := Site.exists_methodSteps_eq_cons g pool i reg.package h.needed
  have himport : (g.blueprint reg.package i).importStep pool m type = .error ⟨g.kind i, .unknownType type⟩ :=
    Blueprint.importStep_eq_unknownType_iff.mpr ⟨h.fields, h.undeclared, rfl, rfl⟩
  have hfront : (g.site pool i reg.package (g.kind i)).stepsFor before = made.map .ok :=
    eq_map_ok_of_yields (Site.stepsFor_yield g pool i reg.package before) h.succeeds
  have hsteps : (g.site pool i reg.package (g.kind i)).steps = made.map .ok ++ .error ⟨g.kind i, .unknownType type⟩ ::
      (rest ++ after.flatMap (g.site pool i reg.package (g.kind i)).methodSteps) := by
    rw [Site.steps_eq_of_split hsplit, hfront, hmethod, himport, List.cons_append]
  have hrun := Registry.run_of_first_error h.admits (g.kind i) ⟨g.kind i, .unknownType type⟩
    (rest ++ after.flatMap (g.site pool i reg.package (g.kind i)).methodSteps)
  rw [← hsteps, kind] at hrun
  simp only [compileInto, hrun]
  rfl

/-- A call fails over a type exactly if it gets to a method whose type the pool lacks, and it is the call's own resource
that is reported. -/
theorem compileInto_unknownType_iff :
    (g.compileInto pool i reg).error = some ⟨kind, .unknownType type⟩ ↔
      kind = g.kind i ∧ ∃ before m, g.Misses pool i reg before m type := by
  constructor
  · intro h
    rcases g.compileInto_cases pool i reg with ⟨_, _, houtcome⟩ | ⟨made, e, why, hstop, houtcome⟩
    · rw [houtcome] at h
      cases h
    · rw [houtcome] at h
      obtain rfl := Option.some.inj h
      rcases hstop.cause with ⟨more, hsteps⟩ | ⟨_, reason, _, hwhy⟩
      · obtain ⟨before, m, after, hsplit, htype, himport, hfront⟩ := Site.import_of_unknownType hsteps
        obtain ⟨hfields, hlacks, rfl, _⟩ := Blueprint.importStep_eq_unknownType_iff.mp himport
        have hsucceeds : ∀ step ∈ (g.site pool i reg.package (g.kind i)).stepsFor before, Succeeds step := by
          rw [hfront]
          exact List.forall_mem_map.mpr fun entry _ => ⟨entry, rfl⟩
        have hmade : made = (g.blueprint reg.package i).entriesFor pool before :=
          List.map_injective_iff.mpr (fun _ _ => Except.ok.inj)
            (hfront.symm.trans (eq_map_ok_of_yields (Site.stepsFor_yield g pool i reg.package before) hsucceeds))
        exact ⟨rfl, before, m, ⟨after, hsplit⟩, htype, hlacks, hfields, hsucceeds, hmade ▸ hstop.admits⟩
      · cases hwhy
  · rintro ⟨rfl, before, m, h⟩
    rw [h.compileInto_eq]

/-- A book that can be read or deleted, compiled with a pool that declares nothing. -/
example :
    let books : Graph 1 := {
      resource := fun _ => { kind := "Book", plural := "books", type := "example.com/Book", fields := []
                             methods := .ofList [.read, .delete] }
      parents := fun _ => [] }
    let outcome := books.compileInto ⟨[]⟩ 0 { package := "books.v1", fileName := "books.proto", service := "Books" }
    outcome.error = some ⟨"Book", .unknownType "google.protobuf.Empty"⟩ ∧
      outcome.registry.messages.names = ["Book", "GetBookRequest"] ∧ outcome.registry.rpcs.names = ["GetBook"] ∧
      outcome.registry.imports = apiImports ∧
      outcome.log = [.message "Book", .message "GetBookRequest", .rpc "GetBook"] := by
  decide +kernel

/-- No request is compiled with a resource that refers to a type which the pool lacks. -/
theorem not_compiled_of_undeclared (hi : i ∈ request) (hm : m ∈ (g.resource i).methods) (htype : type ∈ m.wellKnown)
    (hlacks : ¬ pool.Declares type) : ¬ ∃ result, g.compile pool request c = .ok result := by
  rw [exists_compile_iff_compilable]
  exact fun h => hlacks (h.declared i hi m hm type htype)

end Graph

end ResourceApi
