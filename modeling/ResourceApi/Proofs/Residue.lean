import ResourceApi.Proofs.Run

/-!
What a call leaves behind. A resource has a plan of events, and a call carries out the plan up to the first event that
fails. The registry and the log show the events before it and nothing else.
-/

namespace ResourceApi

namespace Blueprint

variable (b : Blueprint) (pool : Pool)

/-- The events of a method: what it imports, its messages, and last its RPC. -/
def methodPlan (m : Method) : List Entry :=
  match m with
  | .create | .read | .apply => [.message (b.request m), .rpc (b.rpc m)]
  | .update => [.importFile (pool.home "google.protobuf.FieldMask"), .message (b.request m), .rpc (b.rpc m)]
  | .delete => [.importFile (pool.home "google.protobuf.Empty"), .message (b.request m), .rpc (b.rpc m)]
  | .list | .globalList => [.message (b.request m), .message (b.page m), .rpc (b.rpc m)]

/-- The events of a resource. Where its walk does not end, the paths in its RPCs stand for nothing, and so does the file
of a type that the pool lacks, but then no call gets as far as those RPCs or that import. -/
def plan : List Entry :=
  .message b.resource.ownMessage ::
    ([Method.create, .read, .update, .delete, .list, .globalList, .apply].filter
      (· ∈ b.resource.methods)).flatMap (b.methodPlan pool)

theorem entries_eq_plan : b.entries pool = b.plan pool := by
  have hmethod : b.methodEntries pool = b.methodPlan pool := by
    funext m
    cases m <;> rfl
  rw [entries, plan, hmethod, methods]

end Blueprint

namespace Registry

variable {reg : Registry} {kind : String} {steps : List Step} {es made : List Entry} {e : Entry}
  {why first : ResourceError}

theorem StopsAt.made_front (h : reg.StopsAt kind steps es made e why) : made <+: es := by
  obtain ⟨rest, hfront⟩ := h.front
  exact ⟨e :: rest, hfront.symm⟩

theorem StopsAt.made_ne (h : reg.StopsAt kind steps es made e why) : made ≠ es := by
  obtain ⟨rest, rfl⟩ := h.front
  simp

/-- Before a first step that fails nothing can have been made. -/
theorem StopsAt.made_eq_nil (h : reg.StopsAt kind (.error first :: steps) es made e why) : made = [] := by
  rcases h.cause with ⟨more, hsteps⟩ | ⟨⟨more, hsteps⟩, _⟩
  · cases made with
    | nil => rfl
    | cons e made => cases hsteps
  · cases made with
    | nil => cases hsteps
    | cons e made => cases hsteps

end Registry

namespace Graph

variable {n : Nat}

/-- Whatever the registry holds and whatever becomes of the call, the registry afterwards is the one before with the
events from the front of the plan, and the log has a record for each registration among them. The call succeeds exactly
when these are all events. If it fails, it stops at the event after them. With the usual pool, updates import the file
of field masks and deletions that of the empty message. -/
theorem compileInto_leaves (g : Graph n) (pool : Pool) (i : Fin n) (reg : Registry) :
    let plan := (g.blueprint reg.package i).plan pool
    let outcome := g.compileInto pool i reg
    (pool.HasWellKnown → pool.home "google.protobuf.FieldMask" = "google/protobuf/field_mask.proto" ∧
      pool.home "google.protobuf.Empty" = "google/protobuf/empty.proto") ∧
    ∃ made, made <+: plan ∧ outcome.registry = reg.extend made ∧
      (outcome.error = none ↔ made = plan) ∧
      (∀ why, outcome.error = some why →
        ∃ e, reg.StopsAt (g.kind i) (g.site pool i reg.package (g.kind i)).steps plan made e why) ∧
      (∀ why, (g.resource i).toMessage = .error why → made = [] ∧ outcome.registry = reg) ∧
      outcome.log = made.flatMap Entry.logged ++
        if outcome.error = none then [.resource (g.kind i) (g.resource i).methods.size] else [] := by
  intro plan outcome
  refine ⟨fun hpool => ⟨hpool.home_fieldMask, hpool.home_empty⟩, ?_⟩
  have hcases := g.compileInto_cases pool i reg
  have hsteps : (g.site pool i reg.package (g.kind i)).steps = (g.resource i).toMessage.map .message ::
      (g.resource i).methods.toList.flatMap (g.site pool i reg.package (g.kind i)).methodSteps := rfl
  rw [Blueprint.entries_eq_plan] at hcases
  rcases hcases with ⟨hall, _, houtcome⟩ | ⟨made, e, why, hstop, houtcome⟩
  · replace houtcome : outcome = _ := houtcome
    rw [houtcome]
    refine ⟨plan, List.prefix_rfl, rfl, iff_of_true rfl rfl, ?_, ?_, rfl⟩
    · intro why hwhy
      cases hwhy
    · intro why hwhy
      rw [hsteps, hwhy] at hall
      cases hall
  · replace houtcome : outcome = _ := houtcome
    rw [houtcome]
    refine ⟨made, hstop.made_front, rfl, iff_of_false nofun hstop.made_ne, ?_, ?_, (List.append_nil _).symm⟩
    · intro why' hwhy
      obtain rfl := Option.some.inj hwhy
      exact ⟨e, hstop⟩
    · intro why' hwhy
      rw [hsteps, hwhy] at hstop
      obtain rfl := hstop.made_eq_nil
      exact ⟨rfl, rfl⟩

/-- A resource whose field in requests has the name of the mask. -/
def masks : Graph 1 where
  resource _ := { kind := "UpdateMask", plural := "masks", type := "example.com/UpdateMask", fields := []
                  methods := .ofList [.update] }
  parents _ := []

/-- The mask's file stays imported although the mask has no place in the request. -/
theorem masks_leave_import :
    let reg : Registry := { package := "masks.v1", fileName := "masks.proto", service := "Masks" }
    let outcome := masks.compileInto .standard 0 reg
    outcome.error = some ⟨"UpdateMask", .rejected (.fieldTaken "UpdateUpdateMaskRequest" "update_mask")⟩ ∧
      outcome.registry.imports = apiImports ++ ["google/protobuf/field_mask.proto"] ∧
      outcome.log = [.message "UpdateMask"] ∧
      ∃ made, made <+: (masks.blueprint "masks.v1" 0).plan .standard ∧
        made ≠ (masks.blueprint "masks.v1" 0).plan .standard ∧ outcome.registry = reg.extend made := by
  intro reg outcome
  have hrun : outcome.error =
        some ⟨"UpdateMask", .rejected (.fieldTaken "UpdateUpdateMaskRequest" "update_mask")⟩ ∧
      outcome.registry.imports = apiImports ++ ["google/protobuf/field_mask.proto"] ∧
      outcome.log = [.message "UpdateMask"] := by decide +kernel
  obtain ⟨herror, himports, hlog⟩ := hrun
  obtain ⟨_, made, hfront, hreg, hall, _⟩ := masks.compileInto_leaves .standard 0 reg
  refine ⟨herror, himports, hlog, made, hfront, ?_, hreg⟩
  intro hmade
  cases herror.symm.trans (hall.mpr hmade)

end Graph

end ResourceApi
