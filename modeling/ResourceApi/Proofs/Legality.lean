import ResourceApi.Proofs.Closure

/-!
Legal messages in every registry that calls reach. A message is registered once all of its fields are accepted, so
nothing that a failed call leaves behind stops the file from being rendered.
-/

namespace ResourceApi

/-- Only messages can be illegal. -/
def Entry.Legal : Entry → Prop
  | .importFile _ => True
  | .message m => m.Legal
  | .rpc _ => True

namespace Site

variable {n : Nat} {g : Graph n} {pool : Pool} {i : Fin n} {package : String} {m : Method} {made : Entry}

theorem legal_of_mem_methodSteps (h : .ok made ∈ (g.site pool i package (g.kind i)).methodSteps m) : made.Legal := by
  rw [methodSteps_eq] at h
  simp only [List.mem_append, List.mem_map, List.mem_singleton] at h
  rcases h with (⟨type, _, hstep⟩ | ⟨x, _, hstep⟩) | hstep
  · obtain rfl := Blueprint.importStep_yields made hstep
    trivial
  · obtain ⟨hlegal, rfl⟩ := messageStep_eq_ok_iff.mp hstep
    exact hlegal
  · obtain ⟨_, rfl⟩ := rpcStep_eq_ok_iff.mp hstep.symm
    trivial

/-- A step that succeeds makes a legal entry, whatever becomes of the others. -/
theorem legal_of_mem_steps (h : .ok made ∈ (g.site pool i package (g.kind i)).steps) : made.Legal := by
  rw [steps, List.mem_cons, List.mem_flatMap] at h
  rcases h with h | ⟨m, _, h⟩
  · obtain ⟨x, hx, rfl⟩ := Attempt.map_eq_ok_iff.mp h.symm
    obtain ⟨hfields, rfl⟩ := Resource.toMessage_eq_ok_iff.mp hx
    exact hfields.ownMessage_legal
  · exact legal_of_mem_methodSteps h

end Site

namespace Registry

variable {P : Registry → Prop} {pool : Pool} {reg : Registry}

/-- What every entry of a run keeps holds where the run ends or stops. -/
theorem run_inv (kind : String) {steps : List Step}
    (hput : ∀ reg made, .ok made ∈ steps → P reg → P (reg.put made)) (h : P reg) :
    P (reg.run kind steps).registry := by
  induction steps generalizing reg with
  | nil => exact h
  | cons step steps ih =>
    cases step with
    | error why => exact h
    | ok made =>
      rw [run]
      cases henter : reg.enter made with
      | error why => exact h
      | ok next =>
        obtain ⟨_, rfl⟩ := enter_eq_ok_iff.mp henter
        exact ih (fun reg made hmem => hput reg made (List.mem_cons_of_mem _ hmem))
          (hput reg made List.mem_cons_self h)

/-- What holds of fresh registries and is kept by every entry that some resource makes holds of all that calls
reach. -/
theorem Reached.inv (hfresh : ∀ package fileName service, P { package, fileName, service })
    (hput : ∀ {n : Nat} (g : Graph n) (i : Fin n) (package : String) (reg : Registry) (made : Entry),
      .ok made ∈ (g.site pool i package (g.kind i)).steps → P reg → P (reg.put made))
    (h : reg.Reached pool) : P reg := by
  induction h with
  | fresh package fileName service => exact hfresh package fileName service
  | @call reg n g i _ ih =>
    rw [(g.compileInto_run pool i reg).1]
    exact run_inv (g.kind i) (hput g i reg.package) ih
  | @within reg n g i k _ ih =>
    exact run_inv (g.kind i)
      (fun reg' made hmem => hput g i reg.package reg' made (List.mem_of_mem_take hmem)) ih

def LegalMessages (reg : Registry) : Prop := ∀ m ∈ reg.messages.items, m.Legal

theorem LegalMessages.put {e : Entry} (h : reg.LegalMessages) (he : e.Legal) : (reg.put e).LegalMessages := by
  intro m hm
  rw [messages_items_put, List.mem_append] at hm
  rcases hm with hm | hm
  · exact h m hm
  · cases e with
    | message x =>
      obtain rfl := List.mem_singleton.mp hm
      exact he
    | importFile file => cases hm
    | rpc r => cases hm

theorem Reached.legalMessages (h : reg.Reached pool) : reg.LegalMessages :=
  h.inv (P := LegalMessages) (fun _ _ _ _ hm => absurd hm List.not_mem_nil)
    fun _ _ _ _ _ hmade hreg => hreg.put (Site.legal_of_mem_steps hmade)

end Registry

namespace Message

/-- Legal numbers go through the conversion to 32 bits unchanged. -/
theorem Legal.numbers_descriptor {m : Message} (h : m.Legal) :
    (m.descriptor.fields.map fun f => f.number.toInt) = m.fields.map Field.number := by
  rw [descriptor, List.map_map]
  refine List.map_congr_left fun f hf => ?_
  obtain ⟨hlow, hhigh, _⟩ := h.numbers f.slot (List.mem_map_of_mem hf)
  change 1 ≤ f.number at hlow
  change f.number ≤ 536870911 at hhigh
  exact Int32.toInt_ofInt_of_le (by omega) (by omega)

end Message

theorem Field.type_xor (f : Field) :
    Xor (∃ type, f.type = .scalar type) (∃ fullName, f.type = .message fullName) := by
  cases htype : f.type <;> simp [Xor]

namespace Registry

/-- Whatever calls have been made with a pool, and wherever they have stopped, each registered message is a legal one,
and the file can be rendered with the numbers that the messages have. -/
theorem reached_render {pool : Pool} {reg : Registry} (h : reg.Reached pool) :
    (∀ m ∈ reg.messages.items,
      (m.fields.map Field.number).Nodup ∧ (m.fields.map Field.name).Nodup ∧
      ∀ f ∈ m.fields, Text.IsIdentifier f.name ∧ (1 ≤ f.number ∧ f.number ≤ 536870911) ∧
        ¬ (19000 ≤ f.number ∧ f.number ≤ 19999) ∧
        Xor (∃ type, f.type = .scalar type) (∃ fullName, f.type = .message fullName)) ∧
    ∃ file, reg.render = .ok file ∧
      (file.messages.map fun m => (m.name, m.fields.map fun f => f.number.toInt)) =
        reg.messages.items.map fun m => (m.name, m.fields.map Field.number) := by
  have hlegal := h.legalMessages
  refine ⟨fun m hm => ?_, reg.descriptor, render_eq_ok_descriptor hlegal, ?_⟩
  · obtain ⟨hfields, hnumbers, hnames⟩ := LegalSlots.map_iff.mp (hlegal m hm)
    refine ⟨hnumbers, hnames, fun f hf => ?_⟩
    obtain ⟨hname, hrange, hreserved⟩ := hfields f hf
    exact ⟨hname, hrange, hreserved, f.type_xor⟩
  · rw [descriptor, List.map_map]
    refine List.map_congr_left fun m hm => ?_
    exact congrArg (Prod.mk m.name) (hlegal m hm).numbers_descriptor

/-- Stores are compiled twice. The second call stops where their names are taken, and the file has the messages of the
first. -/
theorem bookstore_render :
    let stores := (Graph.bookstore.compileInto .standard 0
      { package := "bookstore.v1", fileName := "api.proto", service := "Bookstore" }).registry
    let again := Graph.bookstore.compileInto .standard 0 stores
    again.registry.Reached .standard ∧ again.error = some ⟨"Store", .rejected (.messageTaken "Store" "api.proto")⟩ ∧
      (∀ m ∈ again.registry.messages.items, (m.fields.map Field.number).Nodup) ∧
      ∃ file, again.registry.render = .ok file ∧
        (file.messages.map fun m => (m.name, m.fields.map fun f => f.number.toInt)) =
          [("Store", [1]), ("GetStoreRequest", [1]), ("ListStoreRequest", [1, 10010, 10017]),
            ("ListStoreResponse", [10016, 10011])] := by
  intro stores again
  have hreached : again.registry.Reached .standard := .call _ _ (.call _ _ (.fresh _ _ _))
  obtain ⟨hmessages, file, hfile, hnumbers⟩ := reached_render hreached
  have hregistered : (again.registry.messages.items.map fun m => (m.name, m.fields.map Field.number)) =
      [("Store", [1]), ("GetStoreRequest", [1]), ("ListStoreRequest", [1, 10010, 10017]),
        ("ListStoreResponse", [10016, 10011])] := by decide +kernel
  exact ⟨hreached, by decide +kernel, fun m hm => (hmessages m hm).1, file, hfile, hnumbers.trans hregistered⟩

end Registry

end ResourceApi
