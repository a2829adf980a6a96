import Mathlib.Data.List.Forall2
import ResourceApi.Compile.Plan
import ResourceApi.Proofs.Blueprint
import ResourceApi.Proofs.Lineage

/-!
The steps of a resource against its block: a step that succeeds makes the entry of the block in its place, and all
steps succeed exactly when the declared fields and the generated requests are legal and the pool declares what the
methods refer to.
-/

namespace ResourceApi

/-- The step makes this entry or none. -/
def Yields (step : Step) (entry : Entry) : Prop := ∀ made, step = .ok made → made = entry

def Succeeds (step : Step) : Prop := ∃ made, step = .ok made

theorem importOf_eq_ok_iff {pool : Pool} {kind type : String} {made : Entry} :
    importOf pool kind type = .ok made ↔ pool.Declares type ∧ made = .importFile (pool.home type) := by
  unfold importOf Pool.Declares
  cases hfile : pool.declaring? type with
  | none => simp
  | some f => simp [Pool.home_eq_of_declaring? hfile, eq_comm]

theorem importOf_eq_error_iff {pool : Pool} {kind type : String} {e : ResourceError} :
    importOf pool kind type = .error e ↔ ¬ pool.Declares type ∧ e = ⟨kind, .unknownType type⟩ := by
  unfold importOf Pool.Declares
  cases hfile : pool.declaring? type <;> simp [eq_comm]

/-- Registers a message that is built field by field. -/
def messageStep (kind : String) (m : Message) : Step := (buildMessage kind m.name m.comment m.fields).map .message

theorem messageStep_eq_ok_iff {kind : String} {m : Message} {made : Entry} :
    messageStep kind m = .ok made ↔ m.Legal ∧ made = .message m :=
  Attempt.map_eq_ok_iff_of_value fun _ => buildMessage_eq_ok_iff

namespace Blueprint

/-- The fields of a request that do not depend on an import. -/
def fieldsBeforeImport (b : Blueprint) (m : Method) : List Field :=
  (m.row.request.filter (· ≠ .updateMask)).map b.field

/-- The import comes once these fields are accepted. -/
def importStep (b : Blueprint) (pool : Pool) (m : Method) (type : String) : Step :=
  buildMessage b.kind (b.request m).name (b.request m).comment (b.fieldsBeforeImport m) >>= fun _ =>
    importOf pool b.kind type

section ImportStep

variable {b : Blueprint} {pool : Pool} {m : Method} {type : String}

theorem importStep_eq_ok {made : Entry} (h : b.importStep pool m type = .ok made) :
    pool.Declares type ∧ made = .importFile (pool.home type) := by
  obtain ⟨_, _, himport⟩ := Attempt.bind_eq_ok_iff.mp h
  exact importOf_eq_ok_iff.mp himport

theorem importStep_yields : Yields (b.importStep pool m type) (.importFile (pool.home type)) :=
  fun _ h => (importStep_eq_ok h).2

theorem importStep_eq_importOf (h : LegalSlots ((b.fieldsBeforeImport m).map Field.slot)) :
    b.importStep pool m type = importOf pool b.kind type := by
  rw [importStep, buildMessage_eq_ok_iff.mpr ⟨h, rfl⟩]
  rfl

/-- The fields before the import are accepted where all fields of the request are. -/
theorem importStep_succeeds (h : (b.request m).Legal) (hdeclared : pool.Declares type) :
    Succeeds (b.importStep pool m type) := by
  have hslots : LegalSlots ((b.fieldsBeforeImport m).map Field.slot) := h.sublist ((List.filter_sublist.map _).map _)
  rw [importStep_eq_importOf hslots]
  exact ⟨_, importOf_eq_ok_iff.mpr ⟨hdeclared, rfl⟩⟩

end ImportStep

/-- A block as far as it is made of the resource's own message and of some methods. -/
def entriesFor (b : Blueprint) (pool : Pool) (ms : List Method) : List Entry :=
  .message b.resource.ownMessage :: ms.flatMap (b.methodEntries pool)

/-- The set keeps its methods in the order of the table already. -/
theorem methods_eq (b : Blueprint) : b.methods = b.resource.methods.toList := b.resource.methods.filter_all

theorem mem_methodMessages {b : Blueprint} {m : Method} {x : Message} :
    x ∈ b.methodMessages m ↔ x = b.request m ∨ m.row.answer = .page ∧ x = b.page m := by
  rw [methodMessages, List.mem_cons]
  split_ifs with h <;> simp [h]

theorem page_legal (b : Blueprint) (m : Method) : (b.page m).Legal :=
  show LegalSlots [⟨"results", 10016⟩, ⟨"next_page_token", 10011⟩] by decide

/-- What the name of the resource's field has to be like in the requests of a method. -/
def FieldNameFits (name : String) : Method → Prop
  | .create => Text.isIdentifier name = true ∧ name ≠ "parent" ∧ name ≠ "id"
  | .update => Text.isIdentifier name = true ∧ name ≠ "path" ∧ name ≠ "update_mask"
  | .apply => Text.isIdentifier name = true ∧ name ≠ "path"
  | _ => True

private theorem legal_with_resource {slots : List Slot} {name : String} (h : LegalSlots slots)
    (hnumber : ∀ s ∈ slots, s.number ≠ 10015) :
    LegalSlots (slots ++ [⟨name, 10015⟩]) ↔ Text.isIdentifier name = true ∧ ∀ s ∈ slots, name ≠ s.name := by
  have hlegal : LegalNumber 10015 := by decide
  rw [LegalSlots.concat_iff]
  constructor
  · rintro ⟨_, hid, _, hfresh⟩
    exact ⟨hid, fun s hs => (hfresh s hs).2.symm⟩
  · rintro ⟨hid, hname⟩
    exact ⟨h, hid, hlegal, fun s hs => ⟨hnumber s hs, (hname s hs).symm⟩⟩

/-- The fixed fields of a request never stand in each other's way. -/
theorem request_legal_iff (b : Blueprint) (m : Method) :
    (b.request m).Legal ↔ FieldNameFits b.resource.fieldName m := by
  cases m with
  | create =>
    change LegalSlots ([⟨"parent", 1⟩, ⟨"id", 2⟩] ++ [⟨b.resource.fieldName, 10015⟩]) ↔ _
    rw [legal_with_resource (by decide) (by decide)]
    simp [FieldNameFits]
  | read => exact iff_of_true (show LegalSlots [⟨"path", 1⟩] by decide) trivial
  | update =>
    have hperm : ([⟨"path", 1⟩, ⟨"update_mask", 10012⟩] ++ [⟨b.resource.fieldName, 10015⟩] : List Slot).Perm
        [⟨"path", 1⟩, ⟨b.resource.fieldName, 10015⟩, ⟨"update_mask", 10012⟩] := .cons _ (.swap _ _ _)
    change LegalSlots [⟨"path", 1⟩, ⟨b.resource.fieldName, 10015⟩, ⟨"update_mask", 10012⟩] ↔ _
    rw [← show LegalSlots _ ↔ LegalSlots _ from ⟨(·.perm hperm), (·.perm hperm.symm)⟩,
      legal_with_resource (by decide) (by decide)]
    simp [FieldNameFits]
  | delete => exact iff_of_true (show LegalSlots [⟨"path", 1⟩] by decide) trivial
  | list =>
    exact iff_of_true (show LegalSlots [⟨"parent", 1⟩, ⟨"page_token", 10010⟩, ⟨"max_page_size", 10017⟩] by decide)
      trivial
  | globalList => exact iff_of_true (show LegalSlots [⟨"path", 1⟩, ⟨"page_token", 10010⟩] by decide) trivial
  | apply =>
    change LegalSlots ([⟨"path", 1⟩] ++ [⟨b.resource.fieldName, 10015⟩]) ↔ _
    rw [legal_with_resource (by decide) (by decide)]
    simp [FieldNameFits]

end Blueprint

namespace Graph

variable {n : Nat}

def blueprint (g : Graph n) (package : String) (i : Fin n) : Blueprint where
  package := package
  ancestors := g.ancestorSegments i
  resource := g.resource i

end Graph

namespace Site

/-- The template that a method binds, which may have failed. -/
def templateFor (s : Site) : Target → Except ResourceError String
  | .collection => s.collection
  | .item => s.itemTemplate "path"
  | .nestedItem => s.itemTemplate (s.resource.fieldName ++ "." ++ "path")
  | .everywhere => .ok s.globalTemplate

def rpcStep (s : Site) (b : Blueprint) (m : Method) : Step :=
  (s.templateFor m.row.target).map fun template =>
    .rpc { b.rpc m with http := { (b.rpc m).http with path := template } }

/-- The steps that make such a part of a block. -/
def stepsFor (s : Site) (ms : List Method) : List Step :=
  s.resource.toMessage.map .message :: ms.flatMap s.methodSteps

variable {n : Nat} (g : Graph n) (pool : Pool) (i : Fin n) (package : String) (m : Method)

/-- Every method is an import if the table asks for one, its messages and its RPC. -/
theorem methodSteps_eq :
    let b := g.blueprint package i
    let s := g.site pool i package (g.kind i)
    s.methodSteps m = m.wellKnown.map (b.importStep pool m) ++ (b.methodMessages m).map (messageStep b.kind) ++
      [s.rpcStep b m] := by
  intro b s
  cases m <;> rfl

variable {g pool i package m}

theorem itemTemplate_eq_ok_iff {variableName template : String} :
    (g.site pool i package (g.kind i)).itemTemplate variableName = .ok template ↔
      g.WalkEnds i ∧
        template = "/\x7b" ++ variableName ++ "=" ++ ((g.blueprint package i).collection ++ "/*") ++ "\x7d" :=
  Attempt.map_eq_ok_iff_of_value fun _ => Graph.itemPath_eq_ok_iff

theorem templateFor_eq_ok_iff {target : Target} {template : String} :
    (g.site pool i package (g.kind i)).templateFor target = .ok template ↔
      (target = .everywhere ∨ g.WalkEnds i) ∧ template = (g.blueprint package i).template target := by
  cases target with
  | collection =>
    rw [or_iff_right (by decide)]
    exact Graph.parentTemplate_eq_ok_iff
  | item =>
    rw [or_iff_right (by decide)]
    exact itemTemplate_eq_ok_iff
  | nestedItem =>
    have hname : (g.blueprint package i).variableName .nestedItem = (g.resource i).fieldName ++ "." ++ "path" := by
      rw [String.append_assoc]
      rfl
    rw [or_iff_right (by decide), Blueprint.template, hname]
    exact itemTemplate_eq_ok_iff
  | everywhere =>
    have hglobal : (g.site pool i package (g.kind i)).globalTemplate =
        (g.blueprint package i).template .everywhere := by
      rw [globalTemplate, Blueprint.template, Blueprint.pattern, show "--/" = wildcard ++ "/" from rfl]
      simp only [String.append_assoc]
      rfl
    rw [templateFor, hglobal, Except.ok.injEq, eq_comm, and_iff_right (.inl rfl)]

theorem rpcStep_eq_ok_iff {made : Entry} :
    (g.site pool i package (g.kind i)).rpcStep (g.blueprint package i) m = .ok made ↔
      (m.row.target = .everywhere ∨ g.WalkEnds i) ∧ made = .rpc ((g.blueprint package i).rpc m) :=
  Attempt.map_eq_ok_iff_of_value fun _ => templateFor_eq_ok_iff

theorem methodSteps_yield :
    List.Forall₂ Yields ((g.site pool i package (g.kind i)).methodSteps m)
      ((g.blueprint package i).methodEntries pool m) := by
  rw [methodSteps_eq, Blueprint.methodEntries]
  refine List.rel_append (List.rel_append ?_ ?_) (.cons ?_ .nil)
  · rw [List.forall₂_map_left_iff, List.forall₂_map_right_iff, List.forall₂_same]
    exact fun type _ => Blueprint.importStep_yields
  · rw [List.forall₂_map_left_iff, List.forall₂_map_right_iff, List.forall₂_same]
    exact fun x _ made h => (messageStep_eq_ok_iff.mp h).2
  · exact fun made h => (rpcStep_eq_ok_iff.mp h).2

theorem methodSteps_succeed_iff (hw : g.WalkEnds i) :
    (∀ step ∈ (g.site pool i package (g.kind i)).methodSteps m, Succeeds step) ↔
      ((g.blueprint package i).request m).Legal ∧ ∀ type ∈ m.wellKnown, pool.Declares type := by
  rw [methodSteps_eq]
  simp only [List.forall_mem_append, List.forall_mem_map, List.forall_mem_singleton]
  constructor
  · rintro ⟨⟨himports, hmessages⟩, _⟩
    constructor
    · obtain ⟨made, hmade⟩ := hmessages _ (Blueprint.mem_methodMessages.mpr (.inl rfl))
      exact (messageStep_eq_ok_iff.mp hmade).1
    · intro type htype
      obtain ⟨made, hmade⟩ := himports type htype
      exact (Blueprint.importStep_eq_ok hmade).1
  · rintro ⟨hlegal, hdeclared⟩
    refine ⟨⟨fun type htype => Blueprint.importStep_succeeds hlegal (hdeclared type htype), ?_⟩,
      ⟨_, rpcStep_eq_ok_iff.mpr ⟨.inr hw, rfl⟩⟩⟩
    intro x hx
    refine ⟨_, messageStep_eq_ok_iff.mpr ⟨?_, rfl⟩⟩
    rcases Blueprint.mem_methodMessages.mp hx with rfl | ⟨_, rfl⟩
    · exact hlegal
    · exact Blueprint.page_legal _ m

variable (g pool i package)

theorem stepsFor_yield (ms : List Method) :
    List.Forall₂ Yields ((g.site pool i package (g.kind i)).stepsFor ms)
      ((g.blueprint package i).entriesFor pool ms) := by
  refine .cons ?_ (List.rel_flatMap (List.forall₂_same.mpr fun m _ => rfl) ?_)
  · intro made h
    obtain ⟨x, hx, rfl⟩ := Attempt.map_eq_ok_iff.mp h
    rw [(Resource.toMessage_eq_ok_iff.mp hx).2]
    rfl
  · rintro m _ rfl
    exact methodSteps_yield

/-- Step by step, a resource makes the entries of its block or fails. -/
theorem steps_yield :
    List.Forall₂ Yields (g.site pool i package (g.kind i)).steps ((g.blueprint package i).entries pool) := by
  rw [Blueprint.entries, Blueprint.methods_eq]
  exact stepsFor_yield g pool i package _

variable {g pool i package}

theorem steps_succeed_iff (hw : g.WalkEnds i) :
    (∀ step ∈ (g.site pool i package (g.kind i)).steps, Succeeds step) ↔
      (g.resource i).LegalFields ∧
        ∀ m ∈ (g.resource i).methods, Blueprint.FieldNameFits (g.resource i).fieldName m ∧
          ∀ type ∈ m.wellKnown, pool.Declares type := by
  have hown : Succeeds ((g.resource i).toMessage.map .message) ↔ (g.resource i).LegalFields := by
    simp [Succeeds, Attempt.map_eq_ok_iff, Resource.toMessage_eq_ok_iff]
  rw [steps, List.forall_mem_cons, List.forall_mem_flatMap]
  refine and_congr hown (forall₂_congr fun m _ => ?_)
  rw [methodSteps_succeed_iff hw, Blueprint.request_legal_iff]
  rfl

end Site

end ResourceApi
