import Mathlib.Data.List.Nodup
import ResourceApi.Compile.Step
import ResourceApi.Proofs.Attempt
import ResourceApi.Proofs.Text

/-!
Legal fields: which lists of fields a message takes when they are added one after another, and which declarations
become the message of a resource.
-/

namespace ResourceApi

def LegalNumber (number : Int) : Prop :=
  1 ≤ number ∧ number ≤ 536870911 ∧ ¬ (19000 ≤ number ∧ number ≤ 19999)

instance (number : Int) : Decidable (LegalNumber number) := inferInstanceAs (Decidable (_ ∧ _))

theorem legalNumber_iff {number : Int} :
    LegalNumber number ↔ ¬ (number < 1 ∨ maxFieldNumber < number) ∧ ¬ IsReservedNumber number := by
  unfold LegalNumber IsReservedNumber maxFieldNumber reservedFrom reservedTo
  omega

/-- Names are identifiers, numbers are in range, and neither occurs twice. -/
structure LegalSlots (slots : List Slot) : Prop where
  identifiers : ∀ s ∈ slots, Text.isIdentifier s.name = true
  numbers : ∀ s ∈ slots, LegalNumber s.number
  distinctNames : (slots.map Slot.name).Nodup
  distinctNumbers : (slots.map Slot.number).Nodup

namespace LegalSlots

variable {slots slots' : List Slot} {s : Slot}

theorem iff_and :
    LegalSlots slots ↔ (∀ s ∈ slots, Text.isIdentifier s.name = true) ∧ (∀ s ∈ slots, LegalNumber s.number) ∧
      (slots.map Slot.name).Nodup ∧ (slots.map Slot.number).Nodup :=
  ⟨fun h => ⟨h.identifiers, h.numbers, h.distinctNames, h.distinctNumbers⟩, fun ⟨h₁, h₂, h₃, h₄⟩ => ⟨h₁, h₂, h₃, h₄⟩⟩

instance (slots : List Slot) : Decidable (LegalSlots slots) := decidable_of_iff _ iff_and.symm

theorem nil : LegalSlots [] := by decide

theorem sublist (h : LegalSlots slots') (hs : slots.Sublist slots') : LegalSlots slots where
  identifiers s hmem := h.identifiers s (hs.subset hmem)
  numbers s hmem := h.numbers s (hs.subset hmem)
  distinctNames := (hs.map Slot.name).nodup h.distinctNames
  distinctNumbers := (hs.map Slot.number).nodup h.distinctNumbers

theorem perm (h : LegalSlots slots) (hp : slots.Perm slots') : LegalSlots slots' where
  identifiers s hmem := h.identifiers s (hp.mem_iff.mpr hmem)
  numbers s hmem := h.numbers s (hp.mem_iff.mpr hmem)
  distinctNames := (hp.map Slot.name).nodup_iff.mp h.distinctNames
  distinctNumbers := (hp.map Slot.number).nodup_iff.mp h.distinctNumbers

theorem concat_iff :
    LegalSlots (slots ++ [s]) ↔ LegalSlots slots ∧ Text.isIdentifier s.name = true ∧ LegalNumber s.number ∧
      ∀ e ∈ slots, e.number ≠ s.number ∧ e.name ≠ s.name := by
  constructor
  · intro h
    refine ⟨h.sublist (List.sublist_append_left _ _), h.identifiers s (by simp), h.numbers s (by simp), ?_⟩
    intro e he
    have hnumbers := h.distinctNumbers
    have hnames := h.distinctNames
    rw [List.map_append, List.nodup_append] at hnumbers hnames
    exact ⟨hnumbers.2.2 _ (List.mem_map_of_mem he) _ (by simp), hnames.2.2 _ (List.mem_map_of_mem he) _ (by simp)⟩
  · rintro ⟨h, hid, hnum, hfresh⟩
    refine ⟨?_, ?_, ?_, ?_⟩
    · simpa [or_imp, forall_and] using ⟨h.identifiers, hid⟩
    · simpa [or_imp, forall_and] using ⟨h.numbers, hnum⟩
    · rw [List.map_append, List.nodup_append]
      refine ⟨h.distinctNames, by simp, ?_⟩
      simpa using fun e he => (hfresh e he).2
    · rw [List.map_append, List.nodup_append]
      refine ⟨h.distinctNumbers, by simp, ?_⟩
      simpa using fun e he => (hfresh e he).1

/-- The slots of fields or declarations, with every condition written out. -/
theorem map_iff {α : Type} {slot : α → Slot} {xs : List α} :
    LegalSlots (xs.map slot) ↔
      (∀ x ∈ xs, Text.IsIdentifier (slot x).name ∧ (1 ≤ (slot x).number ∧ (slot x).number ≤ 536870911) ∧
        ¬ (19000 ≤ (slot x).number ∧ (slot x).number ≤ 19999)) ∧
        (xs.map fun x => (slot x).number).Nodup ∧ (xs.map fun x => (slot x).name).Nodup := by
  have hnames : (xs.map slot).map Slot.name = xs.map fun x => (slot x).name := List.map_map
  have hnumbers : (xs.map slot).map Slot.number = xs.map fun x => (slot x).number := List.map_map
  rw [← hnames, ← hnumbers]
  constructor
  · intro h
    refine ⟨fun x hx => ⟨?_, ?_⟩, h.distinctNumbers, h.distinctNames⟩
    · exact Text.isIdentifier_iff.mp (h.identifiers (slot x) (List.mem_map_of_mem hx))
    · exact and_assoc.mpr (h.numbers (slot x) (List.mem_map_of_mem hx))
  · rintro ⟨h, hdistinctNumbers, hdistinctNames⟩
    refine ⟨?_, ?_, hdistinctNames, hdistinctNumbers⟩
    · exact List.forall_mem_map.mpr fun x hx => Text.isIdentifier_iff.mpr (h x hx).1
    · exact List.forall_mem_map.mpr fun x hx => and_assoc.mp (h x hx).2

end LegalSlots

def Field.slot (f : Field) : Slot := ⟨f.name, f.number⟩

def Property.slot (p : Property) : Slot := ⟨p.name, p.number⟩

namespace Message

variable {m m' : Message} {f : Field} {fields : List Field}

def Legal (m : Message) : Prop := LegalSlots (m.fields.map Field.slot)

theorem legal_nil (name comment : String) : Legal { name, comment } := LegalSlots.nil

theorem conflict?_eq_none_iff {name : String} {earlier : Field} :
    conflict? name earlier f = none ↔ earlier.number ≠ f.number ∧ earlier.name ≠ f.name := by
  unfold conflict?
  split_ifs with hnumber hname <;> simp_all

theorem objection?_eq_none_iff :
    m.objection? f = none ↔ Text.isIdentifier f.name = true ∧ LegalNumber f.number ∧
      ∀ e ∈ m.fields, e.number ≠ f.number ∧ e.name ≠ f.name := by
  have hconflict : (m.fields.findSome? fun earlier => conflict? m.name earlier f) = none ↔
      ∀ e ∈ m.fields, e.number ≠ f.number ∧ e.name ≠ f.name := by
    rw [List.findSome?_eq_none_iff]
    exact forall₂_congr fun e _ => conflict?_eq_none_iff
  unfold objection?
  rw [legalNumber_iff]
  split_ifs with hid hrange hreserved
  · simp_all
  · simp [hrange]
  · simp [hreserved]
  · rw [hconflict]
    simp_all

theorem add_eq_ok_iff_legal (h : m.Legal) :
    m.add f = .ok m' ↔ Legal { m with fields := m.fields ++ [f] } ∧ m' = { m with fields := m.fields ++ [f] } := by
  have hlegal : Legal { m with fields := m.fields ++ [f] } ↔ m.objection? f = none := by
    rw [Legal, List.map_append, List.map_singleton, LegalSlots.concat_iff, objection?_eq_none_iff,
      and_iff_right (show LegalSlots (m.fields.map Field.slot) from h), List.forall_mem_map]
    exact Iff.rfl
  rw [add_eq_ok_iff, hlegal, eq_comm (a := m')]

/-- Fields can be added one after another exactly when the message with all of them is legal. -/
theorem addAll_eq_ok_iff (h : m.Legal) :
    m.addAll fields = .ok m' ↔
      Legal { m with fields := m.fields ++ fields } ∧ m' = { m with fields := m.fields ++ fields } := by
  induction fields generalizing m with
  | nil =>
    rw [addAll, List.foldlM_nil, List.append_nil]
    simp [pure, Except.pure, h, eq_comm]
  | cons f fields ih =>
    rw [addAll, List.foldlM_cons, Attempt.bind_eq_ok_iff]
    have happend : m.fields ++ f :: fields = m.fields ++ [f] ++ fields := by simp
    constructor
    · rintro ⟨m₁, hadd, hrest⟩
      obtain ⟨hlegal, rfl⟩ := (add_eq_ok_iff_legal h).mp hadd
      rw [happend]
      exact (ih hlegal).mp hrest
    · rintro ⟨hlegal, rfl⟩
      rw [happend] at hlegal
      have hfront : Legal { m with fields := m.fields ++ [f] } :=
        hlegal.sublist ((List.sublist_append_left _ _).map _)
      exact ⟨_, (add_eq_ok_iff_legal h).mpr ⟨hfront, rfl⟩, (ih hfront).mpr ⟨hlegal, by rw [happend]⟩⟩

end Message

theorem buildMessage_eq_ok_iff {kind name comment : String} {fields : List Field} {m : Message} :
    buildMessage kind name comment fields = .ok m ↔
      LegalSlots (fields.map Field.slot) ∧ m = { name, comment, fields } := by
  rw [buildMessage, blame, Attempt.mapError_eq_ok_iff, Message.addAll_eq_ok_iff (Message.legal_nil _ _)]
  exact Iff.rfl

/-- The field that a declaration stands for, if its type exists. -/
def Property.field? (p : Property) : Option Field :=
  (ScalarType.ofTypeName? p.type).map fun type =>
    { name := p.name, number := p.number, type := .scalar type, comment := "Field for " ++ p.name ++ "." }

theorem Property.toField_eq_ok_iff {kind : String} {p : Property} {f : Field} :
    p.toField kind = .ok f ↔ p.field? = some f := by
  unfold toField field?
  cases ScalarType.ofTypeName? p.type <;> simp

theorem Property.toField_eq_error_iff {kind : String} {p : Property} {e : ResourceError} :
    p.toField kind = .error e ↔ ScalarType.ofTypeName? p.type = none ∧ e = ⟨kind, .unsupportedType p.name p.type⟩ := by
  unfold toField
  cases ScalarType.ofTypeName? p.type <;> simp [eq_comm]

theorem Property.slot_of_field? {p : Property} {f : Field} (h : p.field? = some f) : f.slot = p.slot := by
  obtain ⟨_, _, rfl⟩ := Option.map_eq_some_iff.mp h
  rfl

namespace Resource

variable {r : Resource} {m : Message}

/-- Every declared type exists, and the fields are legal together. -/
structure LegalFields (r : Resource) : Prop where
  types : ∀ p ∈ r.fields, (ScalarType.ofTypeName? p.type).isSome = true
  slots : LegalSlots (r.fields.map Property.slot)

theorem legalFields_iff :
    r.LegalFields ↔
      (∀ p ∈ r.fields, (ScalarType.ofTypeName? p.type).isSome = true ∧ Text.IsIdentifier p.name ∧
        (1 ≤ p.number ∧ p.number ≤ 536870911) ∧ ¬ (19000 ≤ p.number ∧ p.number ≤ 19999)) ∧
        (r.fields.map Property.number).Nodup ∧ (r.fields.map Property.name).Nodup := by
  have hslots : LegalSlots (r.fields.map Property.slot) ↔ _ := LegalSlots.map_iff
  constructor
  · rintro ⟨htypes, hlegal⟩
    obtain ⟨hfields, hdistinct⟩ := hslots.mp hlegal
    exact ⟨fun p hp => ⟨htypes p hp, hfields p hp⟩, hdistinct⟩
  · rintro ⟨hfields, hdistinct⟩
    exact ⟨fun p hp => (hfields p hp).1, hslots.mpr ⟨fun p hp => (hfields p hp).2, hdistinct⟩⟩

/-- The resource's own message: a field for each declaration, by number. -/
def ownMessage (r : Resource) : Message where
  name := r.kind
  comment := "A " ++ r.kind ++ " resource."
  fields := r.fieldsByNumber.filterMap Property.field?

theorem fieldsByNumber_perm (r : Resource) : r.fieldsByNumber.Perm r.fields := List.mergeSort_perm _ _

/-- Puts a declared field at the end of the message of the given kind. -/
def addDeclared (kind : String) (m : Message) (p : Property) : Except ResourceError Message := do
  let field ← p.toField kind
  blame kind (m.add field)

theorem toMessage_eq (r : Resource) :
    r.toMessage =
      r.fieldsByNumber.foldlM (addDeclared r.kind) { name := r.kind, comment := "A " ++ r.kind ++ " resource." } := rfl

theorem foldlM_addDeclared_eq_ok_iff {kind : String} {ps : List Property} {m m' : Message} :
    ps.foldlM (addDeclared kind) m = .ok m' ↔
      (∀ p ∈ ps, p.field?.isSome = true) ∧ m.addAll (ps.filterMap Property.field?) = .ok m' := by
  induction ps generalizing m with
  | nil => simp [Message.addAll, pure, Except.pure]
  | cons p ps ih =>
    simp only [List.foldlM_cons, Attempt.bind_eq_ok_iff, addDeclared, Property.toField_eq_ok_iff, ih,
      List.forall_mem_cons]
    cases hp : p.field? with
    | none => simp
    | some f =>
      simp only [List.filterMap_cons, hp, Message.addAll, List.foldlM_cons, Attempt.bind_eq_ok_iff, blame,
        Attempt.mapError_eq_ok_iff, Option.some.injEq, exists_eq_left', Option.isSome_some, true_and]
      exact ⟨fun ⟨m₁, hadd, hsome, hrest⟩ => ⟨hsome, m₁, hadd, hrest⟩,
        fun ⟨hsome, m₁, hadd, hrest⟩ => ⟨m₁, hadd, hsome, hrest⟩⟩

theorem slots_filterMap {ps : List Property} (h : ∀ p ∈ ps, p.field?.isSome = true) :
    (ps.filterMap Property.field?).map Field.slot = ps.map Property.slot := by
  induction ps with
  | nil => rfl
  | cons p ps ih =>
    obtain ⟨f, hf⟩ := Option.isSome_iff_exists.mp (h p (by simp))
    rw [List.filterMap_cons, hf]
    simp only [List.map_cons]
    rw [Property.slot_of_field? hf, ih fun q hq => h q (List.mem_cons_of_mem p hq)]

theorem field?_isSome_iff (r : Resource) :
    (∀ p ∈ r.fieldsByNumber, p.field?.isSome = true) ↔
      ∀ p ∈ r.fields, (ScalarType.ofTypeName? p.type).isSome = true := by
  simp [r.fieldsByNumber_perm.mem_iff, Property.field?]

/-- Sorting does not decide whether fields are legal together. -/
theorem ownMessage_legal_iff (h : ∀ p ∈ r.fields, (ScalarType.ofTypeName? p.type).isSome = true) :
    r.ownMessage.Legal ↔ LegalSlots (r.fields.map Property.slot) := by
  have hperm := r.fieldsByNumber_perm.map Property.slot
  rw [Message.Legal, ownMessage, slots_filterMap (r.field?_isSome_iff.mpr h)]
  exact ⟨fun hl => hl.perm hperm, fun hl => hl.perm hperm.symm⟩

theorem LegalFields.ownMessage_legal (h : r.LegalFields) : r.ownMessage.Legal :=
  (ownMessage_legal_iff h.types).mpr h.slots

/-- Neither the sorting nor the order in which defects are met decides whether there is a message. -/
theorem toMessage_eq_ok_iff : r.toMessage = .ok m ↔ r.LegalFields ∧ m = r.ownMessage := by
  rw [toMessage_eq, foldlM_addDeclared_eq_ok_iff, Message.addAll_eq_ok_iff (Message.legal_nil _ _), field?_isSome_iff]
  constructor
  · rintro ⟨htypes, hlegal, rfl⟩
    exact ⟨⟨htypes, (ownMessage_legal_iff htypes).mp hlegal⟩, rfl⟩
  · rintro ⟨hfields, rfl⟩
    exact ⟨hfields.types, hfields.ownMessage_legal, rfl⟩

end Resource

end ResourceApi
