import Mathlib.Data.List.Forall2
import ResourceApi.Proofs.Fields

/-!
The message of a resource. It has the declared fields by number and does not depend on the order of their declaration.
If there is none, the fault is that of the first field by number that cannot follow those before it.
-/

namespace ResourceApi

/-- Why a message does not take a slot after those that it has. The reasons exclude each other, so that the first check
to fail decides. Of the slots that share a number or a name with the new one, the first is told. -/
inductive Slot.Refused (message : String) (earlier : List Slot) (s : Slot) : Rejection → Prop where
  | name (h : ¬ Text.IsIdentifier s.name) : Refused message earlier s (.fieldName message s.name)
  | range (hname : Text.IsIdentifier s.name) (h : ¬ (1 ≤ s.number ∧ s.number ≤ 536870911)) :
    Refused message earlier s (.numberRange message s.number)
  | reserved (hname : Text.IsIdentifier s.name) (hrange : 1 ≤ s.number ∧ s.number ≤ 536870911)
    (h : 19000 ≤ s.number ∧ s.number ≤ 19999) : Refused message earlier s (.numberReserved message s.number)
  | numberTaken {before after : List Slot} {t : Slot} (hname : Text.IsIdentifier s.name)
    (hnumber : LegalNumber s.number) (hearlier : earlier = before ++ t :: after)
    (hbefore : ∀ u ∈ before, u.number ≠ s.number ∧ u.name ≠ s.name) (h : t.number = s.number) :
    Refused message earlier s (.numberTaken message s.number t.name s.name)
  | nameTaken {before after : List Slot} {t : Slot} (hname : Text.IsIdentifier s.name)
    (hnumber : LegalNumber s.number) (hearlier : earlier = before ++ t :: after)
    (hbefore : ∀ u ∈ before, u.number ≠ s.number ∧ u.name ≠ s.name) (hother : t.number ≠ s.number)
    (h : t.name = s.name) : Refused message earlier s (.fieldTaken message s.name)

theorem Slot.Refused.not_legal {message : String} {earlier : List Slot} {s : Slot} {why : Rejection}
    (h : s.Refused message earlier why) : ¬ LegalSlots (earlier ++ [s]) := by
  intro hlegal
  obtain ⟨_, hid, ⟨hlow, hhigh, hfree⟩, hfresh⟩ := LegalSlots.concat_iff.mp hlegal
  cases h with
  | name hname => exact hname (Text.isIdentifier_iff.mp hid)
  | range _ hrange => exact hrange ⟨hlow, hhigh⟩
  | reserved _ _ hreserved => exact hfree hreserved
  | numberTaken _ _ hearlier _ hnumber => exact (hfresh _ (hearlier ▸ by simp)).1 hnumber
  | nameTaken _ _ hearlier _ _ hname => exact (hfresh _ (hearlier ▸ by simp)).2 hname

/-- There is one slot that is the first to share a number or a name with the new one. -/
theorem Slot.first_taken_unique {earlier before before' after after' : List Slot} {s t t' : Slot}
    (h : earlier = before ++ t :: after) (hbefore : ∀ u ∈ before, u.number ≠ s.number ∧ u.name ≠ s.name)
    (ht : t.number = s.number ∨ t.name = s.name) (h' : earlier = before' ++ t' :: after')
    (hbefore' : ∀ u ∈ before', u.number ≠ s.number ∧ u.name ≠ s.name)
    (ht' : t'.number = s.number ∨ t'.name = s.name) : t = t' := by
  have hfind {before after : List Slot} {t : Slot} (h : earlier = before ++ t :: after)
      (hbefore : ∀ u ∈ before, u.number ≠ s.number ∧ u.name ≠ s.name) (ht : t.number = s.number ∨ t.name = s.name) :
      earlier.find? (fun u => u.number = s.number ∨ u.name = s.name) = some t := by
    refine List.find?_eq_some_iff_append.mpr ⟨decide_eq_true ht, before, after, h, ?_⟩
    intro u hu
    simpa using hbefore u hu
  exact Option.some.inj ((hfind h hbefore ht).symm.trans (hfind h' hbefore' ht'))

theorem Slot.Refused.unique {message : String} {earlier : List Slot} {s : Slot} {why why' : Rejection}
    (h : s.Refused message earlier why) (h' : s.Refused message earlier why') : why = why' := by
  cases h with
  | name hid => cases h' <;> first | rfl | contradiction
  | range _ hout =>
    cases h' with
    | range => rfl
    | name hid => contradiction
    | reserved _ hin => contradiction
    | numberTaken _ hnumber => exact absurd ⟨hnumber.1, hnumber.2.1⟩ hout
    | nameTaken _ hnumber => exact absurd ⟨hnumber.1, hnumber.2.1⟩ hout
  | reserved _ hin hkept =>
    cases h' with
    | reserved => rfl
    | name hid => contradiction
    | range _ hout => contradiction
    | numberTaken _ hnumber => exact absurd hkept hnumber.2.2
    | nameTaken _ hnumber => exact absurd hkept hnumber.2.2
  | numberTaken _ hnumber hearlier hbefore hsame =>
    cases h' with
    | name hid => contradiction
    | range _ hout => exact absurd ⟨hnumber.1, hnumber.2.1⟩ hout
    | reserved _ _ hkept => exact absurd hkept hnumber.2.2
    | numberTaken _ _ hearlier' hbefore' hsame' =>
      rw [first_taken_unique hearlier hbefore (.inl hsame) hearlier' hbefore' (.inl hsame')]
    | nameTaken _ _ hearlier' hbefore' hother hname =>
      obtain rfl := first_taken_unique hearlier hbefore (.inl hsame) hearlier' hbefore' (.inr hname)
      contradiction
  | nameTaken _ hnumber hearlier hbefore hother hname =>
    cases h' with
    | name hid => contradiction
    | range _ hout => exact absurd ⟨hnumber.1, hnumber.2.1⟩ hout
    | reserved _ _ hkept => exact absurd hkept hnumber.2.2
    | nameTaken => rfl
    | numberTaken _ _ hearlier' hbefore' hsame' =>
      obtain rfl := first_taken_unique hearlier hbefore (.inr hname) hearlier' hbefore' (.inl hsame')
      contradiction

theorem Message.refused_of_objection? {m : Message} {f : Field} {why : Rejection} (h : m.objection? f = some why) :
    f.slot.Refused m.name (m.fields.map Field.slot) why := by
  have hlegal : LegalNumber f.number ↔ _ := legalNumber_iff
  have hnamed (hid : ¬ (!Text.isIdentifier f.name) = true) : Text.IsIdentifier f.name :=
    Text.isIdentifier_iff.mp (by simpa using hid)
  unfold objection? at h
  split_ifs at h with hid hrange hreserved
  · obtain rfl := Option.some.inj h
    have hname : ¬ Text.IsIdentifier f.name := by
      rw [← Text.isIdentifier_iff]
      simpa using hid
    exact .name hname
  · obtain rfl := Option.some.inj h
    have hout : ¬ (1 ≤ f.number ∧ f.number ≤ 536870911) := by
      unfold maxFieldNumber at hrange
      omega
    exact .range (hnamed hid) hout
  · obtain rfl := Option.some.inj h
    unfold maxFieldNumber at hrange
    unfold IsReservedNumber reservedFrom reservedTo at hreserved
    have hin : 1 ≤ f.number ∧ f.number ≤ 536870911 := by omega
    have hkept : 19000 ≤ f.number ∧ f.number ≤ 19999 := by omega
    exact .reserved (hnamed hid) hin hkept
  · obtain ⟨before, earlier, after, hfields, hconflict, hbefore⟩ := List.findSome?_eq_some_iff.mp h
    have hnumber : LegalNumber f.number := hlegal.mpr ⟨hrange, hreserved⟩
    have hslots : m.fields.map Field.slot = before.map Field.slot ++ earlier.slot :: after.map Field.slot := by
      rw [hfields, List.map_append, List.map_cons]
    have hfree : ∀ u ∈ before.map Field.slot, u.number ≠ f.number ∧ u.name ≠ f.name :=
      List.forall_mem_map.mpr fun e he => conflict?_eq_none_iff.mp (hbefore e he)
    unfold conflict? at hconflict
    split_ifs at hconflict with hsame hname
    · obtain rfl := Option.some.inj hconflict
      exact .numberTaken (hnamed hid) hnumber hslots hfree hsame
    · obtain rfl := Option.some.inj hconflict
      exact .nameTaken (hnamed hid) hnumber hslots hfree hsame hname

/-- Why a declared field cannot follow those in front of it. A type that does not exist comes before all other
reasons. -/
inductive Property.Offends (kind : String) (front : List Property) (p : Property) : Cause → Prop where
  | type (h : ScalarType.ofTypeName? p.type = none) : Offends kind front p (.unsupportedType p.name p.type)
  | slot {type : ScalarType} {why : Rejection} (htype : ScalarType.ofTypeName? p.type = some type)
    (h : p.slot.Refused kind (front.map Property.slot) why) : Offends kind front p (.rejected why)

theorem Property.Offends.eq_unsupportedType {kind : String} {front : List Property} {p : Property} {cause : Cause}
    (h : p.Offends kind front cause) (htype : ScalarType.ofTypeName? p.type = none) :
    cause = .unsupportedType p.name p.type := by
  cases h with
  | type => rfl
  | slot htype' _ =>
    rw [htype] at htype'
    cases htype'

theorem Property.Offends.unique {kind : String} {front : List Property} {p : Property} {cause cause' : Cause}
    (h : p.Offends kind front cause) (h' : p.Offends kind front cause') : cause = cause' := by
  cases h with
  | type htype => exact (h'.eq_unsupportedType htype).symm
  | slot htype hrefused =>
    cases h' with
    | type htype' =>
      rw [htype] at htype'
      cases htype'
    | slot _ hrefused' => rw [hrefused.unique hrefused']

/-- The field is the declared one, with the type that the declaration means and without any marks. -/
structure Property.Becomes (p : Property) (f : Field) : Prop where
  name : f.name = p.name
  number : f.number = p.number
  type : ∃ type, ScalarType.ofTypeName? p.type = some type ∧ f.type = .scalar type
  repeated : f.repeated = false
  required : f.required = false
  reference : f.reference = none

theorem Property.becomes_of_field? {p : Property} {f : Field} (h : p.field? = some f) : p.Becomes f := by
  obtain ⟨type, htype, rfl⟩ := Option.map_eq_some_iff.mp h
  exact ⟨rfl, rfl, ⟨type, htype, rfl⟩, rfl, rfl, rfl⟩

/-- Fields by number, those of one number as they were. -/
structure SortedStably (sorted fields : List Property) : Prop where
  perm : sorted.Perm fields
  ascending : sorted.Pairwise fun p q => p.number ≤ q.number
  stable : ∀ number, sorted.filter (·.number = number) = fields.filter (·.number = number)

/-- The resources differ in the order of their fields at most. -/
structure Resource.Alike (r r' : Resource) : Prop where
  kind : r.kind = r'.kind
  plural : r.plural = r'.plural
  type : r.type = r'.type
  methods : r.methods = r'.methods
  fields : r.fields.Perm r'.fields

namespace Resource

variable {r r' : Resource}

theorem Alike.symm (h : r.Alike r') : r'.Alike r where
  kind := h.kind.symm
  plural := h.plural.symm
  type := h.type.symm
  methods := h.methods.symm
  fields := h.fields.symm

theorem Alike.fieldName (h : r.Alike r') : r.fieldName = r'.fieldName := by
  rw [Resource.fieldName, h.kind, Resource.fieldName]

theorem Alike.segment (h : r.Alike r') : r.segment = r'.segment := by
  rw [Resource.segment, h.plural, Resource.segment]

theorem Alike.legalFields (h : r.Alike r') (hlegal : r.LegalFields) : r'.LegalFields where
  types p hp := hlegal.types p (h.fields.mem_iff.mpr hp)
  slots := hlegal.slots.perm (h.fields.map _)

private theorem byNumber_trans (a b c : Property) (hab : decide (a.number ≤ b.number) = true)
    (hbc : decide (b.number ≤ c.number) = true) : decide (a.number ≤ c.number) = true := by
  rw [decide_eq_true_eq] at *
  exact Int.le_trans hab hbc

private theorem byNumber_total (a b : Property) :
    (decide (a.number ≤ b.number) || decide (b.number ≤ a.number)) = true := by
  rw [Bool.or_eq_true, decide_eq_true_eq, decide_eq_true_eq]
  exact Int.le_total a.number b.number

theorem fieldsByNumber_pairwise (r : Resource) : r.fieldsByNumber.Pairwise fun a b => a.number ≤ b.number := by
  have hsorted : r.fieldsByNumber.Pairwise fun a b => decide (a.number ≤ b.number) = true :=
    List.pairwise_mergeSort byNumber_trans byNumber_total r.fields
  exact hsorted.imp of_decide_eq_true

theorem fieldsByNumber_filter (r : Resource) (number : Int) :
    r.fieldsByNumber.filter (·.number = number) = r.fields.filter (·.number = number) := by
  have hequal : (r.fields.filter (·.number = number)).Pairwise fun a b => decide (a.number ≤ b.number) = true := by
    apply List.pairwise_of_forall_mem_list
    intro a ha b hb
    simp only [List.mem_filter, decide_eq_true_eq] at ha hb
    exact decide_eq_true (Int.le_of_eq (ha.2.trans hb.2.symm))
  have hsublist : (r.fields.filter (·.number = number)).Sublist r.fieldsByNumber :=
    List.sublist_mergeSort byNumber_trans byNumber_total hequal List.filter_sublist
  have hfiltered := hsublist.filter (·.number = number)
  rw [List.filter_filter] at hfiltered
  simp only [Bool.and_self] at hfiltered
  exact (hfiltered.eq_of_length (r.fieldsByNumber_perm.filter _).length_eq.symm).symm

theorem fieldsByNumber_sortedStably (r : Resource) : SortedStably r.fieldsByNumber r.fields :=
  ⟨r.fieldsByNumber_perm, r.fieldsByNumber_pairwise, r.fieldsByNumber_filter⟩

/-- Legal fields have different numbers, so there is one way to sort them. -/
theorem Alike.fieldsByNumber (h : r.Alike r') (hlegal : r.LegalFields) : r.fieldsByNumber = r'.fieldsByNumber := by
  have hnumbers : (r.fields.map Property.number).Nodup := by
    have hslots := hlegal.slots.distinctNumbers
    rwa [List.map_map] at hslots
  have hperm : r.fieldsByNumber.Perm r'.fieldsByNumber :=
    r.fieldsByNumber_perm.trans (h.fields.trans r'.fieldsByNumber_perm.symm)
  refine hperm.eq_of_pairwise ?_ r.fieldsByNumber_pairwise r'.fieldsByNumber_pairwise
  intro p q hp hq hle hge
  have hp' : p ∈ r.fields := r.fieldsByNumber_perm.mem_iff.mp hp
  have hq' : q ∈ r.fields := h.fields.mem_iff.mpr (r'.fieldsByNumber_perm.mem_iff.mp hq)
  exact List.inj_on_of_nodup_map hnumbers hp' hq' (Int.le_antisymm hle hge)

theorem Alike.ownMessage (h : r.Alike r') (hlegal : r.LegalFields) : r.ownMessage = r'.ownMessage := by
  rw [Resource.ownMessage, h.kind, h.fieldsByNumber hlegal, Resource.ownMessage]

theorem forall₂_becomes {ps : List Property} (h : ∀ p ∈ ps, p.field?.isSome = true) :
    List.Forall₂ Property.Becomes ps (ps.filterMap Property.field?) := by
  induction ps with
  | nil => exact .nil
  | cons p ps ih =>
    obtain ⟨f, hf⟩ := Option.isSome_iff_exists.mp (h p List.mem_cons_self)
    rw [List.filterMap_cons, hf]
    exact .cons (Property.becomes_of_field? hf) (ih fun q hq => h q (List.mem_cons_of_mem p hq))

theorem LegalFields.numbers_ascend (h : r.LegalFields) :
    r.ownMessage.fields.Pairwise fun f f' => f.number < f'.number := by
  have hslots : r.ownMessage.fields.map Field.slot = r.fieldsByNumber.map Property.slot :=
    slots_filterMap (r.field?_isSome_iff.mpr h.types)
  have hle : (r.ownMessage.fields.map Field.slot).Pairwise fun s t => s.number ≤ t.number := by
    rw [hslots]
    exact List.pairwise_map.mpr r.fieldsByNumber_pairwise
  have hne : (r.ownMessage.fields.map Field.slot).Pairwise fun s t => s.number ≠ t.number :=
    List.pairwise_map.mp h.ownMessage_legal.distinctNumbers
  have hlt := hle.and hne
  exact (List.pairwise_map.mp hlt).imp fun hboth => Int.lt_iff_le_and_ne.mpr hboth

theorem exists_toMessage_iff : (∃ m, r.toMessage = .ok m) ↔ r.LegalFields := by
  simp [toMessage_eq_ok_iff]

/-- A field that cannot be put behind the declared ones in front offends. -/
theorem offends_of_addDeclared {kind : String} {m : Message} {front : List Property} {p : Property}
    {e : ResourceError} (hname : m.name = kind) (hslots : m.fields.map Field.slot = front.map Property.slot)
    (h : addDeclared kind m p = .error e) : e.kind = kind ∧ p.Offends kind front e.cause := by
  rcases Attempt.bind_eq_error_iff.mp h with htype | ⟨f, hf, hadd⟩
  · obtain ⟨hunknown, rfl⟩ := Property.toField_eq_error_iff.mp htype
    exact ⟨rfl, .type hunknown⟩
  · obtain ⟨why, hwhy, rfl⟩ := Attempt.mapError_eq_error_iff.mp hadd
    have hfield := Property.toField_eq_ok_iff.mp hf
    obtain ⟨type, htype, _⟩ := Option.map_eq_some_iff.mp hfield
    have hrefused := Message.refused_of_objection? (Message.add_eq_error_iff.mp hwhy)
    rw [hname, hslots, Property.slot_of_field? hfield] at hrefused
    exact ⟨rfl, .slot htype hrefused⟩

/-- Of declared fields that are legal together, none offends behind those before it. -/
theorem not_offends_of_legal {kind : String} {front : List Property} (htypes : ∀ p ∈ front, p.field?.isSome = true)
    (hlegal : LegalSlots (front.map Property.slot)) {before after : List Property} {q : Property} {cause : Cause}
    (hfront : front = before ++ q :: after) : ¬ q.Offends kind before cause := by
  intro hoffends
  cases hoffends with
  | type htype =>
    have hsome := htypes q (hfront ▸ by simp)
    simp [Property.field?, htype] at hsome
  | slot _ hrefused =>
    apply hrefused.not_legal
    apply hlegal.sublist
    rw [hfront, ← List.map_singleton, ← List.map_append]
    exact List.Sublist.map _ (by simp)

/-- The fault is that of the first field by number that offends behind those before it. -/
theorem first_offence_of_toMessage {e : ResourceError} (h : r.toMessage = .error e) :
    e.kind = r.kind ∧ ∃ front p back, r.fieldsByNumber = front ++ p :: back ∧
      (∀ before q after, front = before ++ q :: after → ∀ cause, ¬ q.Offends r.kind before cause) ∧
      p.Offends r.kind front e.cause := by
  rw [toMessage_eq] at h
  obtain ⟨front, p, back, m, hsplit, hfront, hstep⟩ := Attempt.foldlM_eq_error_iff.mp h
  obtain ⟨htypes, hall⟩ := foldlM_addDeclared_eq_ok_iff.mp hfront
  obtain ⟨hlegal, hm⟩ := (Message.addAll_eq_ok_iff (Message.legal_nil _ _)).mp hall
  have hslots := slots_filterMap htypes
  have hname : m.name = r.kind := by rw [hm]
  have hfields : m.fields.map Field.slot = front.map Property.slot := by rw [hm, List.nil_append, hslots]
  obtain ⟨hkind, hoffends⟩ := offends_of_addDeclared hname hfields hstep
  refine ⟨hkind, front, p, back, hsplit, ?_, hoffends⟩
  intro before q after hq cause
  rw [Message.Legal, List.nil_append, hslots] at hlegal
  exact not_offends_of_legal htypes hlegal hq

theorem alike_of_perm {fields : List Property} (h : fields.Perm r.fields) : Alike r { r with fields } :=
  ⟨rfl, rfl, rfl, rfl, h.symm⟩

/-- There is a message exactly when the declared fields are legal together. It has these fields by number, whatever the
order of their declaration. Without one, the fault is that of the first field that offends in the stable order by
number, and there is none for any other order of declaration. -/
theorem toMessage_keeps_fields (r : Resource) :
    ((∃ m, r.toMessage = .ok m) ↔
      (∀ p ∈ r.fields, (ScalarType.ofTypeName? p.type).isSome = true ∧ Text.IsIdentifier p.name ∧
        (1 ≤ p.number ∧ p.number ≤ 536870911) ∧ ¬ (19000 ≤ p.number ∧ p.number ≤ 19999)) ∧
      (r.fields.map Property.number).Nodup ∧ (r.fields.map Property.name).Nodup) ∧
    (∀ m, r.toMessage = .ok m →
      m.name = r.kind ∧ (∃ declared, declared.Perm r.fields ∧ List.Forall₂ Property.Becomes declared m.fields) ∧
      m.fields.Pairwise (fun f f' => f.number < f'.number) ∧
      ∀ fields : List Property, fields.Perm r.fields → toMessage { r with fields } = .ok m) ∧
    SortedStably r.fieldsByNumber r.fields ∧
    ∀ e, r.toMessage = .error e →
      e.kind = r.kind ∧
      (∃ front p back, r.fieldsByNumber = front ++ p :: back ∧
        (∀ before q after, front = before ++ q :: after → ∀ cause, ¬ q.Offends r.kind before cause) ∧
        (∀ cause, p.Offends r.kind front cause ↔ cause = e.cause) ∧
        (ScalarType.ofTypeName? p.type = none → e.cause = .unsupportedType p.name p.type)) ∧
      ∀ fields : List Property, fields.Perm r.fields → ∃ e', toMessage { r with fields } = .error e' := by
  refine ⟨exists_toMessage_iff.trans legalFields_iff, ?_, r.fieldsByNumber_sortedStably, ?_⟩
  · intro m hm
    obtain ⟨hlegal, rfl⟩ := toMessage_eq_ok_iff.mp hm
    have hbecomes := forall₂_becomes (r.field?_isSome_iff.mpr hlegal.types)
    refine ⟨rfl, ⟨r.fieldsByNumber, r.fieldsByNumber_perm, hbecomes⟩, hlegal.numbers_ascend, ?_⟩
    intro fields hperm
    have halike := alike_of_perm hperm
    exact toMessage_eq_ok_iff.mpr ⟨halike.legalFields hlegal, halike.ownMessage hlegal⟩
  · intro e he
    obtain ⟨hkind, front, p, back, hsplit, hfront, hoffends⟩ := first_offence_of_toMessage he
    have hcause : ∀ cause, p.Offends r.kind front cause ↔ cause = e.cause := by
      intro cause
      constructor
      · intro hother
        exact hother.unique hoffends
      · intro hsame
        exact hsame ▸ hoffends
    refine ⟨hkind, ⟨front, p, back, hsplit, hfront, hcause, hoffends.eq_unsupportedType⟩, ?_⟩
    intro fields hperm
    rw [Attempt.exists_eq_error_iff, exists_toMessage_iff]
    intro hlegal
    have hnone : ¬ ∃ m, r.toMessage = .ok m := Attempt.exists_eq_error_iff.mp ⟨e, he⟩
    exact hnone (exists_toMessage_iff.mpr ((alike_of_perm hperm).symm.legalFields hlegal))

/-- Entries of a ledger. -/
def ledger (fields : List Property) : Resource where
  kind := "Entry"
  plural := "entries"
  type := "ledger.example.com/Entry"
  fields := fields
  methods := .empty

/-- The due date has an unknown type and the number of the note. It is declared after the note, so it is the one to
offend, and its type is reported and not its number. -/
theorem ledger_messages :
    (∃ m, (ledger [⟨"note", "string", 3⟩, ⟨"amount", " Int64", 1⟩]).toMessage = .ok m ∧
      m.fields.map Field.number = [1, 3] ∧
      (ledger [⟨"amount", " Int64", 1⟩, ⟨"note", "string", 3⟩]).toMessage = .ok m) ∧
    (ledger [⟨"note", "string", 3⟩, ⟨"due", "date", 3⟩, ⟨"amount", "int64", 1⟩]).toMessage =
        .error ⟨"Entry", .unsupportedType "due" "date"⟩ ∧
      ∃ e, (ledger [⟨"due", "date", 3⟩, ⟨"amount", "int64", 1⟩, ⟨"note", "string", 3⟩]).toMessage = .error e := by
  constructor
  · have hsorted : (ledger [⟨"note", "string", 3⟩, ⟨"amount", " Int64", 1⟩]).fieldsByNumber =
        [⟨"amount", " Int64", 1⟩, ⟨"note", "string", 3⟩] := by
      simp [fieldsByNumber, ledger, List.mergeSort, List.MergeSort.Internal.splitInTwo]
    have hlegal : (ledger [⟨"note", "string", 3⟩, ⟨"amount", " Int64", 1⟩]).LegalFields := ⟨by decide, by decide⟩
    obtain ⟨m, hm⟩ := exists_toMessage_iff.mpr hlegal
    obtain ⟨_, hmessage, _⟩ := toMessage_keeps_fields (ledger [⟨"note", "string", 3⟩, ⟨"amount", " Int64", 1⟩])
    obtain ⟨_, _, _, hperm⟩ := hmessage m hm
    have hnumbers : m.fields.map Field.number = [1, 3] := by
      rw [(toMessage_eq_ok_iff.mp hm).2, ownMessage, hsorted]
      decide
    exact ⟨m, hm, hnumbers, hperm _ (List.Perm.swap _ _ _)⟩
  · have hsorted : (ledger [⟨"note", "string", 3⟩, ⟨"due", "date", 3⟩, ⟨"amount", "int64", 1⟩]).fieldsByNumber =
        [⟨"amount", "int64", 1⟩, ⟨"note", "string", 3⟩, ⟨"due", "date", 3⟩] := by
      simp [fieldsByNumber, ledger, List.mergeSort, List.MergeSort.Internal.splitInTwo]
    have herror : (ledger [⟨"note", "string", 3⟩, ⟨"due", "date", 3⟩, ⟨"amount", "int64", 1⟩]).toMessage =
        .error ⟨"Entry", .unsupportedType "due" "date"⟩ := by
      rw [toMessage_eq, hsorted]
      rfl
    obtain ⟨_, _, _, hfault⟩ :=
      toMessage_keeps_fields (ledger [⟨"note", "string", 3⟩, ⟨"due", "date", 3⟩, ⟨"amount", "int64", 1⟩])
    obtain ⟨_, _, hperm⟩ := hfault _ herror
    exact ⟨herror, hperm _ (by decide)⟩

end Resource

end ResourceApi
