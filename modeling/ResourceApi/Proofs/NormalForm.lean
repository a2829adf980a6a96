import Mathlib.Data.List.Forall2
import ResourceApi.Schema.Reading

/-!
Reading is a normal form. What was read can be written and is read back unchanged, however many forms of raw data are
read as the same declaration.
-/

namespace ResourceApi

namespace Checked

variable {α β : Type} {a : α} {b : β} {c : Checked α} {f : Checked (α → β)}

theorem seq_eq_ok_iff : f <*> c = ok b ↔ ∃ g, f = ok g ∧ ∃ a, c = ok a ∧ g a = b := by
  constructor
  · intro h
    cases f with
    | ok g =>
      cases c with
      | ok a => exact ⟨g, rfl, a, rfl, ok.inj h⟩
      | faulty fs => cases h
    | faulty fs =>
      cases c with
      | ok a => cases h
      | faulty gs => cases h
  · rintro ⟨g, rfl, a, rfl, rfl⟩
    rfl

theorem map_eq_ok_iff {g : α → β} : g <$> c = ok b ↔ ∃ a, c = ok a ∧ g a = b := by
  change ok g <*> c = ok b ↔ _
  rw [seq_eq_ok_iff]
  simp

theorem under_eq_ok_iff {step : PathStep} : c.under step = ok a ↔ c = ok a := by
  cases c with
  | ok value => exact Iff.rfl
  | faulty fs => exact ⟨nofun, nofun⟩

theorem elements_eq_ok_iff {γ : Type} {read : γ → Checked α} {items : List γ} {index : Nat} {values : List α} :
    elements index (items.map read) = ok values ↔ List.Forall₂ (fun item a => read item = ok a) items values := by
  induction items generalizing index values with
  | nil =>
    rw [List.forall₂_nil_left_iff]
    exact ⟨fun h => (by cases h; rfl), fun h => h ▸ rfl⟩
  | cons item items ih =>
    rw [List.map_cons, elements, seq_eq_ok_iff, List.forall₂_cons_left_iff]
    constructor
    · rintro ⟨_, hitem, rest, hrest, rfl⟩
      obtain ⟨a, ha, rfl⟩ := map_eq_ok_iff.mp hitem
      exact ⟨a, rest, under_eq_ok_iff.mp ha, ih.mp hrest, rfl⟩
    · rintro ⟨a, rest, ha, hrest, rfl⟩
      exact ⟨_, map_eq_ok_iff.mpr ⟨a, under_eq_ok_iff.mpr ha, rfl⟩, rest, ih.mpr hrest, rfl⟩

end Checked

namespace Raw

variable {α : Type} {a default : α} {name : String} {members : List (String × Raw)} {read : Raw → Checked α} {raw : Raw}

theorem required_eq_ok_iff :
    required name read members = .ok a ↔ ∃ raw, member? name members = some raw ∧ read raw = .ok a := by
  rw [required, Checked.under_eq_ok_iff]
  cases member? name members with
  | none => exact ⟨nofun, nofun⟩
  | some raw => simp

theorem optional_eq_ok_iff :
    optional name read default members = .ok a ↔
      (∃ raw, member? name members = some raw ∧ read raw = .ok a) ∨ member? name members = none ∧ default = a := by
  rw [optional, Checked.under_eq_ok_iff]
  cases member? name members with
  | none => simp
  | some raw => simp

theorem readSequence_eq_ok_iff {values : List α} :
    readSequence read raw = .ok values ↔
      ∃ items, raw = .list items ∧ List.Forall₂ (fun item a => read item = .ok a) items values := by
  cases raw with
  | list items =>
    rw [readSequence, Checked.elements_eq_ok_iff]
    simp
  | _ => exact ⟨nofun, nofun⟩

theorem forall_mem_of_optional {values : List α} {P : α → Prop} (hread : ∀ raw a, read raw = .ok a → P a)
    (h : optional name (readSequence read) [] members = .ok values) : ∀ a ∈ values, P a := by
  rcases optional_eq_ok_iff.mp h with ⟨raw, _, hsequence⟩ | ⟨_, rfl⟩
  · obtain ⟨items, _, hitems⟩ := readSequence_eq_ok_iff.mp hsequence
    have hvalues : List.Forall₂ (fun a item => P a ∧ read item = .ok a) values items :=
      .flip (hitems.imp fun item a hitem => ⟨hread item a hitem, hitem⟩)
    exact ((List.forall₂_and_left _ _).mp hvalues).1
  · exact List.forall_mem_nil _

theorem one_le_of_readPositive {n : Int} (h : raw.readPositive = .ok n) : 1 ≤ n := by
  rw [readPositive] at h
  split at h
  · split_ifs at h with hpositive
    · obtain rfl := Checked.ok.inj h
      exact hpositive
    · cases h
  · cases h

theorem readPositive_int {n : Int} (h : 1 ≤ n) : (int n).readPositive = .ok n := if_pos h

end Raw

open Raw

namespace Property

variable {p : Property} {raw : Raw} {members : List (String × Raw)}

theorem ofRaw_object_eq_ok_iff :
    Property.ofRaw (.object members) = .ok p ↔
      required "name" readText members = .ok p.name ∧ required "type" readText members = .ok p.type ∧
        required "number" readPositive members = .ok p.number := by
  simp only [Property.ofRaw, Checked.seq_eq_ok_iff, Checked.map_eq_ok_iff]
  constructor
  · rintro ⟨_, ⟨_, ⟨name, hname, rfl⟩, type, htype, rfl⟩, number, hnumber, rfl⟩
    exact ⟨hname, htype, hnumber⟩
  · rintro ⟨hname, htype, hnumber⟩
    exact ⟨_, ⟨_, ⟨_, hname, rfl⟩, _, htype, rfl⟩, _, hnumber, rfl⟩

theorem one_le_number_of_ofRaw (h : Property.ofRaw raw = .ok p) : 1 ≤ p.number := by
  cases raw with
  | object members =>
    obtain ⟨_, _, hnumber⟩ := ofRaw_object_eq_ok_iff.mp h
    obtain ⟨_, _, hread⟩ := required_eq_ok_iff.mp hnumber
    exact one_le_of_readPositive hread
  | _ => cases h

theorem ofRaw_toRaw (h : 1 ≤ p.number) : Property.ofRaw p.toRaw = .ok p :=
  ofRaw_object_eq_ok_iff.mpr ⟨rfl, rfl, required_eq_ok_iff.mpr ⟨_, rfl, readPositive_int h⟩⟩

end Property

/-- The methods may be named in any order. -/
theorem MethodSet.ofRaw_names {ms : MethodSet} {names : List Method} (h : names.Perm ms.toList) :
    MethodSet.ofRaw (.list (names.map fun m => .text m.name)) = .ok ms := by
  refine Checked.map_eq_ok_iff.mpr ⟨names, Checked.elements_eq_ok_iff.mpr ?_, ofList_eq fun m => h.mem_iff⟩
  rw [List.forall₂_map_left_iff, List.forall₂_same]
  intro m _
  rw [Method.ofRaw, Method.ofName?_name]

namespace Declaration

variable {d : Declaration} {raw : Raw} {depth : Nat} {p : Property} {members : List (String × Raw)}

/-- The field is one of the resource or of a resource above it. -/
inductive HasField : Declaration → Property → Prop
  | own {r : Resource} {parents : List Declaration} {p : Property} : p ∈ r.fields → HasField (.inline r parents) p
  | above {r : Resource} {parents : List Declaration} {d : Declaration} {p : Property} : d ∈ parents → HasField d p →
      HasField (.inline r parents) p

/-- The forms in which a declaration is written: all members are there, and the methods stand in any order. -/
inductive DumpsTo : Declaration → Raw → Prop
  | known {i : Nat} : DumpsTo (.known i) (.known i)
  | inline {r : Resource} {parents : List Declaration} {raws : List Raw} {methods : List Method} :
      List.Forall₂ DumpsTo parents raws → methods.Perm r.methods.toList →
      DumpsTo (.inline r parents) (.object [("kind", .text r.kind), ("plural", .text r.plural), ("type", .text r.type),
        ("fields", .list (r.fields.map Property.toRaw)), ("parents", .list raws),
        ("methods", .list (methods.map fun m => .text m.name))])

/-- What is read to a given depth: numbers are positive, and no chain of parents is longer. -/
inductive Fits : Nat → Declaration → Prop
  | known {depth i : Nat} : Fits (depth + 1) (.known i)
  | inline {depth : Nat} {r : Resource} {parents : List Declaration} : (∀ p ∈ r.fields, 1 ≤ p.number) →
      (∀ d ∈ parents, Fits depth d) → Fits (depth + 1) (.inline r parents)

theorem toRaws_eq_map (ds : List Declaration) : toRaws ds = ds.map toRaw := by
  induction ds with
  | nil => rw [toRaws, List.map_nil]
  | cons d ds ih => rw [toRaws, List.map_cons, ih]

theorem dumpsTo_toRaw : (d : Declaration) → d.DumpsTo d.toRaw
  | .known _ => by
    rw [toRaw]
    exact .known
  | .inline r parents => by
    rw [toRaw, toRaws_eq_map]
    refine .inline ?_ (.refl _)
    rw [List.forall₂_map_right_iff, List.forall₂_same]
    exact fun d _ => dumpsTo_toRaw d

theorem ofRawWithin_object_eq_ok_iff :
    ofRawWithin (depth + 1) (.object members) = .ok d ↔ ∃ r parents, d = .inline r parents ∧
      required "kind" readText members = .ok r.kind ∧ required "plural" readText members = .ok r.plural ∧
      required "type" readText members = .ok r.type ∧
      optional "fields" (readSequence Property.ofRaw) [] members = .ok r.fields ∧
      optional "parents" (readSequence (ofRawWithin depth)) [] members = .ok parents ∧
      optional "methods" MethodSet.ofRaw .empty members = .ok r.methods := by
  simp only [ofRawWithin, Checked.seq_eq_ok_iff, Checked.map_eq_ok_iff]
  constructor
  · rintro ⟨_, ⟨_, ⟨_, ⟨_, ⟨_, ⟨kind, hkind, rfl⟩, plural, hplural, rfl⟩, type, htype, rfl⟩, fields, hfields, rfl⟩,
      parents, hparents, rfl⟩, methods, hmethods, rfl⟩
    exact ⟨_, _, rfl, hkind, hplural, htype, hfields, hparents, hmethods⟩
  · rintro ⟨r, parents, rfl, hkind, hplural, htype, hfields, hparents, hmethods⟩
    exact ⟨_, ⟨_, ⟨_, ⟨_, ⟨_, ⟨_, hkind, rfl⟩, _, hplural, rfl⟩, _, htype, rfl⟩, _, hfields, rfl⟩, _, hparents, rfl⟩, _,
      hmethods, rfl⟩

theorem fits_of_ofRawWithin (h : ofRawWithin depth raw = .ok d) : d.Fits depth := by
  induction depth generalizing raw d with
  | zero => cases h
  | succ depth ih =>
    cases raw with
    | known i =>
      obtain rfl := Checked.ok.inj h
      exact .known
    | object members =>
      obtain ⟨r, parents, rfl, _, _, _, hfields, hparents, _⟩ := ofRawWithin_object_eq_ok_iff.mp h
      exact .inline (forall_mem_of_optional (fun _ _ => Property.one_le_number_of_ofRaw) hfields)
        (forall_mem_of_optional (fun _ _ => ih) hparents)
    | _ => cases h

theorem ofRawWithin_of_dumpsTo (hfits : d.Fits depth) (hdump : d.DumpsTo raw) : ofRawWithin depth raw = .ok d := by
  induction hfits generalizing raw with
  | known =>
    cases hdump
    rfl
  | @inline depth r parents hnumbers hparents ih =>
    cases hdump with
    | @inline _ _ raws methods hraws hmethods =>
      refine ofRawWithin_object_eq_ok_iff.mpr ⟨r, parents, rfl, rfl, rfl, rfl, ?_, ?_, ?_⟩
      · refine optional_eq_ok_iff.mpr (.inl ⟨_, rfl, readSequence_eq_ok_iff.mpr ⟨_, rfl, ?_⟩⟩)
        rw [List.forall₂_map_left_iff, List.forall₂_same]
        exact fun p hp => Property.ofRaw_toRaw (hnumbers p hp)
      · refine optional_eq_ok_iff.mpr (.inl ⟨_, rfl, readSequence_eq_ok_iff.mpr ⟨raws, rfl, ?_⟩⟩)
        have hread := (List.forall₂_and_left _ _).mpr ⟨@ih, hraws⟩
        exact .flip (hread.imp fun d raw h => h.1 h.2)
      · exact optional_eq_ok_iff.mpr (.inl ⟨_, rfl, MethodSet.ofRaw_names hmethods⟩)

theorem one_le_of_hasField (hfits : d.Fits depth) (h : d.HasField p) : 1 ≤ p.number := by
  induction hfits with
  | known => cases h
  | inline hnumbers _ ih =>
    cases h with
    | own hp => exact hnumbers p hp
    | above hd h => exact ih _ hd h

/-- A declaration that was read is read back unchanged from what is written of it, in whatever order its methods come.
Its field numbers and those of its parents are positive. -/
theorem read_back_of_ofRaw (h : ofRaw raw = .ok d) :
    ofRaw d.toRaw = .ok d ∧ (∀ dump, d.DumpsTo dump → ofRaw dump = .ok d) ∧ ∀ p, d.HasField p → 1 ≤ p.number := by
  have hfits : d.Fits maxDepth := fits_of_ofRawWithin h
  have hread : ∀ dump, d.DumpsTo dump → ofRaw dump = .ok d := fun _ => ofRawWithin_of_dumpsTo hfits
  exact ⟨hread _ d.dumpsTo_toRaw, hread, fun p => one_le_of_hasField hfits⟩

/-- Two levels with numbers in different forms, a method named twice, and members that are unknown or left out. -/
def looseBook : Raw :=
  .object [("type", .text "library.example.com/Book"), ("edition", .null), ("plural", .text "books"),
    ("kind", .text "Book"), ("methods", .list [.text "update", .text "create", .text "update"]),
    ("fields", .list [
      .object [("number", .text " +007 "), ("name", .text "isbn"), ("type", .text "string"), ("note", .bool false)],
      .object [("name", .text "pages"), ("type", .text "int32"), ("number", .binary 5 1)]]),
    ("parents", .list [.object [("kind", .text "Shelf"), ("plural", .text "shelves"), ("type", .text ""),
      ("fields", .list [.object [("name", .text "label"), ("type", .text "?"), ("number", .bool true)]])]])]

def book : Declaration :=
  .inline { kind := "Book", plural := "books", type := "library.example.com/Book"
            fields := [⟨"isbn", "string", 7⟩, ⟨"pages", "int32", 10⟩], methods := .ofList [.create, .update] }
    [.inline { kind := "Shelf", plural := "shelves", type := "", fields := [⟨"label", "?", 1⟩], methods := .empty } []]

theorem looseBook_read_back :
    ofRaw looseBook = .ok book ∧ ofRaw book.toRaw = .ok book ∧ (∀ dump, book.DumpsTo dump → ofRaw dump = .ok book) ∧
      book.HasField ⟨"label", "?", 1⟩ := by
  have hread : ofRaw looseBook = .ok book := rfl
  obtain ⟨hback, hdumps, _⟩ := read_back_of_ofRaw hread
  exact ⟨hread, hback, hdumps, .above List.mem_cons_self (.own List.mem_cons_self)⟩

end Declaration

end ResourceApi
