import ResourceApi.Descriptor.StandardPool
import ResourceApi.Proofs.Extension
import ResourceApi.Proofs.Fields
import ResourceApi.Session.Run

/-!
Which fields a message accepts. A further field is put at its end exactly if the fields are valid together, and the
message is left as it was otherwise. So a list of fields is accepted from the first to the last exactly if it is valid
as a whole, and then each field is found under its name.
-/

namespace ResourceApi

/-- Names are identifiers, numbers are in range and not kept for the wire format, and neither occurs twice. -/
structure ValidFields (fields : List Field) : Prop where
  identifiers : ∀ f ∈ fields, Text.IsIdentifier f.name
  inRange : ∀ f ∈ fields, 1 ≤ f.number ∧ f.number ≤ 536870911
  unreserved : ∀ f ∈ fields, ¬ (19000 ≤ f.number ∧ f.number ≤ 19999)
  distinctNames : (fields.map Field.name).Nodup
  distinctNumbers : (fields.map Field.number).Nodup

theorem validFields_iff_legalSlots {fields : List Field} : ValidFields fields ↔ LegalSlots (fields.map Field.slot) := by
  rw [LegalSlots.map_iff]
  constructor
  · intro h
    exact ⟨fun f hf => ⟨h.identifiers f hf, h.inRange f hf, h.unreserved f hf⟩, h.distinctNumbers, h.distinctNames⟩
  · rintro ⟨hfields, hnumbers, hnames⟩
    exact ⟨fun f hf => (hfields f hf).1, fun f hf => (hfields f hf).2.1, fun f hf => (hfields f hf).2.2, hnames,
      hnumbers⟩

instance (fields : List Field) : Decidable (ValidFields fields) := decidable_of_iff _ validFields_iff_legalSlots.symm

/-- The field as it is written by hand. -/
def Field.draft (f : Field) : FieldDraft where
  name := f.name
  number := f.number
  scalarType := match f.type with
    | .scalar type => some type.name
    | .message _ => none
  messageType := match f.type with
    | .scalar _ => none
    | .message fullName => some fullName
  repeated := f.repeated
  required := f.required
  reference := f.reference
  comment := f.comment

theorem Field.build_draft (f : Field) : f.draft.build = .ok f := by
  rcases f with ⟨name, number, type, repeated, required, reference, comment⟩
  cases type with
  | scalar type => cases type <;> rfl
  | message fullName => rfl

namespace Message

variable {m m' : Message} {f : Field} {fields : List Field} {name : String} {number : Int}
  {numbers : List (String × Int)}

theorem add_eq_ok_iff_valid (h : ValidFields m.fields) :
    m.add f = .ok m' ↔ ValidFields (m.fields ++ [f]) ∧ m' = { m with fields := m.fields ++ [f] } := by
  rw [add_eq_ok_iff_legal (validFields_iff_legalSlots.mp h), validFields_iff_legalSlots]
  exact Iff.rfl

theorem exists_add_iff (h : ValidFields m.fields) : (∃ m', m.add f = .ok m') ↔ ValidFields (m.fields ++ [f]) := by
  simp [add_eq_ok_iff_valid h]

theorem exists_add_eq_error_iff (h : ValidFields m.fields) :
    (∃ why, m.add f = .error why) ↔ ¬ ValidFields (m.fields ++ [f]) :=
  Attempt.exists_eq_error_iff.trans (not_congr (exists_add_iff h))

theorem addAll_empty_eq_ok_iff {comment : String} :
    addAll { name, comment } fields = .ok m ↔ ValidFields fields ∧ m = { name, comment, fields } := by
  rw [addAll_eq_ok_iff (legal_nil name comment), validFields_iff_legalSlots]
  exact Iff.rfl

theorem putNumber_of_new (h : name ∉ numbers.map Prod.fst) :
    putNumber numbers name number = numbers ++ [(name, number)] := by
  have hnew : numbers.any (·.1 == name) = false := by
    rw [List.any_eq_false]
    intro entry hentry
    rw [beq_iff_eq]
    rintro rfl
    exact h (List.mem_map_of_mem hentry)
  rw [putNumber, hnew]
  rfl

/-- Behind names that are all different, each field of a new name gets an entry of its own. -/
theorem foldl_putNumber (h : (numbers.map Prod.fst ++ fields.map Field.name).Nodup) :
    fields.foldl (fun numbers f => putNumber numbers f.name f.number) numbers =
      numbers ++ fields.map fun f => (f.name, f.number) := by
  induction fields generalizing numbers with
  | nil => simp
  | cons f fields ih =>
    rw [List.map_cons] at h
    have hnew : f.name ∉ numbers.map Prod.fst := fun hmem =>
      (List.nodup_append.mp h).2.2 _ hmem _ List.mem_cons_self rfl
    have hrest : ((numbers ++ [(f.name, f.number)]).map Prod.fst ++ fields.map Field.name).Nodup := by
      simpa using h
    rw [List.foldl_cons, putNumber_of_new hnew, ih hrest]
    simp

theorem fieldNumbers_eq (h : (m.fields.map Field.name).Nodup) :
    m.fieldNumbers = m.fields.map fun f => (f.name, f.number) := foldl_putNumber h

theorem field?_eq_some_iff (h : (m.fields.map Field.name).Nodup) :
    m.field? name = some f ↔ f ∈ m.fields ∧ f.name = name :=
  find?_key_eq_some_iff h

end Message

/-- The first element of a kind is found again after a change, if it stays of that kind. -/
theorem find?_modify_findIdx {α : Type} {q : α → Bool} {as : List α} {a : α} {change : α → α}
    (h : as.find? q = some a) (hq : q (change a) = true) :
    (as.modify (as.findIdx q) change).find? q = some (change a) := by
  induction as with
  | nil => cases h
  | cons b as ih =>
    rw [List.findIdx_cons]
    cases hb : q b with
    | true =>
      rw [List.find?_cons_of_pos hb] at h
      obtain rfl := Option.some.inj h
      exact List.find?_cons_of_pos hq
    | false =>
      rw [List.find?_cons_of_neg (Bool.eq_false_iff.mp hb)] at h
      rw [cond_false, List.modify_succ_cons, List.find?_cons_of_neg (Bool.eq_false_iff.mp hb)]
      exact ih h

namespace Session

variable {n : Nat} {g : Graph n} {p : Pool} {s : Session} {target : String} {m m' : Message} {f : Field}

theorem handle?_assign {handle : Handle} : (s.assign target handle).handle? target = some handle := by
  simp [assign, handle?]

/-- A variable stands for the message that is put in place of its own, wherever that one is kept. -/
theorem message?_replace (hm : s.message? target = some m) (hname : m'.name = m.name) :
    (s.replace target m').message? target = some m' := by
  rw [message?] at hm
  rw [replace]
  cases hhandle : s.handle? target with
  | none =>
    rw [hhandle] at hm
    cases hm
  | some handle =>
    rw [hhandle] at hm
    cases handle with
    | own kept => rw [message?, handle?_assign]
    | registered name =>
      have hheld : handle? { s with registry := { s.registry with
          messages := s.registry.messages.modify name fun _ => m' } } target = some (.registered name) := hhandle
      have hfound : Named.name m = name := by simpa using List.find?_some hm
      rw [message?, hheld]
      exact find?_modify_findIdx hm (beq_iff_eq.mpr (hname.trans hfound))

theorem step_addField (hm : s.message? target = some m) :
    s.step g p (.addField target f.draft) = s.settle target ((m.add f).mapError .rejected) := by
  rw [step, withVariable, hm, f.build_draft]
  rfl

theorem step_addField_of_accepted (hm : s.message? target = some m) (hadd : m.add f = .ok m') :
    (s.step g p (.addField target f.draft)).result = .ok (.message m') ∧
      (s.step g p (.addField target f.draft)).session.message? target = some m' := by
  have hname : m'.name = m.name := by
    obtain ⟨_, rfl⟩ := Message.add_eq_ok_iff.mp hadd
    rfl
  rw [step_addField hm, hadd]
  exact ⟨rfl, message?_replace hm hname⟩

/-- Nothing is put in place of the message, so nothing at all changes. -/
theorem step_addField_of_refused {why : Rejection} (hm : s.message? target = some m) (hadd : m.add f = .error why) :
    (s.step g p (.addField target f.draft)).result = .error (.rejected why) ∧
      (s.step g p (.addField target f.draft)).session = s := by
  rw [step_addField hm, hadd]
  exact ⟨rfl, rfl⟩

end Session

namespace Message

/-- A message with valid fields accepts a field exactly if its fields are valid with that one at the end, which is where
it is put. The message of a variable in a session does the same, and if the field is refused, the session stays as it
was. An empty message accepts a list of fields exactly if that is valid, and then there is a number for each field, in
the same order, and each field is found under its name. -/
theorem accepted_iff_valid :
    (∀ (m : Message) (f : Field), ValidFields m.fields →
      ((∃ m', m.add f = .ok m') ↔ ValidFields (m.fields ++ [f])) ∧
      ∀ m', m.add f = .ok m' → m' = { m with fields := m.fields ++ [f] }) ∧
    (∀ (n : Nat) (g : Graph n) (p : Pool) (s : Session) (target : String) (m : Message) (f : Field),
      s.message? target = some m → ValidFields m.fields →
      let response := s.step g p (.addField target f.draft)
      let m' := { m with fields := m.fields ++ [f] }
      (ValidFields (m.fields ++ [f]) →
        response.result = .ok (.message m') ∧ response.session.message? target = some m') ∧
      (¬ ValidFields (m.fields ++ [f]) →
        (∃ why, response.result = .error (.rejected why)) ∧ response.session = s)) ∧
    ∀ (name comment : String) (fields : List Field),
      ((∃ m, addAll { name, comment } fields = .ok m) ↔ ValidFields fields) ∧
      ∀ m, addAll { name, comment } fields = .ok m →
        m = { name, comment, fields } ∧ m.fieldNumbers = fields.map (fun f => (f.name, f.number)) ∧
        ∀ name f, m.field? name = some f ↔ f ∈ fields ∧ f.name = name := by
  refine ⟨?_, ?_, ?_⟩
  · intro m f h
    exact ⟨exists_add_iff h, fun m' hadd => ((add_eq_ok_iff_valid h).mp hadd).2⟩
  · intro n g p s target m f hm h
    constructor
    · intro hvalid
      exact Session.step_addField_of_accepted hm ((add_eq_ok_iff_valid h).mpr ⟨hvalid, rfl⟩)
    · intro hinvalid
      obtain ⟨why, hwhy⟩ := (exists_add_eq_error_iff h).mpr hinvalid
      obtain ⟨hresult, hsession⟩ := Session.step_addField_of_refused (g := g) (p := p) hm hwhy
      exact ⟨⟨why, hresult⟩, hsession⟩
  · intro name comment fields
    refine ⟨by simp [addAll_empty_eq_ok_iff], ?_⟩
    intro m hm
    obtain ⟨hvalid, rfl⟩ := addAll_empty_eq_ok_iff.mp hm
    exact ⟨rfl, fieldNumbers_eq hvalid.distinctNames, fun name f => field?_eq_some_iff hvalid.distinctNames⟩

/-- Fields next to the ends of what numbers can be. -/
def edges : Message where
  name := "Edges"
  fields := [
    { name := "first", number := 1, type := .scalar .string },
    { name := "below", number := 18999, type := .scalar .int32 },
    { name := "above", number := 20000, type := .message "google.protobuf.Empty" },
    { name := "last", number := 536870911, type := .scalar .boolean }]

/-- A number that is kept for the wire format. -/
def inside : Field := { name := "inside", number := 19999, type := .scalar .string }

theorem edges_accepted :
    let s : Session :=
      { registry := { package := "", fileName := "api.proto", service := "Api" }, bindings := [("edges", .own edges)] }
    ValidFields edges.fields ∧ addAll { name := "Edges" } edges.fields = .ok edges ∧
      edges.fieldNumbers = [("first", 1), ("below", 18999), ("above", 20000), ("last", 536870911)] ∧
      (∀ f ∈ edges.fields, edges.field? f.name = some f) ∧ (¬ ∃ m, edges.add inside = .ok m) ∧
      (s.step ⟨Fin.elim0, Fin.elim0⟩ .standard (.addField "edges" inside.draft)).session = s := by
  intro s
  obtain ⟨hadd, hstep, hall⟩ := accepted_iff_valid
  have hvalid : ValidFields edges.fields := by decide
  have hinvalid : ¬ ValidFields (edges.fields ++ [inside]) := by decide
  obtain ⟨m, hm⟩ := (hall "Edges" "" edges.fields).1.mpr hvalid
  obtain ⟨rfl, hnumbers, hfield⟩ := (hall "Edges" "" edges.fields).2 m hm
  have hresponse := hstep 0 ⟨Fin.elim0, Fin.elim0⟩ .standard s "edges" edges inside rfl hvalid
  exact ⟨hvalid, hm, hnumbers, fun f hf => (hfield f.name f).mpr ⟨hf, rfl⟩, mt (hadd edges inside hvalid).1.mp hinvalid,
    (hresponse.2 hinvalid).2⟩

end Message

end ResourceApi
