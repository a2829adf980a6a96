import ResourceApi.Descriptor.Render
import ResourceApi.Proofs.Fields

/-!
Descriptors of records. Rendering gives them wherever every field number fits into 32 bits. Those of legal fields do,
so legal messages are always rendered.
-/

namespace ResourceApi

def FitsInt32 (number : Int) : Prop := -2147483648 ≤ number ∧ number ≤ 2147483647

theorem LegalNumber.fitsInt32 {number : Int} (h : LegalNumber number) : FitsInt32 number := by
  obtain ⟨hlow, hhigh, _⟩ := h
  exact ⟨by omega, by omega⟩

theorem int32?_eq_ok_iff {number : Int} {value : Int32} :
    int32? number = .ok value ↔ FitsInt32 number ∧ value = Int32.ofInt number := by
  unfold int32? FitsInt32
  split_ifs with h <;> simp [h, eq_comm]

namespace Field

/-- Full names of message types start with a dot, and there are no options without a mark to carry. -/
def descriptor (f : Field) : FieldDescriptor where
  name := f.name
  number := Int32.ofInt f.number
  repeated := f.repeated
  type := match f.type with
    | .scalar type => .scalar type
    | .message _ => .message
  typeName := match f.type with
    | .scalar _ => none
    | .message fullName => some ("." ++ fullName)
  options := match f.required, f.reference with
    | true, reference => some { behaviors := [.required], reference }
    | false, some type => some { behaviors := [], reference := some type }
    | false, none => none

theorem render_eq_ok_iff {f : Field} {d : FieldDescriptor} :
    f.render = .ok d ↔ FitsInt32 f.number ∧ d = f.descriptor := by
  have hoptions : f.options = f.descriptor.options := by
    unfold options descriptor
    cases f.required <;> cases f.reference <;> rfl
  rw [render, hoptions]
  exact Attempt.map_eq_ok_iff_of_value fun _ => int32?_eq_ok_iff

end Field

namespace Message

def descriptor (m : Message) : MessageDescriptor where
  name := m.name
  fields := m.fields.map Field.descriptor

theorem render_eq_ok_iff {m : Message} {d : MessageDescriptor} :
    m.render = .ok d ↔ (∀ f ∈ m.fields, FitsInt32 f.number) ∧ d = m.descriptor :=
  Attempt.map_eq_ok_iff_of_value fun _ => Attempt.mapM_eq_ok_iff_of_value fun _ _ => Field.render_eq_ok_iff

theorem Legal.fitsInt32 {m : Message} (h : m.Legal) : ∀ f ∈ m.fields, FitsInt32 f.number :=
  fun f hf => (h.numbers f.slot (List.mem_map_of_mem hf)).fitsInt32

end Message

def HttpBinding.descriptor (h : HttpBinding) : HttpRule where
  pattern := .ofVerb h.path h.verb
  body := if h.body = "" then none else some h.body

namespace HttpBinding

theorem verb_descriptor (h : HttpBinding) : h.descriptor.verb = h.verb := HttpPattern.verb_ofVerb h.path h.verb

theorem path_descriptor (h : HttpBinding) : h.descriptor.path = h.path := HttpPattern.path_ofVerb h.path h.verb

theorem body_descriptor_eq_some_iff {h : HttpBinding} {body : String} :
    h.descriptor.body = some body ↔ h.body = body ∧ body ≠ "" := by
  rw [descriptor]
  split_ifs with hbody
  · rw [hbody]
    simp [eq_comm]
  · rw [Option.some.injEq]
    exact (and_iff_left_of_imp fun heq => heq ▸ hbody).symm

end HttpBinding

def Rpc.descriptor (r : Rpc) : MethodDescriptor where
  name := r.name
  inputType := "." ++ r.inputType
  outputType := "." ++ r.outputType
  http := r.http.descriptor
  signatures := r.signatures

namespace Registry

def descriptor (reg : Registry) : FileDescriptor where
  name := reg.fileName
  package := reg.package
  imports := reg.imports
  messages := reg.messages.items.map Message.descriptor
  service := { name := reg.service, methods := reg.rpcs.items.map Rpc.descriptor }
  locations := reg.locations

theorem render_eq_ok_iff {reg : Registry} {file : FileDescriptor} :
    reg.render = .ok file ↔
      (∀ m ∈ reg.messages.items, ∀ f ∈ m.fields, FitsInt32 f.number) ∧ file = reg.descriptor :=
  Attempt.map_eq_ok_iff_of_value fun _ => Attempt.mapM_eq_ok_iff_of_value fun _ _ => Message.render_eq_ok_iff

theorem render_eq_ok_descriptor {reg : Registry} (h : ∀ m ∈ reg.messages.items, m.Legal) :
    reg.render = .ok reg.descriptor :=
  render_eq_ok_iff.mpr ⟨fun m hm => (h m hm).fitsInt32, rfl⟩

end Registry

end ResourceApi
