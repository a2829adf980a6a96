import ResourceApi.Proofs.Binding
import ResourceApi.Proofs.Comments

/-!
Reading a file back. Everything that was registered can be told from the rendered file, so two registries with the same
file hold the same records.
-/

namespace ResourceApi

theorem ValueType.name_injective : Function.Injective ValueType.name := by
  intro type type' h
  revert h
  rcases type with type | _ <;> rcases type' with type' | _
  · cases type <;> cases type' <;> decide
  · cases type <;> decide
  · cases type' <;> decide
  · decide

/-- The full name without the dot that it starts with. -/
def withoutDot (name : String) : String := String.ofList name.toList.tail

theorem withoutDot_dot (name : String) : withoutDot ("." ++ name) = name := by
  simp [withoutDot]

/-- The comment without the blank before and the line end after it; none was written if it is empty. -/
def readComment : Option String → String
  | none => ""
  | some text => String.ofList text.toList.tail.dropLast

theorem readComment_commentText (comment : String) : readComment (commentText comment) = comment := by
  unfold commentText
  split_ifs with h
  · exact h.symm
  · have hchars : (" " ++ comment ++ "\n").toList = ' ' :: (comment.toList ++ ['\n']) := by simp
    rw [readComment, hchars, List.tail_cons, List.dropLast_concat, String.ofList_toList]

/-- What a file says of a registry. The index of taken names is left out. -/
structure Records where
  package : String
  fileName : String
  service : String
  imports : List String
  messages : List Message
  rpcs : List Rpc
  deriving DecidableEq

def Registry.records (reg : Registry) : Records where
  package := reg.package
  fileName := reg.fileName
  service := reg.service
  imports := reg.imports
  messages := reg.messages.items
  rpcs := reg.rpcs.items

def FieldDescriptor.fieldType (d : FieldDescriptor) : FieldType :=
  match d.type with
  | .scalar type => .scalar type
  | .message => .message (withoutDot (d.typeName.getD ""))

def FieldDescriptor.toField (d : FieldDescriptor) (comment : Option String) : Field where
  name := d.name
  number := d.number.toInt
  type := d.fieldType
  repeated := d.repeated
  required := d.isRequired
  reference := d.options.bind FieldOptions.reference
  comment := readComment comment

def CommentedMessage.toMessage (c : CommentedMessage) : Message where
  name := c.message.name
  comment := readComment c.comment
  fields := List.zipWith FieldDescriptor.toField c.message.fields c.fieldComments

/-- An empty body is not written. -/
def HttpRule.binding (r : HttpRule) : HttpBinding where
  verb := r.verb
  path := r.path
  body := r.body.getD ""

def CommentedMethod.toRpc (c : CommentedMethod) : Rpc where
  name := c.method.name
  inputType := withoutDot c.method.inputType
  outputType := withoutDot c.method.outputType
  http := c.method.http.binding
  signatures := c.method.signatures
  comment := readComment c.comment

def FileDescriptor.records (file : FileDescriptor) : Records where
  package := file.package
  fileName := file.name
  service := file.service.name
  imports := file.imports
  messages := file.commentedMessages.map CommentedMessage.toMessage
  rpcs := file.commentedMethods.map CommentedMethod.toRpc

namespace Field

theorem fieldType_descriptor (f : Field) : f.descriptor.fieldType = f.type := by
  unfold FieldDescriptor.fieldType descriptor
  cases f.type with
  | scalar type => rfl
  | message fullName => exact congrArg FieldType.message (withoutDot_dot fullName)

/-- There are no options without a mark, and a reference to any resource is still one. -/
theorem marks_descriptor (f : Field) :
    f.descriptor.isRequired = f.required ∧ f.descriptor.options.bind FieldOptions.reference = f.reference := by
  unfold FieldDescriptor.isRequired descriptor
  cases f.required <;> cases f.reference <;> exact ⟨rfl, rfl⟩

theorem toField_descriptor {f : Field} (h : FitsInt32 f.number) :
    f.descriptor.toField (commentText f.comment) = f := by
  have hnumber : (Int32.ofInt f.number).toInt = f.number := Int32.toInt_ofInt_of_le h.1 (by have := h.2; omega)
  obtain ⟨hrequired, hreference⟩ := f.marks_descriptor
  rw [FieldDescriptor.toField, fieldType_descriptor, hrequired, hreference, readComment_commentText]
  change { f with number := (Int32.ofInt f.number).toInt } = f
  rw [hnumber]

end Field

theorem Message.toMessage_commented {m : Message} (h : ∀ f ∈ m.fields, FitsInt32 f.number) :
    m.commented.toMessage = m := by
  have hfields : m.commented.toMessage.fields = m.fields := calc
    List.zipWith FieldDescriptor.toField (m.fields.map Field.descriptor) (m.fields.map fun f => commentText f.comment)
      = m.fields.map fun f => f.descriptor.toField (commentText f.comment) := by
        rw [List.zipWith_map, List.zipWith_self]
    _ = m.fields.map id := List.map_congr_left fun f hf => Field.toField_descriptor (h f hf)
    _ = m.fields := List.map_id _
  have hcomment : m.commented.toMessage.comment = m.comment := readComment_commentText m.comment
  calc m.commented.toMessage
    _ = { m with comment := m.commented.toMessage.comment, fields := m.commented.toMessage.fields } := rfl
    _ = m := by rw [hcomment, hfields]

theorem HttpBinding.binding_descriptor (h : HttpBinding) : h.descriptor.binding = h := by
  have hbody : h.descriptor.body.getD "" = h.body := by
    rw [descriptor]
    split_ifs with hempty
    · exact hempty.symm
    · rfl
  rw [HttpRule.binding, verb_descriptor, path_descriptor, hbody]

theorem Rpc.toRpc_commented (r : Rpc) : r.commented.toRpc = r := by
  change { r with inputType := withoutDot ("." ++ r.inputType), outputType := withoutDot ("." ++ r.outputType)
                  http := r.http.descriptor.binding, comment := readComment (commentText r.comment) } = r
  rw [withoutDot_dot, withoutDot_dot, HttpBinding.binding_descriptor, readComment_commentText]

namespace Registry

variable {reg reg' : Registry} {file : FileDescriptor}

theorem records_descriptor (h : ∀ m ∈ reg.messages.items, ∀ f ∈ m.fields, FitsInt32 f.number) :
    reg.descriptor.records = reg.records := by
  have hmessages : reg.descriptor.records.messages = reg.messages.items := calc
    reg.descriptor.commentedMessages.map CommentedMessage.toMessage
      = reg.messages.items.map fun m => m.commented.toMessage := by
        rw [commentedMessages_descriptor, List.map_map]
        rfl
    _ = reg.messages.items.map id := List.map_congr_left fun m hm => Message.toMessage_commented (h m hm)
    _ = reg.messages.items := List.map_id _
  have hrpcs : reg.descriptor.records.rpcs = reg.rpcs.items := calc
    reg.descriptor.commentedMethods.map CommentedMethod.toRpc
      = reg.rpcs.items.map fun r => r.commented.toRpc := by
        rw [commentedMethods_descriptor, List.map_map]
        rfl
    _ = reg.rpcs.items.map id := List.map_congr_left fun r _ => r.toRpc_commented
    _ = reg.rpcs.items := List.map_id _
  calc reg.descriptor.records
    _ = { reg.records with messages := reg.descriptor.records.messages, rpcs := reg.descriptor.records.rpcs } := rfl
    _ = reg.records := by
      rw [hmessages, hrpcs]
      rfl

theorem records_of_render (h : reg.render = .ok file) : file.records = reg.records := by
  obtain ⟨hfits, rfl⟩ := render_eq_ok_iff.mp h
  exact records_descriptor hfits

theorem exists_render_eq_error_iff :
    (∃ why, reg.render = .error why) ↔ ∃ m ∈ reg.messages.items, ∃ f ∈ m.fields, ¬ FitsInt32 f.number := by
  have hok : (∃ file, reg.render = .ok file) ↔ ∀ m ∈ reg.messages.items, ∀ f ∈ m.fields, FitsInt32 f.number := by
    simp only [render_eq_ok_iff, exists_and_left, exists_eq, and_true]
  rw [Attempt.exists_eq_error_iff, hok]
  push Not
  rfl

/-- Texts are Unicode texts without surrogates on their own. With such texts, rendering fails over numbers of more than
32 bits and over nothing else. A file can be read back into the records that it was made from, so registries with the
same file agree in all that it is about. The types of fields are told apart by their names. -/
theorem render_is_lossless :
    (∀ reg : Registry, (∃ why, reg.render = .error why) ↔
      ∃ m ∈ reg.messages.items, ∃ f ∈ m.fields, ¬ (-2147483648 ≤ f.number ∧ f.number ≤ 2147483647)) ∧
    (∀ (reg : Registry) (file : FileDescriptor), reg.render = .ok file → file.records = reg.records) ∧
    (∀ (reg reg' : Registry) (file : FileDescriptor), reg.render = .ok file → reg'.render = .ok file →
      reg.package = reg'.package ∧ reg.fileName = reg'.fileName ∧ reg.imports = reg'.imports ∧
        reg.service = reg'.service ∧ reg.messages.items = reg'.messages.items ∧ reg.rpcs.items = reg'.rpcs.items) ∧
    Function.Injective ValueType.name := by
  refine ⟨fun reg => exists_render_eq_error_iff, fun reg file h => records_of_render h, ?_, ValueType.name_injective⟩
  intro reg reg' file h h'
  have hrecords : reg.records = reg'.records := (records_of_render h).symm.trans (records_of_render h')
  obtain ⟨hpackage, hfileName, hservice, himports, hmessages, hrpcs⟩ := Records.mk.inj hrecords
  exact ⟨hpackage, hfileName, himports, hservice, hmessages, hrpcs⟩

/-- Two fields of one message that differ in whether they refer to resources at all, and an RPC with next to nothing
set. -/
def sparse : Registry where
  package := ""
  fileName := ""
  service := ""
  messages := { items := [{ name := "", fields := [
    { name := "any", number := -1, type := .scalar .string, reference := some "" },
    { name := "none", number := 2147483647, type := .message "", comment := "\n" }] }] }
  rpcs := { items := [{ name := "", inputType := "", outputType := ".", http := { verb := .get, path := "" }
                        signatures := [""] }] }
  imports := []

theorem sparse_read_back :
    (∃ file, sparse.render = .ok file ∧ file.records = sparse.records) ∧
      ∃ why, Registry.render { sparse with messages := { items := [{ name := "", fields := [
        { name := "wide", number := 2147483648, type := .scalar .int64 }] }] } } = .error why := by
  obtain ⟨hfails, hread, _, _⟩ := render_is_lossless
  constructor
  · have hfile : sparse.render = .ok sparse.descriptor := rfl
    exact ⟨_, hfile, hread _ _ hfile⟩
  · exact (hfails _).mpr ⟨_, List.mem_singleton_self _, _, List.mem_singleton_self _, by decide⟩

end Registry

end ResourceApi
