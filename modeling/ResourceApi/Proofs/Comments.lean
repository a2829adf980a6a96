import ResourceApi.Proofs.Rendering

/-!
Comments of rendered files. The comment of an element is found under the element's path and under no other, so a
file can be read as messages and methods that carry their comments with them.
-/

namespace ResourceApi

/-- The text that is written for a comment. An empty one is not written. -/
def commentText (comment : String) : Option String := if comment = "" then none else some (" " ++ comment ++ "\n")

theorem Location.mem_ofComment {l : Location} {path : List Nat} {comment : String} :
    l ∈ Location.ofComment path comment ↔ l.path = path ∧ commentText comment = some l.leadingComments := by
  obtain ⟨path', text⟩ := l
  unfold ofComment commentText
  split_ifs <;> simp [eq_comm]

namespace Registry

variable {reg : Registry}

/-- The text for the element that a path leads to. -/
def commentAt (reg : Registry) : List Nat → Option String
  | [4, i] => reg.messages.items[i]?.bind fun m => commentText m.comment
  | [4, i, 2, j] => reg.messages.items[i]?.bind fun m => m.fields[j]?.bind fun f => commentText f.comment
  | [6, 0, 2, k] => reg.rpcs.items[k]?.bind fun r => commentText r.comment
  | _ => none

theorem mem_locations_iff {l : Location} :
    l ∈ reg.locations ↔ reg.commentAt l.path = some l.leadingComments := by
  simp only [locations, Message.locations, Rpc.locations, List.mem_append, List.mem_flatMap, Prod.exists,
    List.mem_zipIdx_iff_getElem?, Location.mem_ofComment]
  constructor
  · rintro (⟨m, i, hm, ⟨hpath, htext⟩ | ⟨f, j, hf, hpath, htext⟩⟩ | ⟨r, k, hr, hpath, htext⟩)
    · simp [hpath, commentAt, hm, htext]
    · simp [hpath, commentAt, hm, hf, htext]
    · simp [hpath, commentAt, hr, htext]
  · intro h
    unfold commentAt at h
    split at h
    next i hpath =>
      obtain ⟨m, hm, htext⟩ := Option.bind_eq_some_iff.mp h
      exact .inl ⟨m, i, hm, .inl ⟨hpath, htext⟩⟩
    next i j hpath =>
      obtain ⟨m, hm, h⟩ := Option.bind_eq_some_iff.mp h
      obtain ⟨f, hf, htext⟩ := Option.bind_eq_some_iff.mp h
      exact .inl ⟨m, i, hm, .inr ⟨f, j, hf, hpath, htext⟩⟩
    next k hpath =>
      obtain ⟨r, hr, htext⟩ := Option.bind_eq_some_iff.mp h
      exact .inr ⟨r, k, hr, hpath, htext⟩
    next => cases h

end Registry

/-- A message together with its comment and those of its fields. -/
structure CommentedMessage where
  message : MessageDescriptor
  comment : Option String
  fieldComments : List (Option String)
  deriving DecidableEq

structure CommentedMethod where
  method : MethodDescriptor
  comment : Option String
  deriving DecidableEq

namespace FileDescriptor

variable (file : FileDescriptor)

def comment? (path : List Nat) : Option String :=
  (file.locations.find? fun l => l.path = path).map Location.leadingComments

def commentedMessages : List CommentedMessage :=
  file.messages.mapIdx fun i m =>
    { message := m, comment := file.comment? [4, i]
      fieldComments := m.fields.mapIdx fun j _ => file.comment? [4, i, 2, j] }

def commentedMethods : List CommentedMethod :=
  file.service.methods.mapIdx fun k r => { method := r, comment := file.comment? [6, 0, 2, k] }

end FileDescriptor

def Message.commented (m : Message) : CommentedMessage where
  message := m.descriptor
  comment := commentText m.comment
  fieldComments := m.fields.map fun f => commentText f.comment

def Rpc.commented (r : Rpc) : CommentedMethod where
  method := r.descriptor
  comment := commentText r.comment

namespace Registry

theorem comment?_descriptor (reg : Registry) (path : List Nat) :
    reg.descriptor.comment? path = reg.commentAt path := by
  unfold FileDescriptor.comment?
  cases hfind : reg.descriptor.locations.find? fun l => l.path = path with
  | some l =>
    have hpath : l.path = path := by simpa using List.find?_some hfind
    have htext := mem_locations_iff.mp (List.mem_of_find?_eq_some hfind)
    rw [← hpath, htext, Option.map_some]
  | none =>
    cases htext : reg.commentAt path with
    | none => rfl
    | some text =>
      have hmem : ⟨path, text⟩ ∈ reg.locations := mem_locations_iff.mpr htext
      exact absurd (List.find?_eq_none.mp hfind _ hmem) (by simp)

/-- Reading the comments of a file by their paths gives each element the comment of its record. -/
theorem commentedMessages_descriptor (reg : Registry) :
    reg.descriptor.commentedMessages = reg.messages.items.map Message.commented := by
  refine List.mapIdx_eq_iff.mpr fun i => ?_
  rw [descriptor, List.getElem?_map, List.getElem?_map]
  cases hm : reg.messages.items[i]? with
  | none => rfl
  | some m =>
    have hfields : (m.descriptor.fields.mapIdx fun j _ => reg.descriptor.comment? [4, i, 2, j]) =
        m.fields.map fun f => commentText f.comment := by
      refine List.mapIdx_eq_iff.mpr fun j => ?_
      rw [Message.descriptor, List.getElem?_map, List.getElem?_map]
      cases hf : m.fields[j]? with
      | none => rfl
      | some f => simp [comment?_descriptor, commentAt, hm, hf]
    have hcomment : reg.descriptor.comment? [4, i] = commentText m.comment := by
      simp [comment?_descriptor, commentAt, hm]
    rw [Option.map_some, Option.map_some, Option.map_some, Message.commented, ← hfields, ← hcomment]
    rfl

theorem commentedMethods_descriptor (reg : Registry) :
    reg.descriptor.commentedMethods = reg.rpcs.items.map Rpc.commented := by
  refine List.mapIdx_eq_iff.mpr fun k => ?_
  rw [descriptor, List.getElem?_map, List.getElem?_map]
  cases hr : reg.rpcs.items[k]? with
  | none => rfl
  | some r =>
    have hcomment : reg.descriptor.comment? [6, 0, 2, k] = commentText r.comment := by
      simp [comment?_descriptor, commentAt, hr]
    rw [Option.map_some, Option.map_some, Option.map_some, Rpc.commented, ← hcomment]
    rfl

end Registry

end ResourceApi
