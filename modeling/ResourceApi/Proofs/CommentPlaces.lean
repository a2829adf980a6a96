import ResourceApi.Proofs.Comments

/-!
Where comments stand in a rendered file. Each of them is found under the path of the element that it is about, and they
are in the lexicographic order of paths: a message, its fields, the next message and so on, then the methods.
-/

namespace ResourceApi

theorem commentText_eq_some_iff {comment text : String} :
    commentText comment = some text ↔ comment ≠ "" ∧ text = " " ++ comment ++ "\n" := by
  unfold commentText
  split_ifs with h <;> simp [h, eq_comm]

/-- The one location stands before the other. -/
def Location.Before (l l' : Location) : Prop := l.path < l'.path

theorem Location.pairwise_ofComment (path : List Nat) (comment : String) :
    (Location.ofComment path comment).Pairwise Location.Before := by
  unfold Location.ofComment
  split_ifs
  · exact List.Pairwise.nil
  · exact List.pairwise_singleton _ _

theorem Location.path_eq_of_mem_ofComment {l : Location} {path : List Nat} {comment : String}
    (h : l ∈ Location.ofComment path comment) : l.path = path :=
  (Location.mem_ofComment.mp h).1

private theorem zipIdx_pairwise {α : Type} (as : List α) (start : Nat) :
    (as.zipIdx start).Pairwise fun x y => x.2 < y.2 := by
  have hindexes : ((as.zipIdx start).map Prod.snd).Pairwise (· < ·) := by
    rw [List.zipIdx_map_snd]
    exact List.pairwise_lt_range'
  exact List.pairwise_map.mp hindexes

/-- Locations that are in order for each element and from one element to the next are in order throughout. -/
private theorem pairwise_flatMap_zipIdx {α : Type} (places : α → Nat → List Location) (as : List α)
    (hplaces : ∀ a k, (places a k).Pairwise Location.Before)
    (hnext : ∀ a a' k k', k < k' → ∀ l ∈ places a k, ∀ l' ∈ places a' k', l.Before l') :
    (as.zipIdx.flatMap fun (a, k) => places a k).Pairwise Location.Before := by
  refine List.pairwise_flatMap.mpr ⟨fun (a, k) _ => hplaces a k, ?_⟩
  apply (zipIdx_pairwise as 0).imp
  intro (a, k) (a', k') hk
  exact hnext a a' k k' hk

namespace Message

variable {m : Message} {i : Nat} {l : Location}

/-- The paths of a message and of its fields begin with the place of the message. -/
theorem exists_path_eq (h : l ∈ m.locations i) : ∃ rest, l.path = 4 :: i :: rest := by
  rcases List.mem_append.mp h with h | h
  · exact ⟨[], Location.path_eq_of_mem_ofComment h⟩
  · obtain ⟨⟨f, j⟩, _, hl⟩ := List.mem_flatMap.mp h
    exact ⟨[2, j], Location.path_eq_of_mem_ofComment hl⟩

theorem pairwise_locations (m : Message) (i : Nat) : (m.locations i).Pairwise Location.Before := by
  refine List.pairwise_append.mpr ⟨Location.pairwise_ofComment _ _, ?_, ?_⟩
  · apply pairwise_flatMap_zipIdx (fun f j => Location.ofComment [4, i, 2, j] f.comment) m.fields
    · intro f j
      exact Location.pairwise_ofComment _ _
    · intro f f' j j' hj l hl l' hl'
      rw [Location.Before, Location.path_eq_of_mem_ofComment hl, Location.path_eq_of_mem_ofComment hl']
      simp [List.cons_lt_cons_iff, hj]
  · intro l hl l' hl'
    obtain ⟨⟨f, j⟩, _, hl'⟩ := List.mem_flatMap.mp hl'
    rw [Location.Before, Location.path_eq_of_mem_ofComment hl, Location.path_eq_of_mem_ofComment hl']
    simp

end Message

namespace Registry

variable {reg : Registry} {file : FileDescriptor} {path : List Nat}

theorem pairwise_locations (reg : Registry) : reg.locations.Pairwise Location.Before := by
  refine List.pairwise_append.mpr ⟨?_, ?_, ?_⟩
  · apply pairwise_flatMap_zipIdx Message.locations
    · exact Message.pairwise_locations
    · intro m m' i i' hi l hl l' hl'
      obtain ⟨rest, hpath⟩ := Message.exists_path_eq hl
      obtain ⟨rest', hpath'⟩ := Message.exists_path_eq hl'
      rw [Location.Before, hpath, hpath']
      simp [List.cons_lt_cons_iff, hi]
  · apply pairwise_flatMap_zipIdx Rpc.locations
    · intro r k
      exact Location.pairwise_ofComment _ _
    · intro r r' k k' hk l hl l' hl'
      rw [Location.Before, Location.path_eq_of_mem_ofComment hl, Location.path_eq_of_mem_ofComment hl']
      simp [List.cons_lt_cons_iff, hk]
  · intro l hl l' hl'
    obtain ⟨⟨m, i⟩, _, hl⟩ := List.mem_flatMap.mp hl
    obtain ⟨⟨r, k⟩, _, hl'⟩ := List.mem_flatMap.mp hl'
    obtain ⟨rest, hpath⟩ := Message.exists_path_eq hl
    rw [Location.Before, hpath, Location.path_eq_of_mem_ofComment hl']
    simp [List.cons_lt_cons_iff]

/-- The path leads to an element of the file, and `comment` is that of the record which the element renders. -/
inductive Addresses (reg : Registry) (file : FileDescriptor) : List Nat → String → Prop where
  | message {i : Nat} {m : Message} {d : MessageDescriptor} (hm : reg.messages.items[i]? = some m)
    (hd : file.messages[i]? = some d) (hrender : m.render = .ok d) : Addresses reg file [4, i] m.comment
  | field {i j : Nat} {m : Message} {d : MessageDescriptor} {f : Field} {e : FieldDescriptor}
    (hm : reg.messages.items[i]? = some m) (hd : file.messages[i]? = some d) (hf : m.fields[j]? = some f)
    (he : d.fields[j]? = some e) (hrender : f.render = .ok e) : Addresses reg file [4, i, 2, j] f.comment
  | method {k : Nat} {r : Rpc} (hr : reg.rpcs.items[k]? = some r)
    (hd : file.service.methods[k]? = some r.render) : Addresses reg file [6, 0, 2, k] r.comment

/-- Rendering keeps every element in its place, so a comment under a path is that of the element there. -/
theorem addresses_of_commentAt (h : reg.render = .ok file) {text : String} (htext : reg.commentAt path = some text) :
    ∃ comment, reg.Addresses file path comment ∧ comment ≠ "" ∧ text = " " ++ comment ++ "\n" := by
  obtain ⟨hfits, rfl⟩ := render_eq_ok_iff.mp h
  have hmessage {i : Nat} {m : Message} (hm : reg.messages.items[i]? = some m) :
      reg.descriptor.messages[i]? = some m.descriptor := by
    rw [descriptor, List.getElem?_map, hm, Option.map_some]
  unfold commentAt at htext
  split at htext
  next i =>
    obtain ⟨m, hm, htext⟩ := Option.bind_eq_some_iff.mp htext
    have hrender := Message.render_eq_ok_iff.mpr ⟨hfits m (List.mem_of_getElem? hm), rfl⟩
    exact ⟨m.comment, .message hm (hmessage hm) hrender, commentText_eq_some_iff.mp htext⟩
  next i j =>
    obtain ⟨m, hm, htext⟩ := Option.bind_eq_some_iff.mp htext
    obtain ⟨f, hf, htext⟩ := Option.bind_eq_some_iff.mp htext
    have hrender := Field.render_eq_ok_iff.mpr ⟨hfits m (List.mem_of_getElem? hm) f (List.mem_of_getElem? hf), rfl⟩
    have hfield : m.descriptor.fields[j]? = some f.descriptor := by
      rw [Message.descriptor, List.getElem?_map, hf, Option.map_some]
    exact ⟨f.comment, .field hm (hmessage hm) hf hfield hrender, commentText_eq_some_iff.mp htext⟩
  next k =>
    obtain ⟨r, hr, htext⟩ := Option.bind_eq_some_iff.mp htext
    have hmethod : reg.descriptor.service.methods[k]? = some r.render := by
      rw [descriptor, List.getElem?_map, hr, Option.map_some]
      rfl
    exact ⟨r.comment, .method hr hmethod, commentText_eq_some_iff.mp htext⟩
  next => cases htext

theorem exists_location_iff :
    (∃ l ∈ reg.locations, l.path = path) ↔ ∃ text, reg.commentAt path = some text := by
  constructor
  · intro ⟨l, hl, hpath⟩
    exact ⟨l.leadingComments, hpath ▸ mem_locations_iff.mp hl⟩
  · intro ⟨text, htext⟩
    exact ⟨⟨path, text⟩, mem_locations_iff.mpr htext, rfl⟩

/-- In a rendered file every element with a comment has one location, under its own path, and there are no others. The
locations are in the lexicographic order of paths. -/
theorem comments_are_in_place (h : reg.render = .ok file) :
    (file.locations.map Location.path).Nodup ∧
    (∀ i, (∃ l ∈ file.locations, l.path = [4, i]) ↔ ∃ m, reg.messages.items[i]? = some m ∧ m.comment ≠ "") ∧
    (∀ i j, (∃ l ∈ file.locations, l.path = [4, i, 2, j]) ↔
      ∃ m f, reg.messages.items[i]? = some m ∧ m.fields[j]? = some f ∧ f.comment ≠ "") ∧
    (∀ k, (∃ l ∈ file.locations, l.path = [6, 0, 2, k]) ↔ ∃ r, reg.rpcs.items[k]? = some r ∧ r.comment ≠ "") ∧
    (∀ l ∈ file.locations,
      ∃ comment, reg.Addresses file l.path comment ∧ comment ≠ "" ∧ l.leadingComments = " " ++ comment ++ "\n") ∧
    (file.locations.map Location.path).Pairwise (· < ·) := by
  have hlocations : file.locations = reg.locations := by
    obtain ⟨_, rfl⟩ := render_eq_ok_iff.mp h
    rfl
  have horder : (reg.locations.map Location.path).Pairwise (· < ·) := List.pairwise_map.mpr reg.pairwise_locations
  have hnodup : (reg.locations.map Location.path).Nodup := by
    apply horder.imp
    intro path path' hlt heq
    exact List.lt_irrefl path (heq ▸ hlt)
  rw [hlocations]
  refine ⟨hnodup, ?_, ?_, ?_, ?_, horder⟩
  · intro i
    rw [exists_location_iff]
    simp [commentAt, Option.bind_eq_some_iff, commentText_eq_some_iff]
  · intro i j
    rw [exists_location_iff]
    simp [commentAt, Option.bind_eq_some_iff, commentText_eq_some_iff]
  · intro k
    rw [exists_location_iff]
    simp [commentAt, Option.bind_eq_some_iff, commentText_eq_some_iff]
  · intro l hl
    exact addresses_of_commentAt h (mem_locations_iff.mp hl)

/-- Two messages, of which the first has no comment but a field with one, and an RPC. -/
def commented : Registry where
  package := "notes.v1"
  fileName := "notes.proto"
  service := "Notes"
  messages := { items := [
    { name := "Note", fields := [
      { name := "text", number := 1, type := .scalar .string },
      { name := "title", number := 2, type := .scalar .string, comment := "One line." }] },
    { name := "GetNoteRequest", comment := "Asks for a note." }] }
  rpcs := { items := [
    { name := "GetNote", inputType := "notes.v1.GetNoteRequest", outputType := "notes.v1.Note"
      http := { verb := .get, path := "" }, comment := "Gives a note." }] }

/-- The title is the second field of the first message, and the first location. -/
theorem commented_places :
    ∃ file, commented.render = .ok file ∧
      file.locations.map Location.path = [[4, 0, 2, 1], [4, 1], [6, 0, 2, 0]] ∧
      (∃ l ∈ file.locations, l.path = [4, 0, 2, 1]) ∧ ¬ (∃ l ∈ file.locations, l.path = [4, 0]) ∧
      (file.locations.map Location.path).Pairwise (· < ·) := by
  have hrender : commented.render = .ok commented.descriptor := rfl
  obtain ⟨_, hmessages, hfields, _, _, horder⟩ := comments_are_in_place hrender
  refine ⟨_, hrender, rfl, (hfields 0 1).mpr ⟨_, _, rfl, rfl, by decide⟩, ?_, horder⟩
  rw [hmessages 0]
  intro ⟨m, hm, hcomment⟩
  obtain rfl := Option.some.inj hm
  exact hcomment rfl

end Registry

end ResourceApi
