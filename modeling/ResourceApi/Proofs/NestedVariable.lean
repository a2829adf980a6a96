import ResourceApi.Proofs.Binding

/-!
The nested variable of updates. It leads through the field of the resource to a `path` of the resource's own message,
and that message has such a field only if the resource declares one.
-/

namespace ResourceApi

namespace FileDescriptor

variable (file : FileDescriptor)

/-- The message with the given full name, which starts with a dot. -/
def message? (type : String) : Option MessageDescriptor :=
  file.messages.find? fun m => type = "." ++ fullName file.package m.name

def field? (type name : String) : Option FieldDescriptor :=
  (file.message? type).bind fun m => m.fields.find? fun f => f.name = name

/-- The field that a path of names leads to, from a message on through the types of its fields. -/
def fieldAt? : String → List String → Option FieldDescriptor
  | _, [] => none
  | type, [name] => file.field? type name
  | type, name :: next :: names =>
    (file.field? type name).bind fun f => f.typeName.bind fun inner => fieldAt? inner (next :: names)

end FileDescriptor

/-- The names of a legal message are distinct, so each of its fields is the one that is found. -/
theorem Message.Legal.find?_eq_some_iff {m : Message} (h : m.Legal) {name : String} {d : FieldDescriptor} :
    (m.descriptor.fields.find? fun f => f.name = name) = some d ↔ ∃ f ∈ m.fields, f.name = name ∧ f.descriptor = d := by
  have hnodup : (m.descriptor.fields.map FieldDescriptor.name).Nodup := by
    have hnames := h.distinctNames
    rw [List.map_map] at hnames
    rw [descriptor, List.map_map]
    exact hnames
  rw [find?_key_eq_some_iff hnodup, descriptor, List.mem_map]
  constructor
  · rintro ⟨⟨f, hf, rfl⟩, hname⟩
    exact ⟨f, hf, hname, rfl⟩
  · rintro ⟨f, hf, hname, rfl⟩
    exact ⟨⟨f, hf, rfl⟩, hname⟩

/-- The fields of the resource's own message are those that the resource declares. -/
theorem Resource.find?_ownMessage_eq_some_iff {r : Resource} (h : r.LegalFields) {name : String}
    {d : FieldDescriptor} :
    (r.ownMessage.descriptor.fields.find? fun f => f.name = name) = some d ↔
      ∃ p ∈ r.fields, p.name = name ∧ ∃ f, p.field? = some f ∧ f.descriptor = d := by
  rw [h.ownMessage_legal.find?_eq_some_iff]
  simp only [ownMessage, List.mem_filterMap, r.fieldsByNumber_perm.mem_iff]
  constructor
  · rintro ⟨f, ⟨p, hp, hf⟩, hname, hd⟩
    exact ⟨p, hp, (congrArg Slot.name (Property.slot_of_field? hf)).symm.trans hname, f, hf, hd⟩
  · rintro ⟨p, hp, hname, f, hf, hd⟩
    exact ⟨f, ⟨p, hp, hf⟩, (congrArg Slot.name (Property.slot_of_field? hf)).trans hname, hd⟩

theorem Resource.exists_find?_string_iff {r : Resource} (h : r.LegalFields) (name : String) :
    (∃ d, (r.ownMessage.descriptor.fields.find? fun f => f.name = name) = some d ∧ d.type = .scalar .string) ↔
      ∃ p ∈ r.fields, p.name = name ∧ ScalarType.ofTypeName? p.type = some .string := by
  simp only [find?_ownMessage_eq_some_iff h]
  constructor
  · rintro ⟨_, ⟨p, hp, hname, f, hf, rfl⟩, htype⟩
    obtain ⟨type, hscalar, rfl⟩ := Option.map_eq_some_iff.mp hf
    cases htype
    exact ⟨p, hp, hname, hscalar⟩
  · rintro ⟨p, hp, hname, hscalar⟩
    exact ⟨_, ⟨p, hp, hname, _, Option.map_eq_some_iff.mpr ⟨_, hscalar, rfl⟩, rfl⟩, rfl⟩

theorem Text.parts_nested {name : String} (h : '.' ∉ name.toList) : parts '.' (name ++ ".path") = [name, "path"] := by
  have hnames : ∀ s ∈ [name, "path"], '.' ∉ s.toList := by
    simpa using h
  have hjoin : (String.singleton '.').intercalate [name, "path"] = name ++ ".path" := by
    rw [String.intercalate_cons_cons, String.intercalate_singleton, String.append_assoc]
    rfl
  rw [← hjoin, parts_intercalate hnames (by simp)]

namespace Graph

variable {n : Nat} {g : Graph n} {pool : Pool} {is : List (Fin n)} {i : Fin n}

theorem Compilable.message?_eq (h : g.Compilable pool is) (his : is.Nodup) (c : Config) {q : MessageDescriptor}
    (hq : q ∈ (g.compilation pool c is).file.messages) :
    (g.compilation pool c is).file.message? ("." ++ fullName c.package q.name) = some q := by
  have honly := filter_eq_singleton (h.nodup_messages his c) hq c.package
  rw [FileDescriptor.message?, compilation_package, ← List.head?_filter, honly]
  rfl

theorem Compilable.request_legal (h : g.Compilable pool is) (hi : i ∈ is) {m : Method} (hm : m ∈ (g.resource i).methods)
    (package : String) : ((g.blueprint package i).request m).Legal :=
  ((g.blueprint package i).request_legal_iff m).mpr (h.fits i hi m hm)

theorem ownMessage_mem_compilation (pool : Pool) (hi : i ∈ is) (c : Config) :
    (g.resource i).ownMessage.descriptor ∈ (g.compilation pool c is).file.messages := by
  rw [compilation_messages]
  exact List.mem_map_of_mem (List.mem_flatMap.mpr ⟨i, hi, List.mem_cons_self⟩)

section Update

variable (h : g.Compilable pool is) (his : is.Nodup) (hi : i ∈ is) (hm : .update ∈ (g.resource i).methods) (c : Config)

include h his hi hm

/-- The request has the resource's field, with the resource's own message for its type. -/
theorem Compilable.field?_update :
    (g.compilation pool c is).file.field? ((g.blueprint c.package i).rpc .update).descriptor.inputType
      (g.resource i).fieldName = some ((g.blueprint c.package i).field .resource).descriptor := by
  have hlegal := h.request_legal hi hm c.package
  have hrequest := h.message?_eq his c (request_mem_compilation hi hm)
  have hfound : (g.compilation pool c is).file.message? ((g.blueprint c.package i).rpc .update).descriptor.inputType =
      some ((g.blueprint c.package i).request .update).descriptor := hrequest
  have hresource : (g.blueprint c.package i).field .resource ∈ ((g.blueprint c.package i).request .update).fields :=
    List.mem_map_of_mem (by decide)
  rw [FileDescriptor.field?, hfound, Option.bind_some]
  exact hlegal.find?_eq_some_iff.mpr ⟨_, hresource, rfl, rfl⟩

theorem Compilable.fieldAt?_update :
    (g.compilation pool c is).file.fieldAt? ((g.blueprint c.package i).rpc .update).descriptor.inputType
      [(g.resource i).fieldName, "path"] =
        (g.resource i).ownMessage.descriptor.fields.find? fun f => f.name = "path" := by
  have hmessage := h.message?_eq his c (ownMessage_mem_compilation pool hi c)
  have hown : (g.compilation pool c is).file.message? ("." ++ fullName c.package (g.kind i)) =
      some (g.resource i).ownMessage.descriptor := hmessage
  have hinner : (((g.blueprint c.package i).field .resource).descriptor.typeName.bind fun inner =>
      (g.compilation pool c is).file.fieldAt? inner ["path"]) =
        (g.compilation pool c is).file.field? ("." ++ fullName c.package (g.kind i)) "path" := rfl
  rw [FileDescriptor.fieldAt?, h.field?_update his hi hm c, Option.bind_some, hinner, FileDescriptor.field?, hown,
    Option.bind_some]

end Update

/-- An update is bound to `path` of the resource's field. That leads to a text exactly if the resource declares a
field `path` of that type, and nothing else of a compilation makes up for it. -/
theorem update_variable_resolves_iff (g : Graph n) (pool : Pool) (request : List (Fin n)) (c : Config)
    (result : Compilation) (h : g.compile pool request c = .ok result) (i : Fin n) (hi : i ∈ request)
    (hm : .update ∈ (g.resource i).methods) :
    ∃ r ∈ result.file.service.methods, r.name = "Update" ++ g.kind i ∧ r.http.verb = .patch ∧
      ∃ name, Text.templateVariable? r.http.path = some name ∧ name = (g.resource i).fieldName ++ ".path" ∧
        (∃ f, result.file.fieldAt? r.inputType [(g.resource i).fieldName] = some f ∧
          f.typeName = some ("." ++ fullName result.file.package (g.kind i))) ∧
        ((∃ f, result.file.fieldAt? r.inputType (Text.parts '.' name) = some f ∧ f.type = .scalar .string) ↔
          ∃ p ∈ (g.resource i).fields, p.name = "path" ∧ ScalarType.ofTypeName? p.type = some .string) := by
  obtain ⟨hcompilable, ordered, horder, rfl⟩ := compile_eq_ok_iff.mp h
  have hordered := hcompilable.of_mem_iff (mem_order_iff horder)
  have hnodup := nodup_of_order horder
  have hi' : i ∈ ordered := (mem_order_iff horder i).mpr hi
  have hlegal := hordered.request_legal hi' hm c.package
  have hrole : FieldRole.resource ∈ Method.update.row.request := by decide
  have hplain : Text.IsPlain (g.resource i).fieldName := (Blueprint.slot_isIdentifier hlegal hrole).isPlain
  have hr : ((g.blueprint c.package i).rpc .update).descriptor ∈ (g.compilation pool c ordered).file.service.methods :=
    mem_compilation_methods.mpr ⟨i, hi', .update, hm, rfl⟩
  have hvariable := Blueprint.templateVariable?_rpc hlegal
  have hfield := hordered.field?_update hnodup hi' hm c
  refine ⟨_, hr, rfl, rfl, _, hvariable, rfl, ⟨_, hfield, ?_⟩, ?_⟩
  · rw [compilation_package]
    rfl
  · have hparts : Text.parts '.' ((g.blueprint c.package i).variableName Method.update.row.target) =
        [(g.resource i).fieldName, "path"] := Text.parts_nested hplain.2.1
    rw [hparts, hordered.fieldAt?_update hnodup hi' hm c]
    exact Resource.exists_find?_string_iff (hordered.fields i hi') "path"

/-- Scrolls declare the field that their updates are bound to. -/
def archive : Graph 1 where
  resource _ := { kind := "Scroll", plural := "scrolls", type := "archive.example.com/Scroll"
                  fields := [⟨"path", "string", 1⟩], methods := .ofList [.update] }
  parents _ := []

theorem archive_compilable : archive.Compilable .standard [0] where
  declared _ _ _ _ _ := Pool.standard_hasWellKnown.declares
  walks _ _ := ⟨1, rfl⟩
  fields i _ := ⟨by revert i; decide, by revert i; decide⟩
  fits _ _ m hm := by
    have honly : ∀ m ∈ (archive.resource 0).methods.toList, m = .update := by decide
    have hfits : Blueprint.FieldNameFits (archive.resource 0).fieldName .update := ⟨by decide, by decide, by decide⟩
    obtain rfl := honly m hm
    exact hfits
  kinds := by decide
  apart _ _ _ _ m hm := by
    have hapart : ∀ m ∈ (archive.resource 0).methods.toList, ∀ role ∈ m.messageRoles,
        archive.kind 0 ≠ m.messageName role (archive.kind 0) := by decide
    exact hapart m hm

theorem archive_update_resolves :
    ∃ result, archive.compile .standard [0] ⟨"Archive", "archive.v1", none⟩ = .ok result ∧
      ∃ r ∈ result.file.service.methods, Text.templateVariable? r.http.path = some "scroll.path" ∧
        ∃ f, result.file.fieldAt? r.inputType (Text.parts '.' "scroll.path") = some f ∧ f.type = .scalar .string := by
  obtain ⟨result, h⟩ := exists_compile_iff_compilable.mpr archive_compilable
  have hname : (archive.resource 0).fieldName ++ ".path" = "scroll.path" := by decide
  obtain ⟨r, hr, _, _, name, hvariable, rfl, _, hresolves⟩ :=
    update_variable_resolves_iff archive .standard [0] ⟨"Archive", "archive.v1", none⟩ result h 0 (by decide)
      (by decide)
  rw [hname] at hvariable hresolves
  exact ⟨result, h, r, hr, hvariable, hresolves.mpr ⟨⟨"path", "string", 1⟩, by decide⟩⟩

/-- Books declare no such field, and yet they are compiled with an update that is bound to it. -/
theorem bookstore_update_unresolved :
    ∃ result, bookstore.compile .standard [1, 0, 1] ⟨"Bookstore", "bookstore.v1", none⟩ = .ok result ∧
      ∃ r ∈ result.file.service.methods, r.name = "UpdateBook" ∧
        Text.templateVariable? r.http.path = some "book.path" ∧
        result.file.fieldAt? r.inputType (Text.parts '.' "book.path") = none := by
  obtain ⟨result, h⟩ := bookstore_compiles ⟨"Bookstore", "bookstore.v1", none⟩
  obtain ⟨hcompilable, ordered, horder, rfl⟩ := compile_eq_ok_iff.mp h
  have hordered := hcompilable.of_mem_iff (mem_order_iff horder)
  have hbook : 1 ∈ ordered := (mem_order_iff horder 1).mpr (by decide)
  have hupdate : .update ∈ (bookstore.resource 1).methods := by decide
  have hlegal := hordered.request_legal hbook hupdate "bookstore.v1"
  have hname : (bookstore.blueprint "bookstore.v1" 1).variableName .nestedItem = "book.path" := by decide
  have hparts : Text.parts '.' "book.path" = [(bookstore.resource 1).fieldName, "path"] := by decide
  have hr : ((bookstore.blueprint "bookstore.v1" 1).rpc .update).descriptor ∈
      (bookstore.compilation .standard ⟨"Bookstore", "bookstore.v1", none⟩ ordered).file.service.methods :=
    mem_compilation_methods.mpr ⟨1, hbook, .update, hupdate, rfl⟩
  refine ⟨_, h, _, hr, rfl, ?_, ?_⟩
  · exact (Blueprint.templateVariable?_rpc hlegal).trans (congrArg some hname)
  · rw [hparts, hordered.fieldAt?_update (nodup_of_order horder) hbook hupdate]
    refine Option.eq_none_iff_forall_ne_some.mpr fun d hd => ?_
    obtain ⟨p, hp, hpath, _⟩ := (Resource.find?_ownMessage_eq_some_iff (hordered.fields 1 hbook)).mp hd
    have hother : ∀ p ∈ (bookstore.resource 1).fields, p.name ≠ "path" := by decide
    exact hother p hp hpath

end Graph

end ResourceApi
