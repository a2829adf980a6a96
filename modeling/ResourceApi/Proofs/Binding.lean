import ResourceApi.Proofs.Compilation
import ResourceApi.Proofs.Text

/-!
HTTP bindings and signatures against the requests that they are about.
-/

namespace ResourceApi

def FieldDescriptor.isRequired (f : FieldDescriptor) : Bool := f.options.any (·.behaviors.contains .required)

/-- Template, body and signatures of a method name fields of its request. The body is a required field of the given
type. -/
structure MethodDescriptor.BindsTo (r : MethodDescriptor) (request : MessageDescriptor) (type : String) : Prop where
  template : ∃ name, Text.templateVariable? r.http.path = some name ∧
    Text.before '.' name ∈ request.fields.map FieldDescriptor.name
  body : ∀ body, r.http.body = some body →
    ∃ f ∈ request.fields, f.name = body ∧ f.isRequired = true ∧ f.typeName = some type
  signatures : ∀ s ∈ r.signatures, ∀ name ∈ Text.parts ',' s, name ∈ request.fields.map FieldDescriptor.name

/-- The kind of the resource brings no separator into a body or a variable. Only the dot in front of a nested `path`
is part of a variable. -/
structure MethodDescriptor.HasPlainNames (r : MethodDescriptor) : Prop where
  body : ∀ body, r.http.body = some body → Text.IsPlain body
  template : ∀ name, Text.templateVariable? r.http.path = some name →
    Text.IsPlain (Text.before '.' name) ∧ (name = Text.before '.' name ∨ name = Text.before '.' name ++ ".path")

/-- The field that the variable of a template starts from. -/
def Target.role : Target → FieldRole
  | .collection => .parent
  | .item | .everywhere => .path
  | .nestedItem => .resource

namespace Blueprint

variable {b : Blueprint} {m : Method}

theorem name_mem_request {role : FieldRole} (h : role ∈ m.row.request) :
    (b.slot role).name ∈ (b.request m).descriptor.fields.map FieldDescriptor.name := by
  have hfield : (b.field role).descriptor ∈ (b.request m).descriptor.fields :=
    List.mem_map_of_mem (List.mem_map_of_mem h)
  exact List.mem_map_of_mem (f := FieldDescriptor.name) hfield

theorem slot_isIdentifier (h : (b.request m).Legal) {role : FieldRole} (hrole : role ∈ m.row.request) :
    Text.IsIdentifier (b.slot role).name :=
  Text.isIdentifier_iff.mp (h.identifiers (b.field role).slot (List.mem_map_of_mem (List.mem_map_of_mem hrole)))

/-- The rows of the table name no field that the request does not have. -/
theorem target_role_mem (m : Method) : m.row.target.role ∈ m.row.request := by cases m <;> decide

theorem resource_mem (h : m.row.hasBody = true) : .resource ∈ m.row.request := by
  cases m <;> first | decide | cases h

theorem signature_mem {roles : List FieldRole} (h : m.row.signature = some roles) :
    roles ≠ [] ∧ ∀ role ∈ roles, role ∈ m.row.request := by
  cases m <;> cases h <;> decide

theorem variableName_eq (b : Blueprint) (target : Target) :
    b.variableName target = (b.slot target.role).name ∨
      b.variableName target = (b.slot target.role).name ++ ".path" := by
  cases target with
  | collection | item | everywhere => exact .inl rfl
  | nestedItem => exact .inr rfl

theorem before_variableName (h : (b.request m).Legal) :
    Text.before '.' (b.variableName m.row.target) = (b.slot m.row.target.role).name := by
  have hplain := (slot_isIdentifier h (target_role_mem m)).isPlain
  rcases b.variableName_eq m.row.target with hname | hname
  · rw [hname, Text.before_eq_self hplain.2.1]
  · rw [hname, Text.before_append hplain.2.1 (by decide)]

theorem equals_not_mem_variableName (h : (b.request m).Legal) : '=' ∉ (b.variableName m.row.target).toList := by
  have hplain := (slot_isIdentifier h (target_role_mem m)).isPlain
  rcases b.variableName_eq m.row.target with hname | hname
  · rw [hname]
    exact hplain.2.2
  · rw [hname, String.toList_append, List.mem_append, not_or]
    exact ⟨hplain.2.2, by decide⟩

theorem templateVariable?_rpc (h : (b.request m).Legal) :
    Text.templateVariable? (b.rpc m).descriptor.http.path = some (b.variableName m.row.target) := by
  have hpath : (b.rpc m).descriptor.http.path = b.template m.row.target := HttpBinding.path_descriptor _
  rw [hpath]
  exact Text.templateVariable?_eq (equals_not_mem_variableName h)

/-- Only requests that have a field for the resource have a body, and that field is it. -/
theorem body_rpc {body : String} (h : (b.rpc m).descriptor.http.body = some body) :
    m.row.hasBody = true ∧ body = (b.slot .resource).name := by
  obtain ⟨hbody, hne⟩ := HttpBinding.body_descriptor_eq_some_iff.mp h
  change (if m.row.hasBody then b.resource.fieldName else "") = body at hbody
  split_ifs at hbody with hhas
  · exact ⟨hhas, hbody.symm⟩
  · exact absurd hbody.symm hne

/-- Every row of the table binds its method to its request, once the request is legal. -/
theorem rpc_bindsTo (h : (b.request m).Legal) :
    (b.rpc m).descriptor.BindsTo (b.request m).descriptor ("." ++ fullName b.package b.kind) where
  template := by
    refine ⟨_, templateVariable?_rpc h, ?_⟩
    rw [before_variableName h]
    exact name_mem_request (target_role_mem m)
  body body hbody := by
    obtain ⟨hhas, rfl⟩ := body_rpc hbody
    exact ⟨(b.field .resource).descriptor, List.mem_map_of_mem (List.mem_map_of_mem (resource_mem hhas)), rfl, rfl, rfl⟩
  signatures s hs name hname := by
    obtain ⟨roles, hroles, rfl⟩ := List.mem_map.mp hs
    obtain ⟨hne, hmem⟩ := signature_mem (Option.mem_toList.mp hroles)
    have hcommas : ∀ s ∈ roles.map fun role => (b.slot role).name, ',' ∉ s.toList :=
      List.forall_mem_map.mpr fun role hrole => (slot_isIdentifier h (hmem role hrole)).isPlain.1
    have hparts := Text.parts_intercalate hcommas (by simpa using hne)
    rw [show "," = String.singleton ',' from rfl, hparts] at hname
    obtain ⟨role, hrole, rfl⟩ := List.mem_map.mp hname
    exact name_mem_request (hmem role hrole)

theorem rpc_hasPlainNames (h : (b.request m).Legal) : (b.rpc m).descriptor.HasPlainNames where
  body body hbody := by
    obtain ⟨hhas, rfl⟩ := body_rpc hbody
    exact (slot_isIdentifier h (resource_mem hhas)).isPlain
  template name hname := by
    rw [templateVariable?_rpc h, Option.some.injEq] at hname
    subst hname
    rw [before_variableName h]
    exact ⟨(slot_isIdentifier h (target_role_mem m)).isPlain, b.variableName_eq m.row.target⟩

end Blueprint

namespace Graph

variable {n : Nat} {g : Graph n} {pool : Pool} {request is : List (Fin n)} {c : Config} {result : Compilation}

/-- Messages of a compiled file are told apart by their names. -/
theorem Compilable.nodup_messages (h : g.Compilable pool is) (his : is.Nodup) (c : Config) :
    ((g.compilation pool c is).file.messages.map MessageDescriptor.name).Nodup := by
  have hnodup := (nodup_messageNames_blocks_iff his pool c.package).mpr ⟨h.kinds, h.apart⟩
  rw [Registry.messageNames, filterMap_message_blocks] at hnodup
  rw [compilation_messages, List.map_map]
  exact hnodup

/-- A full name finds one message at most. -/
theorem filter_eq_singleton {messages : List MessageDescriptor} {q : MessageDescriptor}
    (h : (messages.map MessageDescriptor.name).Nodup) (hq : q ∈ messages) (package : String) :
    (messages.filter fun q' => "." ++ fullName package q.name = "." ++ fullName package q'.name) = [q] := by
  have hfound : (messages.filter fun q' => "." ++ fullName package q.name = "." ++ fullName package q'.name).Nodup :=
    h.of_map.filter _
  refine List.perm_singleton.mp ((List.perm_ext_iff_of_nodup hfound (List.nodup_singleton q)).mpr fun q' => ?_)
  simp only [List.mem_filter, decide_eq_true_eq, String.append_right_inj, fullName_inj, List.mem_singleton]
  constructor
  · rintro ⟨hq', hname⟩
    exact List.inj_on_of_nodup_map h hq' hq hname.symm
  · rintro rfl
    exact ⟨hq, rfl⟩

theorem mem_compilation_methods {r : MethodDescriptor} :
    r ∈ (g.compilation pool c is).file.service.methods ↔
      ∃ i ∈ is, ∃ m ∈ (g.resource i).methods, r = ((g.blueprint c.package i).rpc m).descriptor := by
  rw [compilation_methods]
  simp only [List.mem_map, List.mem_flatMap, Blueprint.rpcs, Blueprint.mem_methods]
  constructor
  · rintro ⟨_, ⟨i, hi, m, hm, rfl⟩, rfl⟩
    exact ⟨i, hi, m, hm, rfl⟩
  · rintro ⟨i, hi, m, hm, rfl⟩
    exact ⟨_, ⟨i, hi, m, hm, rfl⟩, rfl⟩

theorem request_mem_compilation {i : Fin n} (hi : i ∈ is) {m : Method} (hm : m ∈ (g.resource i).methods) :
    ((g.blueprint c.package i).request m).descriptor ∈ (g.compilation pool c is).file.messages := by
  have hmethod : m ∈ (g.blueprint c.package i).methods := (Blueprint.mem_methods _).mpr hm
  rw [compilation_messages]
  refine List.mem_map_of_mem (List.mem_flatMap.mpr ⟨i, hi, List.mem_cons_of_mem _ ?_⟩)
  exact List.mem_flatMap.mpr ⟨m, hmethod, Blueprint.mem_methodMessages.mpr (.inl rfl)⟩

/-- Each method of a compiled file stems from a method of a requested resource. Its input type is the name of exactly
one message, and template, body and signatures name fields of that message. -/
theorem bindings_resolve (h : g.compile pool request c = .ok result) :
    ∀ r ∈ result.file.service.methods, ∃ i ∈ request, ∃ m ∈ (g.resource i).methods, r.name = m.title ++ g.kind i ∧
      ∃ q, (result.file.messages.filter fun q => r.inputType = "." ++ fullName result.file.package q.name) = [q] ∧
        r.BindsTo q ("." ++ fullName result.file.package (g.kind i)) ∧ r.HasPlainNames := by
  obtain ⟨hcompilable, ordered, horder, rfl⟩ := compile_eq_ok_iff.mp h
  have hordered := hcompilable.of_mem_iff (mem_order_iff horder)
  intro r hr
  obtain ⟨i, hi, m, hm, rfl⟩ := mem_compilation_methods.mp hr
  have hlegal : ((g.blueprint c.package i).request m).Legal :=
    ((g.blueprint c.package i).request_legal_iff m).mpr (hordered.fits i hi m hm)
  refine ⟨i, (mem_order_iff horder i).mp hi, m, hm, rfl, ((g.blueprint c.package i).request m).descriptor, ?_, ?_, ?_⟩
  · rw [compilation_package]
    exact filter_eq_singleton (hordered.nodup_messages (nodup_of_order horder) c) (request_mem_compilation hi hm) _
  · rw [compilation_package]
    exact Blueprint.rpc_bindsTo hlegal
  · exact Blueprint.rpc_hasPlainNames hlegal

/-- The update of books, whose variable is nested, has a body of the type of books. -/
theorem bookstore_bindings :
    ∃ result, bookstore.compile .standard [1, 0, 1] ⟨"Bookstore", "bookstore.v1", none⟩ = .ok result ∧
      ∃ r ∈ result.file.service.methods, r.name = "UpdateBook" ∧
        ∃ q, r.BindsTo q ("." ++ fullName result.file.package "Book") := by
  obtain ⟨result, h⟩ := bookstore_compiles ⟨"Bookstore", "bookstore.v1", none⟩
  have hbind := bindings_resolve h
  obtain ⟨_, ordered, horder, rfl⟩ := compile_eq_ok_iff.mp h
  have hbook : 1 ∈ ordered := (mem_order_iff horder 1).mpr (by decide)
  have hupdate : .update ∈ (bookstore.resource 1).methods := by decide
  have hr : ((bookstore.blueprint "bookstore.v1" 1).rpc .update).descriptor ∈
      (bookstore.compilation .standard ⟨"Bookstore", "bookstore.v1", none⟩ ordered).file.service.methods :=
    mem_compilation_methods.mpr ⟨1, hbook, .update, hupdate, rfl⟩
  obtain ⟨i, _, m, _, hname, q, _, hq, _⟩ := hbind _ hr
  have hsame : Method.update.rpcName "Book" = m.rpcName (bookstore.kind i) := hname
  obtain ⟨_, hkind⟩ := Method.rpcName_inj.mp hsame
  exact ⟨_, h, _, hr, rfl, q, hkind ▸ hq⟩

end Graph

end ResourceApi
