import ResourceApi.Proofs.Binding

/-!
Routes: what an RPC is called by over HTTP. A route tells the method, and of the resource what its template is made
from, so two RPCs share one only if they are the same method of resources that agree in that.
-/

namespace ResourceApi

namespace Text

theorem template_inj {name name' pattern pattern' : String} (h : '=' ∉ name.toList) (h' : '=' ∉ name'.toList) :
    "/\x7b" ++ name ++ "=" ++ pattern ++ "\x7d" = "/\x7b" ++ name' ++ "=" ++ pattern' ++ "\x7d" ↔
      name = name' ∧ pattern = pattern' := by
  constructor
  · intro heq
    have hnames := congrArg templateVariable? heq
    rw [templateVariable?_eq h, templateVariable?_eq h', Option.some.injEq] at hnames
    subst hnames
    have hpatterns := String.append_right_inj _ |>.mp (String.append_left_inj _ |>.mp heq)
    exact ⟨rfl, hpatterns⟩
  · rintro ⟨rfl, rfl⟩
    rfl

/-- Small letters of an identifier are no wildcard. -/
theorem IsIdentifier.star_not_mem_lower {s : String} (h : IsIdentifier s) : '*' ∉ (lower s).toList := by
  intro hstar
  have hmem : '*' ∈ s.toList := mem_of_mem_lower (by decide) (by decide) hstar
  exact absurd (h.isWordTail hmem) (by decide)

end Text

/-- Verb and target tell the methods apart. -/
theorem Method.eq_of_row {m m' : Method} (hverb : m.row.verb = m'.row.verb) (htarget : m.row.target = m'.row.target) :
    m = m' := by
  revert hverb htarget
  cases m <;> cases m' <;> decide

namespace Blueprint

variable {b b' : Blueprint} {t t' : Target} {m m' : Method}

/-- The parts that the template of a target is made from agree. -/
def SharesTarget (b b' : Blueprint) : Target → Prop
  | .collection | .item => b.collection = b'.collection
  | .nestedItem => b.collection = b'.collection ∧ b.resource.fieldName = b'.resource.fieldName
  | .everywhere => Text.lower b.kind = Text.lower b'.kind

theorem item_ne_everywhere (h : '*' ∉ (Text.lower b'.kind).toList) : b.pattern .item ≠ b'.pattern .everywhere := by
  intro heq
  have hstar : '*' ∈ (b.pattern .item).toList := by simp [pattern]
  rw [heq] at hstar
  simp [pattern, h] at hstar

theorem nested_ne {name : String} (h : '.' ∉ name.toList) : b.variableName .nestedItem ≠ name := by
  rintro rfl
  simp [variableName] at h

/-- The variable tells the field that a template binds, and a wildcard at the end tells one instance from all of a
kind. -/
theorem target_eq (hname : b.variableName t = b'.variableName t') (hpattern : b.pattern t = b'.pattern t')
    (hkind : '*' ∉ (Text.lower b.kind).toList) (hkind' : '*' ∉ (Text.lower b'.kind).toList) : t = t' := by
  have hfields : "parent" ≠ "path" := by decide
  have hparent : '.' ∉ "parent".toList := by decide
  have hpath : '.' ∉ "path".toList := by decide
  cases t with
  | collection =>
    cases t' with
    | collection => rfl
    | item | everywhere => exact absurd hname hfields
    | nestedItem => exact absurd hname.symm (nested_ne hparent)
  | item =>
    cases t' with
    | collection => exact absurd hname.symm hfields
    | item => rfl
    | nestedItem => exact absurd hname.symm (nested_ne hpath)
    | everywhere => exact absurd hpattern (item_ne_everywhere hkind')
  | nestedItem =>
    cases t' with
    | collection => exact absurd hname (nested_ne hparent)
    | item | everywhere => exact absurd hname (nested_ne hpath)
    | nestedItem => rfl
  | everywhere =>
    cases t' with
    | collection => exact absurd hname.symm hfields
    | item => exact absurd hpattern.symm (item_ne_everywhere hkind)
    | nestedItem => exact absurd hname.symm (nested_ne hpath)
    | everywhere => rfl

theorem sharesTarget_iff :
    b.SharesTarget b' t ↔ b.variableName t = b'.variableName t ∧ b.pattern t = b'.pattern t := by
  cases t with
  | collection => simp [SharesTarget, variableName, pattern]
  | item => simp [SharesTarget, variableName, pattern]
  | nestedItem => simp [SharesTarget, variableName, pattern, and_comm]
  | everywhere => simp [SharesTarget, variableName, pattern]

theorem route_eq_iff (h : (b.request m).Legal) (h' : (b'.request m').Legal)
    (hkind : '*' ∉ (Text.lower b.kind).toList) (hkind' : '*' ∉ (Text.lower b'.kind).toList) :
    ((b.rpc m).http.verb = (b'.rpc m').http.verb ∧ (b.rpc m).http.path = (b'.rpc m').http.path) ↔
      m = m' ∧ b.SharesTarget b' m.row.target := by
  have htemplates : (b.rpc m).http.path = (b'.rpc m').http.path ↔
      b.variableName m.row.target = b'.variableName m'.row.target ∧
        b.pattern m.row.target = b'.pattern m'.row.target :=
    Text.template_inj (equals_not_mem_variableName h) (equals_not_mem_variableName h')
  rw [htemplates]
  constructor
  · rintro ⟨hverb, hname, hpattern⟩
    obtain rfl := Method.eq_of_row hverb (target_eq hname hpattern hkind hkind')
    exact ⟨rfl, sharesTarget_iff.mpr ⟨hname, hpattern⟩⟩
  · rintro ⟨rfl, hshares⟩
    exact ⟨rfl, sharesTarget_iff.mp hshares⟩

end Blueprint

/-- The RPCs have the same verb and the same template. -/
def MethodDescriptor.SharesRoute (r r' : MethodDescriptor) : Prop :=
  r.http.verb = r'.http.verb ∧ r.http.path = r'.http.path

theorem Rpc.sharesRoute_descriptor_iff {r r' : Rpc} :
    r.descriptor.SharesRoute r'.descriptor ↔ r.http.verb = r'.http.verb ∧ r.http.path = r'.http.path := by
  simp only [MethodDescriptor.SharesRoute, descriptor, HttpBinding.verb_descriptor, HttpBinding.path_descriptor]

namespace Graph

variable {n : Nat} {g : Graph n} {pool : Pool} {request is : List (Fin n)} {c : Config} {result : Compilation}
  {i j : Fin n} {m m' : Method} {r r' : MethodDescriptor}

/-- The RPC belongs to a method that a requested resource enables. -/
structure Provides (g : Graph n) (request : List (Fin n)) (i : Fin n) (m : Method) (r : MethodDescriptor) : Prop where
  requested : i ∈ request
  enabled : m ∈ (g.resource i).methods
  name : r.name = m.rpcName (g.kind i)

/-- The resources agree in what the template of a method is made from. -/
def SharesAddress (g : Graph n) (i j : Fin n) : Method → Prop
  | .create | .read | .delete | .list | .apply => g.itemPath i = g.itemPath j
  | .update => g.itemPath i = g.itemPath j ∧ (g.resource i).fieldName = (g.resource j).fieldName
  | .globalList => Text.lower (g.kind i) = Text.lower (g.kind j)

theorem itemPath_eq_iff (hi : g.WalkEnds i) (hj : g.WalkEnds j) (package : String) :
    g.itemPath i = g.itemPath j ↔ (g.blueprint package i).collection = (g.blueprint package j).collection := by
  rw [itemPath_eq_ok_iff.mpr ⟨hi, rfl⟩, itemPath_eq_ok_iff.mpr ⟨hj, rfl⟩, Except.ok.injEq, String.append_left_inj]
  rfl

theorem sharesAddress_iff (hi : g.WalkEnds i) (hj : g.WalkEnds j) (package : String) :
    g.SharesAddress i j m ↔ (g.blueprint package i).SharesTarget (g.blueprint package j) m.row.target := by
  have hpaths := itemPath_eq_iff hi hj package
  cases m with
  | create | read | delete | list | apply => exact hpaths
  | update => exact and_congr_left' hpaths
  | globalList => exact Iff.rfl

/-- The name of an RPC is enough to find out where it comes from. -/
theorem Provides.eq_rpc (h : g.Provides request i m r) (hcompilable : g.Compilable pool request)
    (hmem : ∀ j, j ∈ is ↔ j ∈ request) (hr : r ∈ (g.compilation pool c is).file.service.methods) :
    r = ((g.blueprint c.package i).rpc m).descriptor := by
  obtain ⟨j, hj, m', _, rfl⟩ := mem_compilation_methods.mp hr
  have hname : m'.rpcName (g.kind j) = m.rpcName (g.kind i) := h.name
  obtain ⟨rfl, hkind⟩ := Method.rpcName_inj.mp hname
  obtain rfl := hcompilable.kinds j ((hmem j).mp hj) i h.requested hkind
  rfl

theorem Compilable.nodup_methods (h : g.Compilable pool is) (his : is.Nodup) (c : Config) :
    ((g.compilation pool c is).file.service.methods.map MethodDescriptor.name).Nodup := by
  have hnodup := nodup_rpcNames_blocks his h.kinds pool c.package
  rw [Registry.rpcNames, filterMap_rpc_blocks] at hnodup
  rw [compilation_methods, List.map_map]
  exact hnodup

theorem Compilable.sharesRoute_iff (h : g.Compilable pool request) (hmem : ∀ j, j ∈ is ↔ j ∈ request)
    (hr : r ∈ (g.compilation pool c is).file.service.methods)
    (hr' : r' ∈ (g.compilation pool c is).file.service.methods) (hne : r ≠ r')
    (hi : g.Provides request i m r) (hj : g.Provides request j m' r')
    (hkind : Text.IsIdentifier (g.kind i)) (hkind' : Text.IsIdentifier (g.kind j)) :
    r.SharesRoute r' ↔ m = m' ∧ i ≠ j ∧ g.SharesAddress i j m := by
  have heq := hi.eq_rpc h hmem hr
  have heq' := hj.eq_rpc h hmem hr'
  have hlegal : ((g.blueprint c.package i).request m).Legal :=
    (Blueprint.request_legal_iff _ m).mpr (h.fits i hi.requested m hi.enabled)
  have hlegal' : ((g.blueprint c.package j).request m').Legal :=
    (Blueprint.request_legal_iff _ m').mpr (h.fits j hj.requested m' hj.enabled)
  have hroutes := Blueprint.route_eq_iff hlegal hlegal' hkind.star_not_mem_lower hkind'.star_not_mem_lower
  rw [← sharesAddress_iff (h.walks i hi.requested) (h.walks j hj.requested)] at hroutes
  -- One method of one resource has one RPC only.
  have hother : m = m' → i ≠ j := by
    rintro rfl rfl
    exact hne (heq.trans heq'.symm)
  rw [heq, heq', Rpc.sharesRoute_descriptor_iff]
  refine hroutes.trans ⟨?_, ?_⟩
  · rintro ⟨hm, haddress⟩
    exact ⟨hm, hother hm, haddress⟩
  · rintro ⟨hm, _, haddress⟩
    exact ⟨hm, haddress⟩

/-- Where the kinds are identifiers, two RPCs of a file share a route exactly when they are one method of two resources
that agree in the address of that method. Those of one resource never do. -/
theorem shares_route_iff (h : g.compile pool request c = .ok result) :
    (result.file.service.methods.map MethodDescriptor.name).Nodup ∧
    (∀ r ∈ result.file.service.methods, ∃ i m, g.Provides request i m r) ∧
    (∀ r ∈ result.file.service.methods, ∀ r' ∈ result.file.service.methods, r ≠ r' →
      ∀ i m j m', g.Provides request i m r → g.Provides request j m' r' →
        Text.IsIdentifier (g.kind i) → Text.IsIdentifier (g.kind j) →
        (r.SharesRoute r' ↔ m = m' ∧ i ≠ j ∧ g.SharesAddress i j m)) ∧
    ∀ r ∈ result.file.service.methods, ∀ r' ∈ result.file.service.methods, r ≠ r' →
      ∀ i m m', g.Provides request i m r → g.Provides request i m' r' → Text.IsIdentifier (g.kind i) →
        ¬ r.SharesRoute r' := by
  obtain ⟨hcompilable, ordered, horder, rfl⟩ := compile_eq_ok_iff.mp h
  have hmem := mem_order_iff horder
  refine ⟨(hcompilable.of_mem_iff hmem).nodup_methods (nodup_of_order horder) c, ?_, ?_, ?_⟩
  · intro r hr
    obtain ⟨i, hi, m, hm, rfl⟩ := mem_compilation_methods.mp hr
    exact ⟨i, m, (hmem i).mp hi, hm, rfl⟩
  · intro r hr r' hr' hne i m j m' hi hj hkind hkind'
    exact hcompilable.sharesRoute_iff hmem hr hr' hne hi hj hkind hkind'
  · intro r hr r' hr' hne i m m' hi hi' hkind hshares
    obtain ⟨_, hself, _⟩ := (hcompilable.sharesRoute_iff hmem hr hr' hne hi hi' hkind hkind).mp hshares
    exact hself rfl

/-- Two resources with one collection, whose kinds differ in nothing but their letters' case. -/
def editions : Graph 2 where
  resource
    | 0 => { kind := "Book", plural := "books", type := "example.com/Book", fields := [], methods := .ofList [.update] }
    | 1 => { kind := "BOOK", plural := "Books", type := "example.com/BOOK", fields := [], methods := .ofList [.update] }
  parents _ := []

theorem editions_compilable : editions.Compilable .standard [0, 1] where
  declared _ _ _ _ _ := Pool.standard_hasWellKnown.declares
  walks i _ := ⟨1, by revert i; decide⟩
  fields i _ := ⟨by revert i; decide, by revert i; decide⟩
  fits i _ m hm := by
    have hfits : ∀ i, ∀ m ∈ (editions.resource i).methods.toList, m = .update := by decide
    have hname : ∀ i, Text.isIdentifier (editions.resource i).fieldName = true ∧
        (editions.resource i).fieldName ≠ "path" ∧ (editions.resource i).fieldName ≠ "update_mask" := by decide
    obtain rfl := hfits i m hm
    exact hname i
  kinds := by decide
  apart i _ j _ m hm := by
    have hapart : ∀ i j, ∀ m ∈ (editions.resource j).methods.toList, ∀ role ∈ m.messageRoles,
        editions.kind i ≠ m.messageName role (editions.kind j) := by decide
    exact hapart i j m hm

/-- Both updates are called by `PATCH` on `/{book.path=books/*}`. -/
theorem editions_share_route :
    ∃ result, editions.compile .standard [0, 1] ⟨"Library", "library.v1", none⟩ = .ok result ∧
      ∃ r ∈ result.file.service.methods, ∃ r' ∈ result.file.service.methods,
        r.name = "UpdateBook" ∧ r'.name = "UpdateBOOK" ∧ r.SharesRoute r' := by
  obtain ⟨result, h⟩ := exists_compile_iff_compilable (c := ⟨"Library", "library.v1", none⟩).mpr editions_compilable
  obtain ⟨_, _, hroutes, _⟩ := shares_route_iff h
  obtain ⟨_, ordered, horder, rfl⟩ := compile_eq_ok_iff.mp h
  have hmethod (i : Fin 2) : ((editions.blueprint "library.v1" i).rpc .update).descriptor ∈
      (editions.compilation .standard ⟨"Library", "library.v1", none⟩ ordered).file.service.methods := by
    refine mem_compilation_methods.mpr ⟨i, (mem_order_iff horder i).mpr ?_, .update, ?_, rfl⟩
    · revert i
      decide
    · revert i
      decide
  have hprovides (i : Fin 2) : editions.Provides [0, 1] i .update
      ((editions.blueprint "library.v1" i).rpc .update).descriptor :=
    ⟨by revert i; decide, by revert i; decide, rfl⟩
  refine ⟨_, h, _, hmethod 0, _, hmethod 1, rfl, rfl, ?_⟩
  refine (hroutes _ (hmethod 0) _ (hmethod 1) ?_ 0 .update 1 .update (hprovides 0) (hprovides 1) ?_ ?_).mpr
    ⟨rfl, by decide, ?_⟩
  · intro heq
    exact absurd (congrArg MethodDescriptor.name heq) (by decide)
  · exact Text.isIdentifier_iff.mp (by decide)
  · exact Text.isIdentifier_iff.mp (by decide)
  · have hwalks := editions_compilable.walks
    exact ⟨(itemPath_eq_iff (hwalks 0 (by decide)) (hwalks 1 (by decide)) "library.v1").mpr (by decide), by decide⟩

end Graph

end ResourceApi
