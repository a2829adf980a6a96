import Mathlib.Data.Fin.VecNotation
import ResourceApi.Proofs.Run

/-!
Whom a failed call is blamed on. A fault in a field, a type that the pool lacks or a name that is taken is always
reported for the resource itself. A walk that does not end is reported for the resource that the walk started from, and
the walk for a collection starts from the parent.
-/

namespace ResourceApi

/-- The reasons for which a message refuses a field. -/
def Rejection.OfField : Rejection → Prop
  | .fieldName _ _ | .numberRange _ _ | .numberReserved _ _ | .numberTaken _ _ _ _ | .fieldTaken _ _ => True
  | .typeCount _ | .notScalar _ | .unknownVerb _ | .messageTaken _ _ | .rpcTaken _ _ | .notInt32 _ => False

/-- The fault lies in a field, declared or generated. -/
def Cause.OfField : Cause → Prop
  | .unsupportedType _ _ => True
  | .rejected why => why.OfField
  | .unknownType _ | .parentCycle _ => False

namespace Message

variable {m : Message} {f : Field} {why : Rejection}

theorem ofField_of_objection? (h : m.objection? f = some why) : why.OfField := by
  unfold objection? at h
  split_ifs at h with hname hrange hreserved
  · obtain rfl := Option.some.inj h
    trivial
  · obtain rfl := Option.some.inj h
    trivial
  · obtain rfl := Option.some.inj h
    trivial
  · obtain ⟨earlier, _, hconflict⟩ := List.exists_of_findSome?_eq_some h
    unfold conflict? at hconflict
    split_ifs at hconflict with hnumber hname
    · obtain rfl := Option.some.inj hconflict
      trivial
    · obtain rfl := Option.some.inj hconflict
      trivial

theorem ofField_of_add (h : m.add f = .error why) : why.OfField :=
  ofField_of_objection? (add_eq_error_iff.mp h)

end Message

/-- The error is a fault in a field and reported for the given kind. -/
def ResourceError.FaultsField (e : ResourceError) (kind : String) : Prop := e.kind = kind ∧ e.cause.OfField

theorem faultsField_of_blame_add {kind : String} {m : Message} {f : Field} {e : ResourceError}
    (h : blame kind (m.add f) = .error e) : e.FaultsField kind := by
  obtain ⟨why, hadd, rfl⟩ := Attempt.mapError_eq_error_iff.mp h
  exact ⟨rfl, Message.ofField_of_add hadd⟩

theorem faultsField_of_buildMessage {kind name comment : String} {fields : List Field} {e : ResourceError}
    (h : buildMessage kind name comment fields = .error e) : e.FaultsField kind := by
  obtain ⟨why, hall, rfl⟩ := Attempt.mapError_eq_error_iff.mp h
  obtain ⟨m, f, _, hadd⟩ := Attempt.exists_of_foldlM_eq_error hall
  exact ⟨rfl, Message.ofField_of_add hadd⟩

theorem Resource.faultsField_of_toMessage {r : Resource} {e : ResourceError} (h : r.toMessage = .error e) :
    e.FaultsField r.kind := by
  obtain ⟨m, p, _, hstep⟩ := Attempt.exists_of_foldlM_eq_error h
  rcases Attempt.bind_eq_error_iff.mp hstep with htype | ⟨f, _, hadd⟩
  · obtain ⟨_, rfl⟩ := Property.toField_eq_error_iff.mp htype
    exact ⟨rfl, trivial⟩
  · exact faultsField_of_blame_add hadd

/-- The error is that the pool lacks a type to which the method refers, and it is reported for the given kind. -/
def ResourceError.LacksType (e : ResourceError) (pool : Pool) (kind : String) (m : Method) : Prop :=
  ∃ type ∈ m.wellKnown, ¬ pool.Declares type ∧ e = ⟨kind, .unknownType type⟩

namespace Graph

variable {n : Nat} {g : Graph n} {i : Fin n} {e : ResourceError}

theorem cycle_of_lineage_eq_error (h : g.lineage i = .error e) :
    e.kind = g.kind i ∧ ∃ walk, e.cause = .parentCycle walk := by
  obtain ⟨walk, _, rfl⟩ := Attempt.mapError_eq_error_iff.mp h
  exact ⟨rfl, _, rfl⟩

theorem not_walkEnds_of_lineage_eq_error (h : g.lineage i = .error e) : ¬ g.WalkEnds i := by
  intro hw
  obtain ⟨chain, hchain⟩ := exists_lineage_iff_walkEnds.mpr hw
  rw [hchain] at h
  cases h

/-- Where the walk for a template starts, if the template needs one. -/
def walkStart? (g : Graph n) (i : Fin n) : Target → Option (Fin n)
  | .collection => g.parent? i
  | .item | .nestedItem => some i
  | .everywhere => none

theorem walkEnds_of_walkStart? {target : Target} {j : Fin n} (h : g.walkStart? i target = some j) :
    g.WalkEnds i ↔ g.WalkEnds j := by
  cases target with
  | collection => exact walkEnds_of_parent h
  | item | nestedItem =>
    obtain rfl := Option.some.inj h
    rfl
  | everywhere => cases h

theorem itemPath_eq_error_iff : g.itemPath i = .error e ↔ g.lineage i = .error e := by
  rw [itemPath, Attempt.map_eq_error_iff, segments, Attempt.map_eq_error_iff]

theorem parentTemplate_eq_error_iff :
    g.parentTemplate i = .error e ↔ ∃ p, g.parent? i = some p ∧ g.lineage p = .error e := by
  rw [parentTemplate, Attempt.map_eq_error_iff, collectionPath]
  cases hp : g.parent? i with
  | none => simp
  | some p => simp [Attempt.map_eq_error_iff, itemPath_eq_error_iff]

end Graph

namespace Site

variable {n : Nat} {g : Graph n} {pool : Pool} {i : Fin n} {package : String} {m : Method} {e : ResourceError}

theorem templateFor_eq_error_iff {target : Target} :
    (g.site pool i package (g.kind i)).templateFor target = .error e ↔
      ∃ j, g.walkStart? i target = some j ∧ g.lineage j = .error e := by
  have hitem (variableName : String) : (g.site pool i package (g.kind i)).itemTemplate variableName = .error e ↔
      ∃ j, some i = some j ∧ g.lineage j = .error e := by
    rw [itemTemplate, Attempt.map_eq_error_iff]
    change g.itemPath i = .error e ↔ _
    simp [Graph.itemPath_eq_error_iff]
  cases target with
  | collection => exact Graph.parentTemplate_eq_error_iff
  | item => exact hitem _
  | nestedItem => exact hitem _
  | everywhere => simp [templateFor, Graph.walkStart?]

/-- A step of a method fails over a field, over a type that the pool lacks, or because the walk for its template does
not end. -/
theorem error_of_mem_methodSteps (h : .error e ∈ (g.site pool i package (g.kind i)).methodSteps m) :
    e.FaultsField (g.kind i) ∨ e.LacksType pool (g.kind i) m ∨
      ∃ j, g.walkStart? i m.row.target = some j ∧ g.lineage j = .error e := by
  rw [methodSteps_eq] at h
  simp only [List.mem_append, List.mem_map, List.mem_singleton] at h
  rcases h with (⟨type, htype, hstep⟩ | ⟨x, _, hstep⟩) | hstep
  · rcases Attempt.bind_eq_error_iff.mp hstep with hbuild | ⟨_, _, himport⟩
    · exact .inl (faultsField_of_buildMessage hbuild)
    · exact .inr (.inl ⟨type, htype, importOf_eq_error_iff.mp himport⟩)
  · exact .inl (faultsField_of_buildMessage (Attempt.map_eq_error_iff.mp hstep))
  · exact .inr (.inr (templateFor_eq_error_iff.mp (Attempt.map_eq_error_iff.mp hstep.symm)))

/-- Where all steps of a method succeed although the walk does not end, the method needs no walk. -/
theorem eq_globalList_of_succeeds (hw : ¬ g.WalkEnds i)
    (h : ∀ step ∈ (g.site pool i package (g.kind i)).methodSteps m, Succeeds step) : m = .globalList := by
  have htarget : m.row.target = .everywhere := by
    rw [methodSteps_eq] at h
    obtain ⟨made, hmade⟩ := h _ (List.mem_append_right _ List.mem_cons_self)
    obtain ⟨htarget | hends, _⟩ := rpcStep_eq_ok_iff.mp hmade
    · exact htarget
    · exact absurd hends hw
  cases m with
  | globalList => rfl
  | create | read | update | delete | list | apply => cases htarget

/-- What is made although the walk does not end is made for methods that need none. -/
theorem eq_globalList_of_made {made : List Entry} {before : List Method} {inner : List Step} (hw : ¬ g.WalkEnds i)
    (h : made.map .ok = (g.site pool i package (g.kind i)).stepsFor before ++ inner) :
    ∀ m ∈ before, m = .globalList := by
  intro m hm
  apply eq_globalList_of_succeeds hw
  intro step hstep
  have hmade : step ∈ made.map Except.ok := by
    rw [h]
    exact List.mem_append_left _ (List.mem_cons_of_mem _ (List.mem_flatMap.mpr ⟨m, hm, hstep⟩))
  obtain ⟨entry, _, rfl⟩ := List.mem_map.mp hmade
  exact ⟨entry, rfl⟩

/-- The first step that fails is the one for the resource's own message, or it is one of a method, behind all steps for
the methods before. -/
theorem first_error_of_steps {made : List Entry} {more : List Step}
    (h : (g.site pool i package (g.kind i)).steps = made.map .ok ++ .error e :: more) :
    (g.resource i).toMessage = .error e ∨ ∃ before m after inner rest,
      (g.resource i).methods.toList = before ++ m :: after ∧
      (g.site pool i package (g.kind i)).methodSteps m = inner ++ .error e :: rest ∧
      made.map .ok = (g.site pool i package (g.kind i)).stepsFor before ++ inner := by
  cases made with
  | nil =>
    obtain ⟨hown, _⟩ := List.cons.inj h
    exact .inl (Attempt.map_eq_error_iff.mp hown)
  | cons own made =>
    obtain ⟨hown, hmethods⟩ := List.cons.inj h
    obtain ⟨before, m, after, inner, rest, hsplit, hm, hfront⟩ := exists_of_flatMap_eq_append_cons hmethods
    exact .inr ⟨before, m, after, inner, rest, hsplit, hm, congrArg₂ List.cons hown.symm hfront⟩

/-- The first step that fails does so over a field, over a type that the pool lacks, or because it belongs to the first
method that needs a walk. -/
theorem error_of_steps {made : List Entry} {more : List Step}
    (h : (g.site pool i package (g.kind i)).steps = made.map .ok ++ .error e :: more) :
    e.FaultsField (g.kind i) ∨ (∃ m ∈ (g.resource i).methods, e.LacksType pool (g.kind i) m) ∨
      ∃ m j, (g.resource i).methods.toList.find? (· ≠ .globalList) = some m ∧
        g.walkStart? i m.row.target = some j ∧ g.lineage j = .error e := by
  rcases first_error_of_steps h with hown | ⟨before, m, after, inner, rest, hsplit, hm, hfront⟩
  · exact .inl (Resource.faultsField_of_toMessage hown)
  · rcases error_of_mem_methodSteps (hm ▸ List.mem_append_right _ List.mem_cons_self) with
      hfield | hlacks | ⟨j, hstart, hlineage⟩
    · exact .inl hfield
    · have hm : m ∈ (g.resource i).methods.toList := hsplit ▸ List.mem_append_right _ List.mem_cons_self
      exact .inr (.inl ⟨m, hm, hlacks⟩)
    · have hw : ¬ g.WalkEnds i := by
        rw [Graph.walkEnds_of_walkStart? hstart]
        exact Graph.not_walkEnds_of_lineage_eq_error hlineage
      have hne : m ≠ .globalList := by
        rintro rfl
        cases hstart
      refine .inr (.inr ⟨m, j, List.find?_eq_some_iff_append.mpr ⟨by simpa using hne, before, after, hsplit, ?_⟩,
        hstart, hlineage⟩)
      intro m' hm'
      simp [eq_globalList_of_made hw hfront m' hm']

end Site

theorem Method.target_eq_collection_iff {m : Method} : m.row.target = .collection ↔ m = .create ∨ m = .list := by
  cases m <;> decide

namespace Graph

variable {n : Nat} {g : Graph n} {pool : Pool} {i : Fin n} {reg : Registry} {e : ResourceError}

/-- What a failed call can have met: a fault in a field, a type that the pool lacks, a name that is taken, or a walk
that does not end. -/
theorem compileInto_error_cases (h : (g.compileInto pool i reg).error = some e) :
    e.FaultsField (g.kind i) ∨ (∃ m ∈ (g.resource i).methods, e.LacksType pool (g.kind i) m) ∨
      (∃ made entry reason, reg.Admits made ∧
        (∃ rest, (g.blueprint reg.package i).entries pool = made ++ entry :: rest) ∧
        (reg.extend made).enter entry = .error reason ∧ e = ⟨g.kind i, .rejected reason⟩) ∨
      ∃ m j, (g.resource i).methods.toList.find? (· ≠ .globalList) = some m ∧
        g.walkStart? i m.row.target = some j ∧ g.lineage j = .error e := by
  rcases g.compileInto_cases pool i reg with ⟨_, _, houtcome⟩ | ⟨made, entry, why, hstop, houtcome⟩
  · rw [houtcome] at h
    cases h
  · rw [houtcome] at h
    obtain rfl := Option.some.inj h
    rcases hstop.cause with ⟨more, hsteps⟩ | ⟨_, reason, henter, hwhy⟩
    · rcases Site.error_of_steps hsteps with hfield | hlacks | hcycle
      · exact .inl hfield
      · exact .inr (.inl hlacks)
      · exact .inr (.inr (.inr hcycle))
    · exact .inr (.inr (.inl ⟨made, entry, reason, hstop.admits, hstop.front, henter, hwhy⟩))

/-- A rejection that is not over a field is over the name of an entry. -/
theorem refused_of_not_ofField {kind : String} {why : Rejection}
    (h : (g.compileInto pool i reg).error = some ⟨kind, .rejected why⟩) (hwhy : ¬ why.OfField) :
    kind = g.kind i ∧ ∃ made entry rest, reg.Admits made ∧
      (g.blueprint reg.package i).entries pool = made ++ entry :: rest ∧
      (reg.extend made).enter entry = .error why := by
  rcases compileInto_error_cases h with hfield | ⟨_, _, _, _, _, he⟩ |
    ⟨made, entry, reason, hadmits, ⟨rest, hsplit⟩, henter, he⟩ | ⟨_, _, _, _, hlineage⟩
  · exact absurd hfield.2 hwhy
  · cases he
  · obtain ⟨hkind, hreason⟩ := ResourceError.mk.inj he
    obtain rfl := Cause.rejected.inj hreason
    exact ⟨hkind, made, entry, rest, hadmits, hsplit, henter⟩
  · obtain ⟨_, _, hcause⟩ := cycle_of_lineage_eq_error hlineage
    cases hcause

/-- Whatever the pool declares, a failed call is reported for the resource itself, with one exception: a walk that does
not end is reported for the parent if the first method that needs a walk binds the collection. -/
theorem compileInto_error_kind_iff (h : (g.compileInto pool i reg).error = some e) :
    e.kind = g.kind i ↔
      ∀ walk m p, e.cause = .parentCycle walk →
        (g.resource i).methods.toList.find? (· ≠ .globalList) = some m → m = .create ∨ m = .list →
        g.parent? i = some p → g.kind p = g.kind i := by
  rcases compileInto_error_cases h with hfield | ⟨_, _, _, _, _, rfl⟩ | ⟨_, _, _, _, _, _, rfl⟩ |
    ⟨m, j, hfind, hstart, hlineage⟩
  · refine iff_of_true hfield.1 ?_
    intro walk m p hcause
    have hoffield := hfield.2
    rw [hcause] at hoffield
    cases hoffield
  · exact iff_of_true rfl nofun
  · exact iff_of_true rfl nofun
  · obtain ⟨hkind, walk, hcause⟩ := cycle_of_lineage_eq_error hlineage
    rw [hkind]
    constructor
    · intro hsame _ m' p _ hfind' hm' hp
      rw [hfind] at hfind'
      obtain rfl := Option.some.inj hfind'
      rw [Method.target_eq_collection_iff.mpr hm', walkStart?, hp] at hstart
      obtain rfl := Option.some.inj hstart
      exact hsame
    · intro hother
      cases htarget : m.row.target with
      | collection =>
        rw [htarget] at hstart
        exact hother walk m j hcause hfind (Method.target_eq_collection_iff.mp htarget) hstart
      | item | nestedItem =>
        rw [htarget] at hstart
        rw [Option.some.inj hstart]
      | everywhere =>
        rw [htarget] at hstart
        cases hstart

/-- Books are created below shelves and shelves can be read, but each is the parent of the other. -/
def tangle : Graph 2 where
  resource := ![
    { kind := "Shelf", plural := "shelves", type := "bookstore.example.com/Shelf", fields := []
      methods := .ofList [.read] },
    { kind := "Book", plural := "books", type := "bookstore.example.com/Book", fields := []
      methods := .ofList [.create] }]
  parents i := [i.rev]

/-- Reading needs the path of the shelf itself. -/
theorem tangle_blames_shelf :
    ∃ e, (tangle.compileInto .standard 0 { package := "", fileName := "api.proto", service := "Api" }).error = some e ∧
      e.cause = .parentCycle ["Shelf", "Book", "Shelf"] ∧ e.kind = "Shelf" := by
  have herror : (tangle.compileInto .standard 0 { package := "", fileName := "api.proto", service := "Api" }).error =
      some ⟨"Shelf", .parentCycle ["Shelf", "Book", "Shelf"]⟩ := by decide +kernel
  refine ⟨_, herror, rfl, (compileInto_error_kind_iff herror).mpr ?_⟩
  intro walk m p _ hfind hm
  have hread : m = .read := Option.some.inj (hfind.symm.trans (by decide))
  subst hread
  simp at hm

/-- Creating needs the path of the shelf above, so the shelf is named when it is books that fail. -/
theorem tangle_blames_parent :
    tangle.kind 1 = "Book" ∧
      (tangle.compileInto .standard 1 { package := "", fileName := "api.proto", service := "Api" }).error =
        some ⟨"Shelf", .parentCycle ["Shelf", "Book", "Shelf"]⟩ := by
  decide +kernel

end Graph

end ResourceApi
