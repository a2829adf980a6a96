import ResourceApi.Proofs.Blame
import ResourceApi.Proofs.OwnMessage
import ResourceApi.Proofs.SnakeCase

/-!
The name of the resource's field where the kind is an identifier. The name is then an identifier in small letters that
differs from the kind only in letter case and underscores, and requests refuse it only if another of their fields has
it.
-/

namespace ResourceApi

namespace Text

variable {b c : Char} {s : String} {cs : List Char}

/-- The whole text matches `[a-z_][a-z0-9_]*`. -/
def IsSmallIdentifier (s : String) : Prop :=
  ∃ c cs, s.toList = c :: cs ∧ (('a' ≤ c ∧ c ≤ 'z') ∨ c = '_') ∧
    ∀ d ∈ cs, ('a' ≤ d ∧ d ≤ 'z') ∨ ('0' ≤ d ∧ d ≤ '9') ∨ d = '_'

/-- What is left of a text when all underscores are deleted. -/
def withoutUnderscores (s : String) : String := String.ofList (s.toList.filter (· ≠ '_'))

/-- Two underscores stand side by side. -/
def HasDoubledUnderscore (s : String) : Prop := ['_', '_'] <:+: s.toList

/-- Not both are underscores. -/
private def Apart (b c : Char) : Prop := ¬ (b = '_' ∧ c = '_')

private theorem hasDoubledUnderscore_iff : HasDoubledUnderscore s ↔ ¬ s.toList.IsChain Apart := by
  rw [HasDoubledUnderscore, List.isChain_iff_forall_rel_of_append_cons_cons, List.IsInfix]
  constructor
  · rintro ⟨front, back, hs⟩ happart
    have hsplit : s.toList = front ++ '_' :: '_' :: back := by simp [← hs]
    exact happart hsplit ⟨rfl, rfl⟩
  · intro h
    by_contra hnone
    refine h fun b c front back hs hboth => hnone ⟨front, back, ?_⟩
    rw [hs, hboth.1, hboth.2]
    simp

theorem IsWordTail.ascii (h : IsWordTail c) : c.toNat < 0x80 := by
  rw [← isIdentifierTail_iff] at h
  change (((c.isUpper || c.isLower) || c.isDigit) || c == '_') = true at h
  simp only [Bool.or_eq_true, isUpper_iff_toNat, isLower_iff_toNat, isDigit_iff_toNat, beq_iff_eq] at h
  rcases h with h | rfl
  · omega
  · decide

theorem IsIdentifier.ascii (h : IsIdentifier s) : ∀ c ∈ s.toList, c.toNat < 0x80 :=
  fun _ hc => (h.isWordTail hc).ascii

theorem toLower_of_not_isUpper (h : c.isUpper = false) : c.toLower = c := dif_neg (of_decide_eq_false h)

theorem toLower_eq_underscore_iff : c.toLower = '_' ↔ c = '_' := by
  cases hupper : c.isUpper with
  | false => rw [toLower_of_not_isUpper hupper]
  | true =>
    have hascii : c.toNat < 0x80 := by
      rw [isUpper_iff_toNat] at hupper
      omega
    exact forall_ascii (P := fun c => c.toLower = '_' ↔ c = '_') (by decide) hascii

private theorem IsWordHead.toLower (h : IsWordHead c) : ('a' ≤ c.toLower ∧ c.toLower ≤ 'z') ∨ c.toLower = '_' :=
  forall_ascii (P := fun c => IsWordHead c → ('a' ≤ c.toLower ∧ c.toLower ≤ 'z') ∨ c.toLower = '_') (by decide)
    (IsWordTail.ascii (.inl h)) h

private theorem IsWordTail.toLower (h : IsWordTail c) :
    ('a' ≤ c.toLower ∧ c.toLower ≤ 'z') ∨ ('0' ≤ c.toLower ∧ c.toLower ≤ '9') ∨ c.toLower = '_' :=
  forall_ascii (P := fun c => IsWordTail c →
    ('a' ≤ c.toLower ∧ c.toLower ≤ 'z') ∨ ('0' ≤ c.toLower ∧ c.toLower ≤ '9') ∨ c.toLower = '_') (by decide) h.ascii h

theorem filter_separate : (separate b cs).filter (· ≠ '_') = cs.filter (· ≠ '_') := by
  induction cs generalizing b with
  | nil => rfl
  | cons c cs ih =>
    rw [separate]
    split_ifs with hstart
    · rw [List.filter_cons_of_neg (by simp), List.filter_cons, List.filter_cons, ih]
    · rw [List.filter_cons, List.filter_cons, ih]

theorem filter_separateWords : (separateWords cs).filter (· ≠ '_') = cs.filter (· ≠ '_') := by
  cases cs with
  | nil => rfl
  | cons c cs => rw [separateWords, List.filter_cons, List.filter_cons, filter_separate]

theorem getLast?_separateWords : (separateWords cs).getLast? = cs.getLast? := by
  cases cs with
  | nil => rfl
  | cons c cs =>
    rw [separateWords]
    induction cs generalizing c with
    | nil => rfl
    | cons d cs ih =>
      rw [separate]
      split_ifs with hstart
      · rw [List.getLast?_cons_cons, List.getLast?_cons_cons, List.getLast?_cons_cons, ih]
      · rw [List.getLast?_cons_cons, List.getLast?_cons_cons, ih]

/-- Neither side of a place where a word starts is an underscore. -/
theorem ne_underscore_of_startsWord {after : Option Char} (h : startsWord b c after = true) : b ≠ '_' ∧ c ≠ '_' := by
  constructor
  · rintro rfl
    simp [startsWord] at h
  · rintro rfl
    simp [startsWord] at h

private theorem isChain_separateWords (h : cs.IsChain Apart) : (separateWords cs).IsChain Apart := by
  cases cs with
  | nil => exact h
  | cons c cs =>
    rw [separateWords]
    induction cs generalizing c with
    | nil => exact h
    | cons d cs ih =>
      obtain ⟨hcd, hcs⟩ := List.isChain_cons_cons.mp h
      have hrest := ih d hcs
      rw [separate]
      split_ifs with hstart
      · obtain ⟨hc, hd⟩ := ne_underscore_of_startsWord hstart
        exact .cons_cons (fun hboth => hc hboth.1) (.cons_cons (fun hboth => hd hboth.2) hrest)
      · exact .cons_cons hcd hrest

theorem filter_map_toLower : (cs.map Char.toLower).filter (· ≠ '_') = (cs.filter (· ≠ '_')).map Char.toLower := by
  rw [List.filter_map]
  refine congrArg _ (List.filter_congr fun c _ => ?_)
  simp [toLower_eq_underscore_iff]

theorem IsSmallIdentifier.isIdentifier (h : IsSmallIdentifier s) : IsIdentifier s := by
  obtain ⟨c, cs, hs, hc, hcs⟩ := h
  refine ⟨c, cs, hs, .inr hc, ?_⟩
  intro d hd
  rcases hcs d hd with hletter | hdigit | hunderscore
  · exact .inl (.inr (.inl hletter))
  · exact .inr hdigit
  · exact .inl (.inr (.inr hunderscore))

/-- Where no capital is, no word starts. -/
theorem separateWords_of_not_isUpper (h : ∀ c ∈ cs, c.isUpper = false) : separateWords cs = cs := by
  cases cs with
  | nil => rfl
  | cons c cs =>
    have hrest : separate c (cs ++ []) = cs ++ [] := separate_append_of_not_isUpper (List.forall_mem_cons.mp h).2
    rw [List.append_nil] at hrest
    rw [separateWords, hrest]

theorem IsSmallIdentifier.snakeCase_eq (h : IsSmallIdentifier s) : snakeCase s = s := by
  have hcapital : ∀ c ∈ s.toList, c.isUpper = false := by
    obtain ⟨c, cs, hs, hc, hcs⟩ := h
    have hsmall : ∀ d ∈ c :: cs, ('a' ≤ d ∧ d ≤ 'z') ∨ ('0' ≤ d ∧ d ≤ '9') ∨ d = '_' :=
      List.forall_mem_cons.mpr ⟨hc.imp_right .inr, hcs⟩
    intro d hd
    rw [hs] at hd
    rcases hsmall d hd with hletter | hdigit | rfl
    · exact isUpper_eq_false (.inl (isLower_iff.mpr hletter))
    · exact isUpper_eq_false (.inr (isDigit_iff.mpr hdigit))
    · decide
  apply String.toList_inj.mp
  rw [toList_snakeCase h.isIdentifier.ascii, separateWords_of_not_isUpper hcapital]
  calc s.toList.map Char.toLower
    _ = s.toList.map id := List.map_congr_left fun c hc => toLower_of_not_isUpper (hcapital c hc)
    _ = s.toList := List.map_id _

variable (h : IsIdentifier s)
include h

theorem isSmallIdentifier_snakeCase : IsSmallIdentifier (snakeCase s) := by
  have hchars := toList_snakeCase h.ascii
  obtain ⟨c, cs, hs, hc, hcs⟩ := h
  rw [hs, separateWords, List.map_cons] at hchars
  refine ⟨_, _, hchars, hc.toLower, List.forall_mem_map.mpr ?_⟩
  intro d hd
  rcases mem_of_mem_separate hd with rfl | hd
  · decide
  · exact (hcs d hd).toLower

theorem withoutUnderscores_snakeCase : withoutUnderscores (snakeCase s) = withoutUnderscores (lower s) := by
  rw [withoutUnderscores, withoutUnderscores, toList_snakeCase h.ascii, toList_lower h.ascii, filter_map_toLower,
    filter_map_toLower, filter_separateWords]

theorem head?_of_snakeCase (hhead : (snakeCase s).toList.head? = some '_') : s.toList.head? = some '_' := by
  have hfirst : (separateWords s.toList).head? = s.toList.head? := by cases s.toList <;> rfl
  rw [toList_snakeCase h.ascii, List.head?_map, hfirst, Option.map_eq_some_iff] at hhead
  obtain ⟨c, hc, hlower⟩ := hhead
  rw [hc, toLower_eq_underscore_iff.mp hlower]

theorem getLast?_of_snakeCase (hlast : (snakeCase s).toList.getLast? = some '_') : s.toList.getLast? = some '_' := by
  rw [toList_snakeCase h.ascii, List.getLast?_map, getLast?_separateWords, Option.map_eq_some_iff] at hlast
  obtain ⟨c, hc, hlower⟩ := hlast
  rw [hc, toLower_eq_underscore_iff.mp hlower]

theorem hasDoubledUnderscore_of_snakeCase (hdoubled : HasDoubledUnderscore (snakeCase s)) : HasDoubledUnderscore s := by
  rw [hasDoubledUnderscore_iff, toList_snakeCase h.ascii, List.isChain_map] at hdoubled
  rw [hasDoubledUnderscore_iff]
  intro hchain
  refine hdoubled ((isChain_separateWords hchain).imp fun b c hbc => ?_)
  rwa [Apart, toLower_eq_underscore_iff, toLower_eq_underscore_iff]

end Text

namespace Message

variable {m : Message} {f : Field} {fields : List Field} {why : Rejection}

/-- A field with a good name and a number of its own is only refused for its name being taken. -/
theorem taken_of_objection? (hid : Text.isIdentifier f.name = true) (hnumber : LegalNumber f.number)
    (hfresh : ∀ e ∈ m.fields, e.number ≠ f.number) (h : m.objection? f = some why) :
    f.name ∈ m.fields.map Field.name ∧ why = .fieldTaken m.name f.name := by
  have hmem {before after : List Slot} {t : Slot} (h : m.fields.map Field.slot = before ++ t :: after) :
      ∃ e ∈ m.fields, e.slot = t := List.mem_map.mp (h ▸ by simp)
  cases refused_of_objection? h with
  | name hname => exact absurd (Text.isIdentifier_iff.mp hid) hname
  | range _ hrange => exact absurd ⟨hnumber.1, hnumber.2.1⟩ hrange
  | reserved _ _ hreserved => exact absurd hreserved hnumber.2.2
  | numberTaken _ _ hearlier _ hsame =>
    obtain ⟨e, he, rfl⟩ := hmem hearlier
    exact absurd hsame (hfresh e he)
  | nameTaken _ _ hearlier _ _ hsame =>
    obtain ⟨e, he, rfl⟩ := hmem hearlier
    exact ⟨List.mem_map.mpr ⟨e, he, hsame⟩, rfl⟩

/-- Fields with good names and different numbers are accepted up to the first whose name an earlier one has. -/
theorem exists_taken_of_addAll {name comment : String}
    (hlegal : ∀ f ∈ fields, Text.isIdentifier f.name = true ∧ LegalNumber f.number)
    (hnumbers : (fields.map Field.number).Nodup) (h : addAll { name, comment } fields = .error why) :
    ∃ front f back, fields = front ++ f :: back ∧ f.name ∈ front.map Field.name ∧ why = .fieldTaken name f.name := by
  obtain ⟨front, f, back, m, rfl, hfront, hadd⟩ := Attempt.foldlM_eq_error_iff.mp h
  obtain ⟨_, rfl⟩ := (addAll_eq_ok_iff (legal_nil name comment)).mp hfront
  have hf := hlegal f (by simp)
  have hfresh : ∀ e ∈ front, e.number ≠ f.number := by
    intro e he
    rw [List.map_append, List.nodup_append] at hnumbers
    exact hnumbers.2.2 _ (List.mem_map_of_mem he) _ (by simp)
  obtain ⟨hmem, rfl⟩ := taken_of_objection? hf.1 hf.2 hfresh (add_eq_error_iff.mp hadd)
  exact ⟨front, f, back, rfl, hmem, rfl⟩

end Message

/-- The names of the other fields in the requests of a method, if the requests carry the resource. -/
def Method.otherNames? : Method → Option (List String)
  | .create => some ["parent", "id"]
  | .update => some ["path", "update_mask"]
  | .apply => some ["path"]
  | .read | .delete | .list | .globalList => none

namespace Site

variable {s : Site} {m : Method} {names : List String} {e : ResourceError}

/-- The fields of requests that carry the resource. -/
def carryingFields (s : Site) : Method → List Field
  | .create => [.parent s.resource, .id, s.resourceField]
  | .update => [.path s.resource, s.resourceField, .updateMask]
  | .apply => [.path s.resource, s.resourceField]
  | .read | .delete | .list | .globalList => []

theorem carryingFields_names (s : Site) (hm : m.otherNames? = some names) :
    ((s.carryingFields m).map Field.name).Perm (s.resource.fieldName :: names) ∧ names.Nodup := by
  cases m with
  | create =>
    obtain rfl := Option.some.inj hm
    have hlast : (["parent", "id"] ++ [s.resource.fieldName]).Perm ([s.resource.fieldName] ++ ["parent", "id"]) :=
      List.perm_append_comm
    exact ⟨hlast, by decide⟩
  | update =>
    obtain rfl := Option.some.inj hm
    exact ⟨.swap _ _ _, by decide⟩
  | apply =>
    obtain rfl := Option.some.inj hm
    exact ⟨.swap _ _ _, by decide⟩
  | read | delete | list | globalList => cases hm

theorem carryingFields_legal (s : Site) (m : Method) (hid : Text.isIdentifier s.resource.fieldName = true) :
    (∀ f ∈ s.carryingFields m, Text.isIdentifier f.name = true ∧ LegalNumber f.number) ∧
      ((s.carryingFields m).map Field.number).Nodup := by
  have hparent : Text.isIdentifier "parent" = true ∧ LegalNumber 1 := by decide
  have hidentifier : Text.isIdentifier "id" = true ∧ LegalNumber 2 := by decide
  have hpath : Text.isIdentifier "path" = true ∧ LegalNumber 1 := by decide
  have hmask : Text.isIdentifier "update_mask" = true ∧ LegalNumber 10012 := by decide
  have hresource : Text.isIdentifier s.resource.fieldName = true ∧ LegalNumber 10015 := ⟨hid, by decide⟩
  cases m with
  | create =>
    exact ⟨List.forall_mem_cons.mpr ⟨hparent, List.forall_mem_cons.mpr ⟨hidentifier,
      List.forall_mem_singleton.mpr hresource⟩⟩, show [1, 2, 10015].Nodup by decide⟩
  | update =>
    exact ⟨List.forall_mem_cons.mpr ⟨hpath, List.forall_mem_cons.mpr ⟨hresource,
      List.forall_mem_singleton.mpr hmask⟩⟩, show [1, 10015, 10012].Nodup by decide⟩
  | apply =>
    exact ⟨List.forall_mem_cons.mpr ⟨hpath, List.forall_mem_singleton.mpr hresource⟩,
      show [1, 10015].Nodup by decide⟩
  | read | delete | list | globalList => exact ⟨List.forall_mem_nil _, List.nodup_nil⟩

/-- A request is refused only because the resource's field and another one have the same name. -/
theorem taken_of_request (hm : m.otherNames? = some names) (hid : Text.isIdentifier s.resource.fieldName = true)
    {comment : String} {fields : List Field} (hfields : fields <+: s.carryingFields m)
    (h : s.request m comment fields = .error e) :
    s.resource.fieldName ∈ names ∧
      e = ⟨s.kind, .rejected (.fieldTaken (s.requestName m) s.resource.fieldName)⟩ := by
  obtain ⟨hlegal, hnumbers⟩ := s.carryingFields_legal m hid
  obtain ⟨hperm, hnodup⟩ := s.carryingFields_names hm
  obtain ⟨why, hall, rfl⟩ := Attempt.mapError_eq_error_iff.mp h
  obtain ⟨front, f, back, rfl, hmem, rfl⟩ := Message.exists_taken_of_addAll (fun f hf => hlegal f (hfields.subset hf))
    ((hfields.sublist.map _).nodup hnumbers) hall
  have htwice : 2 ≤ (s.resource.fieldName :: names).count f.name := by
    obtain ⟨rest, hrest⟩ := hfields
    have hfirst := List.one_le_count_iff.mpr hmem
    rw [← hperm.count_eq, ← hrest]
    simp only [List.map_append, List.map_cons, List.count_append, List.count_cons_self]
    omega
  have honce := List.nodup_iff_count_le_one.mp hnodup f.name
  rw [List.count_cons] at htwice
  split_ifs at htwice with hname
  · rw [← beq_iff_eq.mp hname] at htwice ⊢
    exact ⟨List.one_le_count_iff.mp (by omega), rfl⟩
  · omega

theorem exists_request_eq_error (s : Site) (hm : m.otherNames? = some names) (hname : s.resource.fieldName ∈ names)
    (comment : String) : ∃ e, s.request m comment (s.carryingFields m) = .error e := by
  rw [Attempt.exists_eq_error_iff]
  rintro ⟨made, hmade⟩
  have hdistinct := (buildMessage_eq_ok_iff.mp hmade).1.distinctNames
  rw [List.map_map] at hdistinct
  have hnodup := (s.carryingFields_names hm).1.nodup_iff.mp hdistinct
  exact (List.nodup_cons.mp hnodup).1 hname

/-- The steps of a method whose requests carry the resource fail over a path or over the request. -/
theorem error_of_mem_carryingSteps (hpool : s.pool.HasWellKnown) (hm : m.otherNames? = some names)
    (h : .error e ∈ s.methodSteps m) :
    (s.item = .error e ∨ s.collection = .error e) ∨
      ∃ comment fields, fields <+: s.carryingFields m ∧ s.request m comment fields = .error e := by
  cases m with
  | create =>
    simp only [methodSteps, createSteps, List.mem_cons, List.not_mem_nil, or_false] at h
    rcases h with hrequest | htemplate
    · exact .inr ⟨_, _, List.prefix_rfl, Attempt.map_eq_error_iff.mp hrequest.symm⟩
    · exact .inl (.inr (Attempt.map_eq_error_iff.mp htemplate.symm))
  | update =>
    simp only [methodSteps, updateSteps, List.mem_cons, List.not_mem_nil, or_false] at h
    rcases h with himport | hrequest | htemplate
    · rcases Attempt.bind_eq_error_iff.mp himport.symm with hrequest | ⟨_, _, hlacks⟩
      · exact .inr ⟨_, _, ⟨[.updateMask], rfl⟩, hrequest⟩
      · exact absurd hpool.declares_fieldMask (importOf_eq_error_iff.mp hlacks).1
    · exact .inr ⟨_, _, List.prefix_rfl, Attempt.map_eq_error_iff.mp hrequest.symm⟩
    · exact .inl (.inl (Attempt.map_eq_error_iff.mp (Attempt.map_eq_error_iff.mp htemplate.symm)))
  | apply =>
    simp only [methodSteps, applySteps, List.mem_cons, List.not_mem_nil, or_false] at h
    rcases h with hrequest | htemplate
    · exact .inr ⟨_, _, List.prefix_rfl, Attempt.map_eq_error_iff.mp hrequest.symm⟩
    · exact .inl (.inl (Attempt.map_eq_error_iff.mp (Attempt.map_eq_error_iff.mp htemplate.symm)))
  | read | delete | list | globalList => cases hm

/-- Where the resource's field and another one have the same name, the method fails over a field. -/
theorem exists_run_error (hpool : s.pool.HasWellKnown) (reg : Registry) (hm : m.otherNames? = some names)
    (hname : s.resource.fieldName ∈ names) :
    ∃ e, (reg.run s.kind (s.methodSteps m)).error = some e ∧ e.cause.OfField := by
  cases m with
  | create =>
    obtain ⟨e, he⟩ := s.exists_request_eq_error hm hname ("A Create request for a " ++ s.kind ++ " resource.")
    refine ⟨e, ?_, (faultsField_of_buildMessage he).2⟩
    rw [carryingFields] at he
    rw [methodSteps, createSteps, he]
    rfl
  | update =>
    obtain ⟨e, he⟩ := s.exists_request_eq_error hm hname (s.requestComment .update)
    have himport : importOf s.pool s.kind fieldMaskType = .ok (.importFile (s.pool.home fieldMaskType)) :=
      importOf_eq_ok_iff.mpr ⟨hpool.declares_fieldMask, rfl⟩
    rw [carryingFields] at he
    rw [methodSteps, updateSteps, himport]
    -- The name may be taken before the mask is imported, or by the mask itself.
    cases hfirst : s.request .update (s.requestComment .update) [.path s.resource, s.resourceField] with
    | error e' => exact ⟨e', rfl, (faultsField_of_buildMessage hfirst).2⟩
    | ok made =>
      refine ⟨e, ?_, (faultsField_of_buildMessage he).2⟩
      simp only [List.cons_append, List.nil_append, he]
      rfl
  | apply =>
    obtain ⟨e, he⟩ := s.exists_request_eq_error hm hname (s.requestComment .apply)
    refine ⟨e, ?_, (faultsField_of_buildMessage he).2⟩
    rw [carryingFields] at he
    rw [methodSteps, applySteps, he]
    rfl
  | read | delete | list | globalList => cases hm

end Site

namespace Graph

variable {n : Nat} {g : Graph n} {pool : Pool} {i : Fin n} {reg : Registry} {message : String} {m : Method}
  {names : List String} {e : ResourceError}

/-- A method fails over a field exactly when the name of the resource's field is one of the others. -/
theorem run_error_ofField_iff (hpool : pool.HasWellKnown) (hm : m.otherNames? = some names)
    (hid : Text.isIdentifier (g.resource i).fieldName = true) :
    (reg.run (g.kind i) ((g.site pool i reg.package message).methodSteps m)).error = some e ∧ e.cause.OfField ↔
      (g.resource i).fieldName ∈ names ∧
        e = ⟨g.kind i, .rejected (.fieldTaken (m.title ++ g.kind i ++ "Request") (g.resource i).fieldName)⟩ := by
  have hfault {e : ResourceError} :
      (reg.run (g.kind i) ((g.site pool i reg.package message).methodSteps m)).error = some e ∧ e.cause.OfField →
        (g.resource i).fieldName ∈ names ∧
          e = ⟨g.kind i, .rejected (.fieldTaken (m.title ++ g.kind i ++ "Request") (g.resource i).fieldName)⟩ := by
    rintro ⟨herror, hfield⟩
    rcases Registry.error_of_run herror with hstep | ⟨_, _, reason, henter, rfl⟩
    · rcases Site.error_of_mem_carryingSteps hpool hm hstep with (hitem | hcollection) | ⟨_, _, hfields, hrequest⟩
      · obtain ⟨_, walk, hcause⟩ := cycle_of_lineage_eq_error (itemPath_eq_error_iff.mp hitem)
        rw [hcause] at hfield
        cases hfield
      · obtain ⟨p, _, hlineage⟩ := parentTemplate_eq_error_iff.mp hcollection
        obtain ⟨_, walk, hcause⟩ := cycle_of_lineage_eq_error hlineage
        rw [hcause] at hfield
        cases hfield
      · exact Site.taken_of_request (s := g.site pool i reg.package message) hm hid hfields hrequest
    · rcases Registry.taken_of_enter_eq_error henter with ⟨_, _, _, rfl⟩ | ⟨_, _, _, rfl⟩
      · cases hfield
      · cases hfield
  refine ⟨hfault, ?_⟩
  rintro ⟨hname, rfl⟩
  obtain ⟨e, herror⟩ := Site.exists_run_error (s := g.site pool i reg.package message) hpool reg hm hname
  rw [← (hfault herror).2]
  exact herror

end Graph

namespace Resource

/-- In snake case an identifier stays an identifier, now in small letters. Only letter case and underscores change, no
underscore comes to stand at an end or beside another, and a second time nothing changes. So the methods whose requests
carry the resource refuse its field exactly if another field of the request has the name. -/
theorem fieldName_of_identifier {r : Resource} (h : Text.IsIdentifier r.kind) :
    Text.IsSmallIdentifier r.fieldName ∧
    Text.withoutUnderscores r.fieldName = Text.withoutUnderscores (Text.lower r.kind) ∧
    (r.fieldName.toList.head? = some '_' → r.kind.toList.head? = some '_') ∧
    (r.fieldName.toList.getLast? = some '_' → r.kind.toList.getLast? = some '_') ∧
    (Text.HasDoubledUnderscore r.fieldName → Text.HasDoubledUnderscore r.kind) ∧
    (∀ r' : Resource, r'.kind = r.fieldName → r'.fieldName = r.fieldName) ∧
    ∀ (n : Nat) (g : Graph n) (i : Fin n), g.resource i = r →
      ∀ (pool : Pool) (reg : Registry) (message : String) (m : Method) (names : List String), pool.HasWellKnown →
        m.otherNames? = some names →
        ∀ e, (reg.run r.kind ((g.site pool i reg.package message).methodSteps m)).error = some e ∧ e.cause.OfField ↔
          r.fieldName ∈ names ∧
            e = ⟨r.kind, .rejected (.fieldTaken (m.title ++ r.kind ++ "Request") r.fieldName)⟩ := by
  have hsmall : Text.IsSmallIdentifier r.fieldName := Text.isSmallIdentifier_snakeCase h
  refine ⟨hsmall, Text.withoutUnderscores_snakeCase h, Text.head?_of_snakeCase h, Text.getLast?_of_snakeCase h,
    Text.hasDoubledUnderscore_of_snakeCase h, ?_, ?_⟩
  · intro r' hkind
    rw [fieldName, hkind, hsmall.snakeCase_eq]
  · rintro n g i rfl pool reg message m names hpool hm e
    exact Graph.run_error_ofField_iff hpool hm (Text.isIdentifier_iff.mpr hsmall.isIdentifier)

/-- A kind with the name of a field that updates have beside the resource. -/
def updateMask : Resource where
  kind := "UpdateMASK"
  plural := "update-masks"
  type := "masks.example.com/UpdateMask"
  fields := []
  methods := .ofList [.update]

theorem updateMask_refused :
    Text.IsIdentifier updateMask.kind ∧ updateMask.fieldName = "update_mask" ∧
      Text.IsSmallIdentifier updateMask.fieldName ∧
      (Registry.run { package := "", fileName := "api.proto", service := "Api" } "UpdateMASK"
        ((Graph.site ⟨fun _ : Fin 1 => updateMask, fun _ => []⟩ .standard 0 "" "UpdateMASK").methodSteps
          .update)).error =
          some ⟨"UpdateMASK", .rejected (.fieldTaken "UpdateUpdateMASKRequest" "update_mask")⟩ := by
  have hid : Text.IsIdentifier updateMask.kind := Text.isIdentifier_iff.mp (by decide)
  have hname : updateMask.fieldName = "update_mask" := by decide
  obtain ⟨hsmall, _, _, _, _, _, hrefused⟩ := fieldName_of_identifier hid
  refine ⟨hid, hname, hsmall, ?_⟩
  have hupdate := (hrefused 1 ⟨fun _ => updateMask, fun _ => []⟩ 0 rfl .standard
    { package := "", fileName := "api.proto", service := "Api" } "UpdateMASK" .update _ Pool.standard_hasWellKnown rfl
    _).mpr
    ⟨by rw [hname]; decide, rfl⟩
  exact hupdate.1

end Resource

end ResourceApi
