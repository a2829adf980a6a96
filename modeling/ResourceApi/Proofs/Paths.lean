import ResourceApi.Proofs.Lineage
import ResourceApi.Proofs.Text

/-!
Paths as texts. The path of one instance and the template for its collection are made around the same text. A path whose
collections have no slash in their names is read apart into these names again.
-/

namespace ResourceApi

namespace Text

variable {names names' : List String}

/-- The segments of a path: every name is followed by a wildcard. -/
def withWildcards (names : List String) : List String := names.flatMap fun name => [name, "*"]

theorem withWildcards_cons (name : String) (names : List String) :
    withWildcards (name :: names) = name :: "*" :: withWildcards names := rfl

theorem length_withWildcards (names : List String) : (withWildcards names).length = 2 * names.length := by
  induction names with
  | nil => rfl
  | cons name names ih =>
    rw [withWildcards_cons, List.length_cons, List.length_cons, List.length_cons, ih]
    omega

/-- Names stand in the even places and wildcards in the odd ones. -/
theorem getElem?_withWildcards {k : Nat} {name : String} (h : names[k]? = some name) :
    (withWildcards names)[2 * k]? = some name ∧ (withWildcards names)[2 * k + 1]? = some "*" := by
  induction names generalizing k with
  | nil => cases h
  | cons first names ih =>
    rw [withWildcards_cons]
    cases k with
    | zero => exact ⟨h, rfl⟩
    | succ k => exact ih h

theorem withWildcards_inj : withWildcards names = withWildcards names' ↔ names = names' := by
  refine ⟨?_, congrArg withWildcards⟩
  induction names generalizing names' with
  | nil =>
    intro h
    cases names' with
    | nil => rfl
    | cons name' names' => cases h
  | cons name names ih =>
    intro h
    cases names' with
    | nil => cases h
    | cons name' names' =>
      rw [withWildcards_cons, withWildcards_cons, List.cons.injEq, List.cons.injEq] at h
      rw [h.1, ih h.2.2]

/-- Wildcards between names and behind the last are the same as single segments joined by slashes. -/
theorem intercalate_withWildcards (h : names ≠ []) :
    "/*/".intercalate names ++ "/*" = "/".intercalate (withWildcards names) := by
  have hend : "/*" = "/" ++ "*" := by decide
  have hbetween : "/*/" = "/" ++ "*" ++ "/" := by decide
  induction names with
  | nil => exact absurd rfl h
  | cons name names ih =>
    cases names with
    | nil => simp [withWildcards, hend, String.append_assoc]
    | cons next names =>
      have hrest := ih (List.cons_ne_nil next names)
      calc "/*/".intercalate (name :: next :: names) ++ "/*"
        _ = name ++ "/*/" ++ ("/*/".intercalate (next :: names) ++ "/*") := by
          rw [String.intercalate_cons_cons, String.append_assoc]
        _ = name ++ ("/" ++ "*" ++ "/") ++ "/".intercalate (withWildcards (next :: names)) := by rw [hrest, hbetween]
        _ = "/".intercalate (withWildcards (name :: next :: names)) := by
          simp only [withWildcards_cons, String.intercalate_cons_cons, String.append_assoc]

theorem parts_path (hne : names ≠ []) (h : ∀ name ∈ names, '/' ∉ name.toList) :
    parts '/' ("/*/".intercalate names ++ "/*") = withWildcards names := by
  have hslash : ∀ segment ∈ withWildcards names, '/' ∉ segment.toList := by
    intro segment hsegment
    obtain ⟨name, hname, hmem⟩ := List.mem_flatMap.mp hsegment
    rcases List.mem_cons.mp hmem with rfl | hstar
    · exact h segment hname
    · rw [List.mem_singleton.mp hstar]
      decide
  have hsegments : withWildcards names ≠ [] := by
    obtain ⟨name, rest, rfl⟩ := List.exists_cons_of_ne_nil hne
    exact List.cons_ne_nil _ _
  rw [intercalate_withWildcards hne]
  exact parts_intercalate hslash hsegments

end Text

namespace Graph

variable {n n' : Nat} {g : Graph n} {g' : Graph n'} {i p : Fin n} {i' : Fin n'} {chain : List (Fin n)}
  {chain' : List (Fin n')}

/-- The segments of the resources on a chain. -/
def segmentsOf (g : Graph n) (chain : List (Fin n)) : List String := chain.map fun j => Text.lower (g.resource j).plural

/-- No collection on the chain has a slash in its name. -/
def SlashFree (g : Graph n) (chain : List (Fin n)) : Prop := ∀ j ∈ chain, '/' ∉ (g.resource j).plural.toList

theorem itemPath_of_lineage (h : g.lineage i = .ok chain) :
    g.itemPath i = .ok ("/*/".intercalate (g.segmentsOf chain) ++ "/*") := by
  rw [itemPath, segments, h]
  rfl

theorem segmentsOf_ne_nil (h : g.lineage i = .ok chain) : g.segmentsOf chain ≠ [] := by
  rw [segmentsOf, (lineage_eq_ok_iff.mp h).eq_dropLast]
  simp

theorem SlashFree.segmentsOf (h : g.SlashFree chain) : ∀ name ∈ g.segmentsOf chain, '/' ∉ name.toList := by
  intro name hname hslash
  obtain ⟨j, hj, rfl⟩ := List.mem_map.mp hname
  exact h j hj (Text.mem_of_mem_lower (by decide) (by decide) hslash)

theorem parts_itemPath (h : g.lineage i = .ok chain) (hslash : g.SlashFree chain) :
    Text.parts '/' ("/*/".intercalate (g.segmentsOf chain) ++ "/*") = Text.withWildcards (g.segmentsOf chain) :=
  Text.parts_path (segmentsOf_ne_nil h) hslash.segmentsOf

/-- Without slashes in the names of collections, different segments make different paths. -/
theorem itemPath_eq_iff_segmentsOf (h : g.lineage i = .ok chain) (h' : g'.lineage i' = .ok chain')
    (hslash : g.SlashFree chain) (hslash' : g'.SlashFree chain') :
    g.itemPath i = g'.itemPath i' ↔ g.segmentsOf chain = g'.segmentsOf chain' := by
  rw [itemPath_of_lineage h, itemPath_of_lineage h', Except.ok.injEq]
  constructor
  · intro hpaths
    have hparts := congrArg (Text.parts '/') hpaths
    rw [parts_itemPath h hslash, parts_itemPath h' hslash'] at hparts
    exact Text.withWildcards_inj.mp hparts
  · intro hsegments
    rw [hsegments]

theorem exists_itemPath_iff : (∃ path, g.itemPath i = .ok path) ↔ g.WalkEnds i := by
  simp [itemPath_eq_ok_iff]

theorem exists_parentTemplate_iff : (∃ template, g.parentTemplate i = .ok template) ↔ g.WalkEnds i := by
  simp [parentTemplate_eq_ok_iff]

theorem joinedSegments_of_root (hp : g.parent? i = none) : g.joinedSegments i = Text.lower (g.resource i).plural := by
  rw [joinedSegments, ancestorSegments_of_root hp]
  rfl

theorem exists_joinedSegments_eq (hw : g.WalkEnds i) (hp : g.parent? i = some p) :
    ∃ above, g.itemPath p = .ok above ∧ g.joinedSegments i = above ++ "/" ++ Text.lower (g.resource i).plural := by
  have hpath : g.collectionPath i = .ok (g.joinedSegments i) := collectionPath_eq_ok_iff.mpr ⟨hw, rfl⟩
  simp only [collectionPath, hp] at hpath
  obtain ⟨above, habove, hjoined⟩ := Attempt.map_eq_ok_iff.mp hpath
  exact ⟨above, habove, hjoined.symm⟩

/-- The path of one instance and the template for its collection fail together and are made around one text, the
collection below the path of the parent. Where no slash occurs in the names of collections, the segments of a path are
these names and a wildcard for each, so that a path tells the names on its chain. -/
theorem paths_spell_segments (g : Graph n) (i : Fin n) :
    ((∃ e, g.itemPath i = .error e) ↔ ∃ e, g.parentTemplate i = .error e) ∧
    (∀ path, g.itemPath i = .ok path →
      ∃ collection, path = collection ++ "/*" ∧
        g.parentTemplate i = .ok ("/\x7bparent=" ++ collection ++ "\x7d") ∧
        (g.parent? i = none → collection = Text.lower (g.resource i).plural) ∧
        ∀ p, g.parent? i = some p →
          ∃ above, g.itemPath p = .ok above ∧ collection = above ++ "/" ++ Text.lower (g.resource i).plural) ∧
    ∀ chain, g.lineage i = .ok chain → g.SlashFree chain →
      (∃ path, g.itemPath i = .ok path ∧ (Text.parts '/' path).length = 2 * chain.length ∧
        ∀ k j, chain[k]? = some j →
          (Text.parts '/' path)[2 * k]? = some (Text.lower (g.resource j).plural) ∧
            (Text.parts '/' path)[2 * k + 1]? = some "*") ∧
      ∀ (n' : Nat) (g' : Graph n') (i' : Fin n') (chain' : List (Fin n')), g'.lineage i' = .ok chain' →
        g'.SlashFree chain' → (g.itemPath i = g'.itemPath i' ↔ g.segmentsOf chain = g'.segmentsOf chain') := by
  refine ⟨?_, ?_, ?_⟩
  · rw [Attempt.exists_eq_error_iff, Attempt.exists_eq_error_iff, exists_itemPath_iff, exists_parentTemplate_iff]
  · intro path hpath
    obtain ⟨hw, rfl⟩ := itemPath_eq_ok_iff.mp hpath
    exact ⟨g.joinedSegments i, rfl, parentTemplate_eq_ok_iff.mpr ⟨hw, rfl⟩, joinedSegments_of_root,
      fun p hp => exists_joinedSegments_eq hw hp⟩
  · intro chain hchain hslash
    refine ⟨⟨_, itemPath_of_lineage hchain, ?_⟩, ?_⟩
    · rw [parts_itemPath hchain hslash]
      refine ⟨?_, ?_⟩
      · rw [Text.length_withWildcards, segmentsOf, List.length_map]
      · intro k j hj
        apply Text.getElem?_withWildcards
        rw [segmentsOf, List.getElem?_map, hj, Option.map_some]
    · intro n' g' i' chain' hchain' hslash'
      exact itemPath_eq_iff_segmentsOf hchain hchain' hslash hslash'

/-- Books on shelves, which stand in stores. -/
def shelving : Graph 3 where
  resource
    | 0 => { kind := "Store", plural := "Stores", type := "books.example.com/Store", fields := [], methods := .empty }
    | 1 => { kind := "Shelf", plural := "Shelves", type := "books.example.com/Shelf", fields := [], methods := .empty }
    | 2 => { kind := "Book", plural := "Books", type := "books.example.com/Book", fields := [], methods := .empty }
  parents i := (List.finRange 3).filter fun p => p.val + 1 = i.val

theorem shelving_paths :
    shelving.lineage 2 = .ok [0, 1, 2] ∧ shelving.SlashFree [0, 1, 2] ∧
      shelving.lineage 1 = .ok [0, 1] ∧ shelving.SlashFree [0, 1] ∧ shelving.itemPath 2 ≠ shelving.itemPath 1 ∧
      ∃ collection, shelving.itemPath 2 = .ok (collection ++ "/*") ∧
        shelving.parentTemplate 2 = .ok ("/\x7bparent=" ++ collection ++ "\x7d") := by
  have hbook : shelving.lineage 2 = .ok [0, 1, 2] := rfl
  have hshelf : shelving.lineage 1 = .ok [0, 1] := rfl
  have hslash : shelving.SlashFree [0, 1, 2] := by unfold SlashFree; decide
  have hslash' : shelving.SlashFree [0, 1] := by unfold SlashFree; decide
  obtain ⟨_, hcollection, hsegments⟩ := paths_spell_segments shelving 2
  obtain ⟨⟨path, hpath, _⟩, hdiffer⟩ := hsegments _ hbook hslash
  obtain ⟨collection, rfl, htemplate, _⟩ := hcollection path hpath
  refine ⟨hbook, hslash, hshelf, hslash', ?_, collection, hpath, htemplate⟩
  intro heq
  have hnames := (hdiffer 3 shelving 1 _ hshelf hslash').mp heq
  exact absurd (congrArg List.length hnames) (by decide)

end Graph

end ResourceApi
