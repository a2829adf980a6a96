import Mathlib.Data.Fintype.Card
import ResourceApi.Graph.Lineage
import ResourceApi.Proofs.Attempt

/-!
The walk along first parents as a relation. The bounded search finds the lineage of a resource exactly when the walk
from it ends, and the paths of a resource are those of its lineage.
-/

namespace ResourceApi.Graph

variable {n : Nat} {g : Graph n} {i j p : Fin n} {chain chain' : List (Fin n)}

/-- The resource that `k` steps along first parents lead to. -/
def walk (g : Graph n) (i : Fin n) : Nat → Option (Fin n)
  | 0 => some i
  | k + 1 => (g.walk i k).bind g.parent?

/-- The walk comes to a resource without parents and goes no further. -/
def WalkEnds (g : Graph n) (i : Fin n) : Prop := ∃ k, g.walk i k = none

/-- A chain of first parents from a resource without parents down to the given one. -/
inductive IsLineage (g : Graph n) : Fin n → List (Fin n) → Prop where
  | root {i : Fin n} (h : g.parent? i = none) : IsLineage g i [i]
  | child {i p : Fin n} {chain : List (Fin n)} (h : g.parent? i = some p) (hp : IsLineage g p chain) :
    IsLineage g i (chain ++ [i])

theorem walk_succ (g : Graph n) (i : Fin n) (k : Nat) :
    g.walk i (k + 1) = (g.parent? i).bind fun p => g.walk p k := by
  induction k with
  | zero => simp [walk]
  | succ k ih =>
    rw [walk, ih]
    cases g.parent? i <;> rfl

theorem IsLineage.walk_length (h : g.IsLineage i chain) : g.walk i chain.length = none := by
  induction h with
  | root h => simp [walk, h]
  | child h _ ih => rw [List.length_append, List.length_singleton, walk_succ, h, Option.bind_some, ih]

theorem exists_isLineage_iff_walkEnds : (∃ chain, g.IsLineage i chain) ↔ g.WalkEnds i := by
  constructor
  · rintro ⟨chain, h⟩
    exact ⟨chain.length, h.walk_length⟩
  · rintro ⟨k, hk⟩
    induction k generalizing i with
    | zero => simp [walk] at hk
    | succ k ih =>
      rw [walk_succ] at hk
      cases hp : g.parent? i with
      | none => exact ⟨[i], .root hp⟩
      | some p =>
        rw [hp, Option.bind_some] at hk
        obtain ⟨chain, hc⟩ := ih hk
        exact ⟨chain ++ [i], .child hp hc⟩

theorem IsLineage.exists_walk (h : g.IsLineage i chain) (hj : j ∈ chain) : ∃ k, g.walk i k = some j := by
  induction h with
  | root h =>
    obtain rfl := List.mem_singleton.mp hj
    exact ⟨0, rfl⟩
  | @child i p chain hp _ ih =>
    rcases List.mem_append.mp hj with hj | hj
    · obtain ⟨k, hk⟩ := ih hj
      exact ⟨k + 1, by rw [walk_succ, hp, Option.bind_some, hk]⟩
    · obtain rfl := List.mem_singleton.mp hj
      exact ⟨0, rfl⟩

/-- A lineage holds what the walk comes by, and nothing else. -/
theorem IsLineage.mem_iff (h : g.IsLineage i chain) : j ∈ chain ↔ ∃ k, g.walk i k = some j := by
  refine ⟨h.exists_walk, ?_⟩
  rintro ⟨k, hk⟩
  induction h generalizing k with
  | @root i h =>
    cases k with
    | zero => simp_all [walk]
    | succ k =>
      rw [walk_succ, h] at hk
      cases hk
  | @child i p chain hp _ ih =>
    cases k with
    | zero => simp_all [walk]
    | succ k =>
      rw [walk_succ, hp] at hk
      exact List.mem_append_left _ (ih k hk)

theorem IsLineage.unique (h : g.IsLineage i chain) (h' : g.IsLineage i chain') : chain = chain' := by
  induction h generalizing chain' with
  | root h => cases h' with
    | root => rfl
    | child h'' => rw [h] at h''; cases h''
  | child h _ ih => cases h' with
    | root h'' => rw [h] at h''; cases h''
    | child h'' hp =>
      rw [h] at h''
      cases h''
      rw [ih hp]

/-- The lineage of an ancestor is where the lineage of its descendant begins. -/
theorem IsLineage.of_mem (h : g.IsLineage i chain) (hj : j ∈ chain) :
    ∃ front, g.IsLineage j front ∧ front <+: chain := by
  induction h with
  | root h =>
    obtain rfl := List.mem_singleton.mp hj
    exact ⟨[j], .root h, List.prefix_refl _⟩
  | @child i p chain h hp ih =>
    rcases List.mem_append.mp hj with hj | hj
    · obtain ⟨front, hf, hpre⟩ := ih hj
      exact ⟨front, hf, hpre.trans (List.prefix_append _ _)⟩
    · obtain rfl := List.mem_singleton.mp hj
      exact ⟨chain ++ [j], .child h hp, List.prefix_refl _⟩

theorem IsLineage.nodup (h : g.IsLineage i chain) : chain.Nodup := by
  induction h with
  | root => exact List.nodup_singleton _
  | @child i p chain h hp ih =>
    -- A second `i` further up would have a lineage both shorter than and equal to the one at hand.
    have hi : i ∉ chain := by
      intro hmem
      obtain ⟨front, hf, hpre⟩ := hp.of_mem hmem
      have heq := (IsLineage.child h hp).unique hf
      have hlen := hpre.length_le
      rw [← heq, List.length_append, List.length_singleton] at hlen
      omega
    exact List.nodup_append.mpr ⟨ih, List.nodup_singleton i, by
      rintro a ha b hb rfl
      exact hi (List.mem_singleton.mp hb ▸ ha)⟩

theorem IsLineage.length_le (h : g.IsLineage i chain) : chain.length ≤ n := by
  simpa using h.nodup.length_le_card

theorem isLineage_of_climb {steps : Nat} {walked found : List (Fin n)} (h : g.climb steps walked i = .ok found) :
    ∃ chain, found = chain ++ walked ∧ g.IsLineage i chain := by
  induction steps generalizing walked i with
  | zero => simp [climb] at h
  | succ steps ih =>
    rw [climb] at h
    split at h
    · simp at h
    · cases hp : g.parent? i with
      | none =>
        simp only [hp, Except.ok.injEq] at h
        exact ⟨[i], h.symm, .root hp⟩
      | some p =>
        simp only [hp] at h
        obtain ⟨chain, hf, hc⟩ := ih h
        exact ⟨chain ++ [i], by simpa using hf, .child hp hc⟩

theorem IsLineage.climb {steps : Nat} {walked : List (Fin n)} (h : g.IsLineage i chain) (hs : chain.length ≤ steps)
    (hw : ∀ j ∈ chain, j ∉ walked) : g.climb steps walked i = .ok (chain ++ walked) := by
  induction h generalizing steps walked with
  | @root i h =>
    obtain ⟨steps, rfl⟩ := Nat.exists_eq_add_of_le' hs
    simp [Graph.climb, h, hw i (by simp)]
  | @child i p chain h hp ih =>
    rw [List.length_append, List.length_singleton] at hs
    obtain ⟨steps, rfl⟩ := Nat.exists_eq_add_of_le' (Nat.le_of_add_left_le hs)
    have hnodup := (IsLineage.child h hp).nodup
    have hrest : ∀ j ∈ chain, j ∉ i :: walked := by
      intro j hj hmem
      rcases List.mem_cons.mp hmem with rfl | hmem
      · exact (List.nodup_append.mp hnodup).2.2 j hj j (by simp) rfl
      · exact hw j (List.mem_append_left _ hj) hmem
    rw [Graph.climb, if_neg (hw i (by simp)), h]
    simpa using ih (by omega) hrest

/-- No walk that ends is cut short by the bound on its steps. -/
theorem lineage_eq_ok_iff : g.lineage i = .ok chain ↔ g.IsLineage i chain := by
  rw [lineage, Attempt.mapError_eq_ok_iff]
  constructor
  · intro h
    obtain ⟨chain', rfl, hc⟩ := isLineage_of_climb h
    simpa using hc
  · intro h
    have hfound : g.climb (n + 1) [] i = .ok (chain ++ []) := h.climb (Nat.le_succ_of_le h.length_le) (by simp)
    rwa [List.append_nil] at hfound

theorem exists_lineage_iff_walkEnds : (∃ chain, g.lineage i = .ok chain) ↔ g.WalkEnds i := by
  simp only [lineage_eq_ok_iff, exists_isLineage_iff_walkEnds]

theorem walkEnds_of_parent (hp : g.parent? i = some p) : g.WalkEnds i ↔ g.WalkEnds p := by
  simp only [← exists_isLineage_iff_walkEnds]
  constructor
  · rintro ⟨chain, h⟩
    cases h with
    | root h => rw [hp] at h; cases h
    | child h h' =>
      rw [hp] at h
      cases h
      exact ⟨_, h'⟩
  · rintro ⟨chain, h⟩
    exact ⟨chain ++ [i], .child hp h⟩

/-- The segments of the ancestors, the outermost first. A walk that does not end has none. -/
def ancestorSegments (g : Graph n) (i : Fin n) : List String :=
  match g.lineage i with
  | .ok chain => chain.dropLast.map fun j => (g.resource j).segment
  | .error _ => []

theorem IsLineage.eq_dropLast (h : g.IsLineage i chain) : chain = chain.dropLast ++ [i] := by
  cases h <;> simp

theorem segments_eq_ok_iff {names : List String} :
    g.segments i = .ok names ↔ g.WalkEnds i ∧ names = g.ancestorSegments i ++ [(g.resource i).segment] := by
  rw [segments, Attempt.map_eq_ok_iff, ← exists_lineage_iff_walkEnds]
  have hnames {chain : List (Fin n)} (hc : g.lineage i = .ok chain) :
      chain.map (fun j => (g.resource j).segment) = g.ancestorSegments i ++ [(g.resource i).segment] := by
    rw [(lineage_eq_ok_iff.mp hc).eq_dropLast, List.map_append, ancestorSegments, hc]
    rfl
  constructor
  · rintro ⟨chain, hc, rfl⟩
    exact ⟨⟨chain, hc⟩, hnames hc⟩
  · rintro ⟨⟨chain, hc⟩, rfl⟩
    exact ⟨chain, hc, hnames hc⟩

theorem ancestorSegments_of_root (hp : g.parent? i = none) : g.ancestorSegments i = [] := by
  rw [ancestorSegments, lineage_eq_ok_iff.mpr (.root hp)]
  rfl

theorem ancestorSegments_of_parent (hp : g.parent? i = some p) (he : g.WalkEnds p) :
    g.ancestorSegments i = g.ancestorSegments p ++ [(g.resource p).segment] := by
  obtain ⟨chain, hc⟩ := exists_isLineage_iff_walkEnds.mpr he
  rw [ancestorSegments, lineage_eq_ok_iff.mpr (.child hp hc), ancestorSegments, lineage_eq_ok_iff.mpr hc]
  simp only [List.dropLast_concat]
  conv_lhs => rw [hc.eq_dropLast, List.map_append]
  rfl

/-- The collection of a resource below its ancestors, with a wildcard for each of them. -/
def joinedSegments (g : Graph n) (i : Fin n) : String :=
  "/*/".intercalate (g.ancestorSegments i ++ [(g.resource i).segment])

theorem itemPath_eq_ok_iff {path : String} :
    g.itemPath i = .ok path ↔ g.WalkEnds i ∧ path = g.joinedSegments i ++ "/*" :=
  Attempt.map_eq_ok_iff_of_value fun _ => segments_eq_ok_iff

/-- The path that starts from the parent is the one that the resource's own lineage gives. -/
theorem collectionPath_eq_ok_iff {path : String} :
    g.collectionPath i = .ok path ↔ g.WalkEnds i ∧ path = g.joinedSegments i := by
  cases hp : g.parent? i with
  | none =>
    have he : g.WalkEnds i := exists_isLineage_iff_walkEnds.mp ⟨[i], .root hp⟩
    simp [collectionPath, hp, he, joinedSegments, ancestorSegments_of_root hp, eq_comm]
  | some p =>
    have hjoin (he : g.WalkEnds p) :
        g.joinedSegments i = g.joinedSegments p ++ "/*" ++ "/" ++ (g.resource i).segment := by
      rw [joinedSegments, ancestorSegments_of_parent hp he,
        String.intercalate_append_of_ne_nil (by simp) (by simp), joinedSegments]
      simp [String.append_assoc]
    simp only [collectionPath, hp, Attempt.map_eq_ok_iff, itemPath_eq_ok_iff, walkEnds_of_parent hp]
    constructor
    · rintro ⟨_, ⟨he, rfl⟩, rfl⟩
      exact ⟨he, (hjoin he).symm⟩
    · rintro ⟨he, rfl⟩
      exact ⟨_, ⟨he, rfl⟩, (hjoin he).symm⟩

theorem parentTemplate_eq_ok_iff {template : String} :
    g.parentTemplate i = .ok template ↔
      g.WalkEnds i ∧ template = "/\x7bparent=" ++ g.joinedSegments i ++ "\x7d" :=
  Attempt.map_eq_ok_iff_of_value fun _ => collectionPath_eq_ok_iff

end ResourceApi.Graph
