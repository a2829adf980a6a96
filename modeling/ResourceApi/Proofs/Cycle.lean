import Mathlib.Data.List.Chain
import ResourceApi.Proofs.Lineage

/-!
Climbing with no bound on its steps. It ends from every resource, either above the last ancestor or at the first
resource that it meets again. So the bound of `climb` never shows, and a walk that does not end is reported as it goes,
up to the place where it closes a circle.
-/

namespace ResourceApi.Graph

variable {n : Nat} {g : Graph n} {start i p : Fin n} {walked : List (Fin n)} {steps : Nat}
  {outcome outcome' : Except (List (Fin n)) (List (Fin n))}

/-- Climbing on from `i` with `walked` behind, for as many steps as it takes. -/
inductive Climbs (g : Graph n) : List (Fin n) → Fin n → Except (List (Fin n)) (List (Fin n)) → Prop where
  | back {walked : List (Fin n)} {i : Fin n} (hi : i ∈ walked) : Climbs g walked i (.error (i :: walked).reverse)
  | top {walked : List (Fin n)} {i : Fin n} (hi : i ∉ walked) (hp : g.parent? i = none) :
    Climbs g walked i (.ok (i :: walked))
  | on {walked : List (Fin n)} {i p : Fin n} {outcome : Except (List (Fin n)) (List (Fin n))} (hi : i ∉ walked)
    (hp : g.parent? i = some p) (hrest : Climbs g (i :: walked) p outcome) : Climbs g walked i outcome

theorem Climbs.unique (h : g.Climbs walked i outcome) (h' : g.Climbs walked i outcome') : outcome = outcome' := by
  induction h with
  | back hi =>
    cases h' with
    | back => rfl
    | top hi' => exact absurd hi hi'
    | on hi' => exact absurd hi hi'
  | top hi hp =>
    cases h' with
    | back hi' => exact absurd hi' hi
    | top => rfl
    | on _ hp' =>
      rw [hp] at hp'
      cases hp'
  | on hi hp _ ih =>
    cases h' with
    | back hi' => exact absurd hi' hi
    | top _ hp' =>
      rw [hp] at hp'
      cases hp'
    | on _ hp' hrest' =>
      rw [hp] at hp'
      cases hp'
      exact ih hrest'

/-- Every step leaves one resource less that is still to be met, so a bound above their number is never reached. -/
theorem climbs_climb (hwalked : walked.Nodup) (hsteps : n < steps + walked.length) :
    g.Climbs walked i (g.climb steps walked i) := by
  induction steps generalizing walked i with
  | zero =>
    have hlength : walked.length ≤ n := by simpa using hwalked.length_le_card
    omega
  | succ steps ih =>
    rw [climb]
    split_ifs with hi
    · exact .back hi
    · cases hp : g.parent? i with
      | none => exact .top hi hp
      | some p =>
        refine .on hi hp (ih (List.nodup_cons.mpr ⟨hi, hwalked⟩) ?_)
        rw [List.length_cons]
        omega

theorem climbs_iff : g.Climbs [] i outcome ↔ outcome = g.climb (n + 1) [] i := by
  have hclimb : g.Climbs [] i (g.climb (n + 1) [] i) := climbs_climb List.nodup_nil (Nat.lt_succ_self n)
  constructor
  · intro h
    exact h.unique hclimb
  · intro h
    rw [h]
    exact hclimb

/-- The walk from `start` has come to `i` and has `walked` behind it, the latest first and none of them twice. -/
structure Passed (g : Graph n) (start : Fin n) (walked : List (Fin n)) (i : Fin n) : Prop where
  reached : g.walk start walked.length = some i
  first : (i :: walked).getLast? = some start
  links : (i :: walked).IsChain fun p c => g.parent? c = some p
  distinct : walked.Nodup

theorem passed_nil (g : Graph n) (i : Fin n) : g.Passed i [] i := ⟨rfl, rfl, .singleton i, List.nodup_nil⟩

theorem Passed.step (h : g.Passed start walked i) (hi : i ∉ walked) (hp : g.parent? i = some p) :
    g.Passed start (i :: walked) p where
  reached := by rw [List.length_cons, walk, h.reached, Option.bind_some, hp]
  first := by rw [List.getLast?_cons_cons, h.first]
  links := .cons_cons hp h.links
  distinct := List.nodup_cons.mpr ⟨hi, h.distinct⟩

/-- The ancestors of `i` and `i` itself: no resource twice, each the first parent of the next, and in front the one
without parents that the walk leads to. -/
structure IsAncestry (g : Graph n) (i : Fin n) (chain : List (Fin n)) : Prop where
  distinct : chain.Nodup
  last : chain.getLast? = some i
  first : ∃ k root, g.walk i k = some root ∧ g.parent? root = none ∧ chain.head? = some root
  links : chain.IsChain fun p c => g.parent? c = some p

/-- The walk from `i` goes by all of `walked`, which are different, and then comes to one of these again. -/
structure ComesBack (g : Graph n) (i : Fin n) (walked : List (Fin n)) (again : Fin n) : Prop where
  first : walked.head? = some i
  links : (walked ++ [again]).IsChain fun c p => g.parent? c = some p
  distinct : walked.Nodup
  again : again ∈ walked

theorem Passed.isAncestry (h : g.Passed start walked i) (hi : i ∉ walked) (hp : g.parent? i = none) :
    g.IsAncestry start (i :: walked) where
  distinct := List.nodup_cons.mpr ⟨hi, h.distinct⟩
  last := h.first
  first := ⟨walked.length, i, h.reached, hp, rfl⟩
  links := h.links

theorem Passed.comesBack (h : g.Passed start walked i) (hi : i ∈ walked) : g.ComesBack start walked.reverse i where
  first := by
    have hne : walked ≠ [] := List.ne_nil_of_mem hi
    have hfirst := h.first
    rwa [List.getLast?_cons_of_ne_nil hne, ← List.head?_reverse] at hfirst
  links := by
    rw [← List.reverse_cons, List.isChain_reverse]
    exact h.links
  distinct := List.nodup_reverse.mpr h.distinct
  again := List.mem_reverse.mpr hi

/-- What is behind the walk when it ends is what it ends with. -/
theorem Climbs.ends (h : g.Climbs walked i outcome) (hpassed : g.Passed start walked i) :
    (∃ chain, outcome = .ok chain ∧ g.IsAncestry start chain) ∨
      ∃ before again, outcome = .error (before ++ [again]) ∧ g.ComesBack start before again := by
  induction h with
  | @back walked i hi =>
    refine .inr ⟨walked.reverse, i, ?_, hpassed.comesBack hi⟩
    rw [List.reverse_cons]
  | top hi hp => exact .inl ⟨_, rfl, hpassed.isAncestry hi hp⟩
  | on hi hp _ ih => exact ih (hpassed.step hi hp)

/-- Either the walk ends and gives the ancestry, or it comes back and is reported for the resource it started from. -/
theorem lineage_cases (g : Graph n) (i : Fin n) :
    (∃ chain, g.lineage i = .ok chain ∧ g.IsAncestry i chain) ∨
      ∃ walked again, g.lineage i = .error ⟨g.kind i, .parentCycle ((walked ++ [again]).map g.kind)⟩ ∧
        g.ComesBack i walked again := by
  have hclimbs : g.Climbs [] i (g.climb (n + 1) [] i) := climbs_iff.mpr rfl
  rcases hclimbs.ends (g.passed_nil i) with ⟨chain, hclimb, hchain⟩ | ⟨walked, again, hclimb, hback⟩
  · refine .inl ⟨chain, ?_, hchain⟩
    rw [lineage, hclimb]
    rfl
  · refine .inr ⟨walked, again, ?_, hback⟩
    rw [lineage, hclimb]
    rfl

theorem walkEnds_iff_exists_root : g.WalkEnds i ↔ ∃ k root, g.walk i k = some root ∧ g.parent? root = none := by
  constructor
  · intro hends
    obtain ⟨k, hk⟩ := hends
    induction k with
    | zero => cases hk
    | succ k ih =>
      cases hroot : g.walk i k with
      | none => exact ih hroot
      | some root =>
        rw [walk, hroot, Option.bind_some] at hk
        exact ⟨k, root, hroot, hk⟩
  · intro hroots
    obtain ⟨k, root, hroot, hp⟩ := hroots
    exact ⟨k + 1, by rw [walk, hroot, Option.bind_some, hp]⟩

/-- Climbing ends from every resource, and `lineage` gives what it ends with. That is the ancestry if the walk leads to
a resource without parents. Otherwise it is the walk up to the first resource that is met again, by kinds, whether or
not the circle goes through the resource itself. -/
theorem lineage_ends_or_comes_back (g : Graph n) (i : Fin n) :
    (∃ outcome, (∀ outcome', g.Climbs [] i outcome' ↔ outcome' = outcome) ∧
      g.lineage i = outcome.mapError fun walk => ⟨g.kind i, .parentCycle (walk.map g.kind)⟩) ∧
    ((∃ chain, g.lineage i = .ok chain) ↔ ∃ k root, g.walk i k = some root ∧ g.parent? root = none) ∧
    (∀ chain, g.lineage i = .ok chain → g.IsAncestry i chain) ∧
    ((¬ ∃ k root, g.walk i k = some root ∧ g.parent? root = none) →
      ∃ walked again, g.lineage i = .error ⟨g.kind i, .parentCycle ((walked ++ [again]).map g.kind)⟩ ∧
        g.ComesBack i walked again) := by
  rw [← walkEnds_iff_exists_root]
  refine ⟨⟨_, fun _ => climbs_iff, rfl⟩, exists_lineage_iff_walkEnds, ?_, ?_⟩
  · intro chain hchain
    rcases g.lineage_cases i with ⟨chain', hchain', hancestry⟩ | ⟨_, _, herror, _⟩
    · obtain rfl := Except.ok.inj (hchain.symm.trans hchain')
      exact hancestry
    · rw [hchain] at herror
      cases herror
  · intro hends
    rcases g.lineage_cases i with ⟨chain, hchain, _⟩ | hback
    · exact absurd (exists_lineage_iff_walkEnds.mp ⟨chain, hchain⟩) hends
    · exact hback

/-- Two folders lie in each other, and a note in the first of them. Another note lies in a folder of its own. -/
def folderLoop : Graph 5 where
  resource i :=
    { kind := if i = 0 ∨ i = 3 then "Note" else "Folder", plural := "entries", type := "notes.example.com/Entry"
      fields := [], methods := .empty }
  parents
    | 0 => [1]
    | 1 => [2]
    | 2 => [1]
    | 3 => [4]
    | 4 => []

/-- The note is not part of the circle that it leads into, and the folders have one kind. -/
theorem folderLoop_lineages :
    (folderLoop.lineage 3 = .ok [4, 3] ∧ folderLoop.IsAncestry 3 [4, 3]) ∧
    (∀ k root, folderLoop.walk 0 k = some root → folderLoop.parent? root ≠ none) ∧
    folderLoop.lineage 0 = .error ⟨"Note", .parentCycle ["Note", "Folder", "Folder", "Folder"]⟩ ∧
    ∃ walked again, folderLoop.lineage 0 = .error ⟨"Note", .parentCycle ((walked ++ [again]).map folderLoop.kind)⟩ ∧
      folderLoop.ComesBack 0 walked again := by
  have hnote : folderLoop.lineage 3 = .ok [4, 3] := rfl
  have hloop : folderLoop.lineage 0 = .error ⟨"Note", .parentCycle ["Note", "Folder", "Folder", "Folder"]⟩ := by
    decide +kernel
  have hparents : ¬ ∃ k root, folderLoop.walk 0 k = some root ∧ folderLoop.parent? root = none := by
    rw [← walkEnds_iff_exists_root, ← exists_lineage_iff_walkEnds, hloop]
    simp
  obtain ⟨_, _, hancestry, _⟩ := lineage_ends_or_comes_back folderLoop 3
  obtain ⟨_, _, _, hback⟩ := lineage_ends_or_comes_back folderLoop 0
  refine ⟨⟨hnote, hancestry _ hnote⟩, ?_, hloop, hback hparents⟩
  intro k root hroot hp
  exact hparents ⟨k, root, hroot, hp⟩

end ResourceApi.Graph
