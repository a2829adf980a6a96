import ResourceApi.Proofs.Order

/-!
Who comes before whom in the order of a request. A resource has its place where the first requested lineage that holds
it has, and within a lineage ancestors come first. A request that lists ancestors first is therefore kept as it is.
-/

namespace ResourceApi

section Places

variable {α : Type} [DecidableEq α] {a b : α}

theorem idxOf_cons_lt_iff {x : α} (xs : List α) (ha : x ≠ a) (hb : x ≠ b) :
    (x :: xs).idxOf a < (x :: xs).idxOf b ↔ xs.idxOf a < xs.idxOf b := by
  rw [List.idxOf_cons_ne xs ha, List.idxOf_cons_ne xs hb, Nat.succ_lt_succ_iff]

/-- A common first element leaves it to the rest who of the others comes first. -/
theorem idxOf_cons_lt_congr {x : α} {xs ys : List α}
    (h : x ≠ a → x ≠ b → (xs.idxOf a < xs.idxOf b ↔ ys.idxOf a < ys.idxOf b)) :
    (x :: xs).idxOf a < (x :: xs).idxOf b ↔ (x :: ys).idxOf a < (x :: ys).idxOf b := by
  by_cases hb : x = b
  · subst hb
    simp
  · by_cases ha : x = a
    · subst ha
      simp [List.idxOf_cons_ne _ hb]
    · rw [idxOf_cons_lt_iff xs ha hb, idxOf_cons_lt_iff ys ha hb, h ha hb]

theorem idxOf_filter_lt_iff {p : α → Bool} (xs : List α) (ha : p a = true) (hb : p b = true) :
    (xs.filter p).idxOf a < (xs.filter p).idxOf b ↔ xs.idxOf a < xs.idxOf b := by
  induction xs with
  | nil => rfl
  | cons x xs ih =>
    by_cases hx : p x = true
    · rw [List.filter_cons_of_pos hx]
      exact idxOf_cons_lt_congr fun _ _ => ih
    · have hxa : x ≠ a := fun h => hx (h ▸ ha)
      have hxb : x ≠ b := fun h => hx (h ▸ hb)
      rw [List.filter_cons_of_neg hx, idxOf_cons_lt_iff xs hxa hxb, ih]

theorem idxOf_eraseDups_lt_iff (xs : List α) :
    xs.eraseDups.idxOf a < xs.eraseDups.idxOf b ↔ xs.idxOf a < xs.idxOf b := by
  match xs with
  | [] => simp
  | x :: xs =>
    have hlen : (xs.filter fun y => !y == x).length < xs.length + 1 :=
      Nat.lt_succ_of_le (List.length_filter_le _ _)
    rw [List.eraseDups_cons]
    refine idxOf_cons_lt_congr fun ha hb => ?_
    rw [idxOf_eraseDups_lt_iff, idxOf_filter_lt_iff xs (by simpa using ha.symm) (by simpa using hb.symm)]
termination_by xs.length

/-- In joined lists the first list that holds an element decides, and within that list its own order. -/
theorem idxOf_flatten_lt_iff {xss : List (List α)} {R : Prop} (ha : a ∈ xss.flatten)
    (hR : ∀ xs ∈ xss, a ∈ xs → b ∈ xs → (xs.idxOf a < xs.idxOf b ↔ R)) :
    xss.flatten.idxOf a < xss.flatten.idxOf b ↔
      (xss.findIdx fun xs => a ∈ xs) < (xss.findIdx fun xs => b ∈ xs) ∨
        (xss.findIdx fun xs => a ∈ xs) = (xss.findIdx fun xs => b ∈ xs) ∧ R := by
  induction xss with
  | nil => simp at ha
  | cons xs xss ih =>
    rw [List.flatten_cons, List.idxOf_append, List.idxOf_append, List.findIdx_cons, List.findIdx_cons]
    by_cases hxa : a ∈ xs
    · have hlt : xs.idxOf a < xs.length := List.idxOf_lt_length_of_mem hxa
      by_cases hxb : b ∈ xs
      · simp [hxa, hxb, hR xs List.mem_cons_self hxa hxb]
      · simp only [hxa, hxb, if_true, if_false, decide_true, decide_false, cond_true, cond_false]
        omega
    · have ha' : a ∈ xss.flatten := by simpa [hxa] using ha
      by_cases hxb : b ∈ xs
      · have hlt : xs.idxOf b < xs.length := List.idxOf_lt_length_of_mem hxb
        simp only [hxa, hxb, if_true, if_false, decide_true, decide_false, cond_true, cond_false]
        omega
      · simp only [hxa, hxb, if_false, decide_false, cond_false, Nat.add_lt_add_iff_right, Nat.add_right_cancel_iff]
        exact ih ha' fun ys hys => hR ys (List.mem_cons_of_mem _ hys)

theorem idxOf_lt_idxOf_middle_iff {xs ys : List α} (h : b ∉ xs) :
    (xs ++ b :: ys).idxOf a < (xs ++ b :: ys).idxOf b ↔ a ∈ xs := by
  rw [List.idxOf_append, List.idxOf_append, if_neg h, List.idxOf_cons_self]
  by_cases ha : a ∈ xs
  · have hlt : xs.idxOf a < xs.length := List.idxOf_lt_length_of_mem ha
    simp only [ha, if_true, iff_true]
    omega
  · simp only [ha, if_false, iff_false]
    omega

/-- Lists without repetitions are determined by their members and by who comes first. -/
theorem eq_of_idxOf_lt_imp {xs ys : List α} (hxs : xs.Nodup) (hys : ys.Nodup) (hmem : ∀ a, a ∈ xs ↔ a ∈ ys)
    (hlt : ∀ a ∈ xs, ∀ b ∈ xs, xs.idxOf a < xs.idxOf b → ys.idxOf a < ys.idxOf b) : xs = ys := by
  have hplaces {zs : List α} (hzs : zs.Nodup) : zs.Pairwise fun a b => zs.idxOf a < zs.idxOf b := by
    rw [List.pairwise_iff_getElem]
    intro i j hi hj hij
    rwa [hzs.idxOf_getElem i hi, hzs.idxOf_getElem j hj]
  have hperm : xs.Perm ys := (List.perm_ext_iff_of_nodup hxs hys).mpr hmem
  refine hperm.eq_of_pairwise ?_ ((hplaces hxs).imp_of_mem fun ha hb => hlt _ ha _ hb) (hplaces hys)
  intro a b _ _ hab hba
  omega

end Places

namespace Graph

variable {n : Nat} {g : Graph n} {request ordered chain : List (Fin n)} {i a b : Fin n}

/-- One or more steps along first parents lead from `b` to `a`. -/
def IsAncestor (g : Graph n) (a b : Fin n) : Prop := ∃ k, g.walk b (k + 1) = some a

/-- The resource and its ancestors; none if the walk does not end. -/
def ancestry (g : Graph n) (i : Fin n) : List (Fin n) :=
  match g.lineage i with
  | .ok chain => chain
  | .error _ => []

/-- The first place of the request whose resource is `a` or has it among its ancestors. -/
def firstUse (g : Graph n) (request : List (Fin n)) (a : Fin n) : Nat :=
  request.findIdx fun i => (g.ancestry i).contains a

theorem isLineage_ancestry (h : g.WalkEnds i) : g.IsLineage i (g.ancestry i) := by
  obtain ⟨chain, hchain⟩ := exists_isLineage_iff_walkEnds.mpr h
  rw [ancestry, lineage_eq_ok_iff.mpr hchain]
  exact hchain

theorem IsLineage.mem_dropLast_iff (h : g.IsLineage i chain) : a ∈ chain.dropLast ↔ g.IsAncestor a i := by
  unfold IsAncestor
  cases h with
  | root hp => simp [walk_succ, hp]
  | child hp hchain => simp [walk_succ, hp, hchain.mem_iff]

theorem mem_ancestry_iff (h : g.WalkEnds i) : a ∈ g.ancestry i ↔ g.IsAncestor a i ∨ a = i := by
  have hchain := isLineage_ancestry h
  rw [← hchain.mem_dropLast_iff, hchain.eq_dropLast, List.dropLast_concat, List.mem_append, List.mem_singleton]

/-- What stands before `b` in a lineage is the lineage of `b` without `b` itself. -/
theorem IsLineage.idxOf_lt_iff (h : g.IsLineage i chain) (hb : b ∈ chain) :
    chain.idxOf a < chain.idxOf b ↔ g.IsAncestor a b := by
  obtain ⟨front, hfront, rest, rfl⟩ := h.of_mem hb
  have hsplit : front ++ rest = front.dropLast ++ b :: rest := by
    conv_lhs => rw [hfront.eq_dropLast, List.append_assoc, List.singleton_append]
  have hnodup := hfront.nodup
  rw [hfront.eq_dropLast, List.nodup_append] at hnodup
  have hnot : b ∉ front.dropLast := fun hmem => hnodup.2.2 b hmem b (List.mem_singleton_self b) rfl
  rw [hsplit, idxOf_lt_idxOf_middle_iff hnot, hfront.mem_dropLast_iff]

theorem order_eq (h : g.order request = .ok ordered) :
    ordered = ((request.map g.ancestry).flatten.filter request.contains).eraseDups := by
  have hwalks := exists_order_iff.mp ⟨ordered, h⟩
  have hchains : request.mapM g.lineage = .ok (request.map g.ancestry) :=
    Attempt.mapM_eq_ok_map _ fun i hi => lineage_eq_ok_iff.mpr (isLineage_ancestry (hwalks i hi))
  obtain ⟨chains, hmap, rfl⟩ := order_eq_ok_iff.mp h
  rw [hchains, Except.ok.injEq] at hmap
  rw [hmap]

/-- The place of a resource is that of its first use. Resources that are first used together stand in one chain. -/
theorem idxOf_order_lt_iff (h : g.order request = .ok ordered) (ha : a ∈ request) (hb : b ∈ request) :
    ordered.idxOf a < ordered.idxOf b ↔
      g.firstUse request a < g.firstUse request b ∨
        g.firstUse request a = g.firstUse request b ∧ g.IsAncestor a b := by
  have hwalks := exists_order_iff.mp ⟨ordered, h⟩
  have hmem : a ∈ (request.map g.ancestry).flatten := by
    refine List.mem_flatten.mpr ⟨g.ancestry a, List.mem_map_of_mem ha, ?_⟩
    exact (mem_ancestry_iff (hwalks a ha)).mpr (.inr rfl)
  have hchains : ∀ chain ∈ request.map g.ancestry, a ∈ chain → b ∈ chain →
      (chain.idxOf a < chain.idxOf b ↔ g.IsAncestor a b) :=
    List.forall_mem_map.mpr fun i hi _ hbi => (isLineage_ancestry (hwalks i hi)).idxOf_lt_iff hbi
  rw [order_eq h, idxOf_eraseDups_lt_iff, idxOf_filter_lt_iff _ (by simpa using ha) (by simpa using hb),
    idxOf_flatten_lt_iff hmem hchains, List.findIdx_map, List.findIdx_map]
  simp only [firstUse, List.contains_eq_mem]
  rfl

theorem IsAncestor.trans (hab : g.IsAncestor a b) (hbi : g.IsAncestor b i) : g.IsAncestor a i := by
  obtain ⟨k, hk⟩ := hab
  obtain ⟨l, hl⟩ := hbi
  refine ⟨k + l + 1, ?_⟩
  induction k generalizing a with
  | zero =>
    rw [Nat.zero_add, walk, hl]
    exact hk
  | succ k ih =>
    rw [walk] at hk
    obtain ⟨c, hc, hca⟩ := Option.bind_eq_some_iff.mp hk
    rw [show k + 1 + l + 1 + 1 = (k + l + 1 + 1) + 1 by omega, walk, ih hc]
    exact hca

/-- Whatever uses a resource uses its ancestors. -/
theorem IsAncestor.firstUse_le (h : g.IsAncestor a b) (hwalks : ∀ i ∈ request, g.WalkEnds i) :
    g.firstUse request a ≤ g.firstUse request b := by
  refine List.findIdx_le_findIdx fun i hi hbi => ?_
  simp only [List.contains_iff_mem, mem_ancestry_iff (hwalks i hi)] at hbi ⊢
  rcases hbi with hbi | rfl
  · exact .inl (h.trans hbi)
  · exact .inl h

theorem IsAncestor.idxOf_order_lt (hab : g.IsAncestor a b) (h : g.order request = .ok ordered) (ha : a ∈ request)
    (hb : b ∈ request) : ordered.idxOf a < ordered.idxOf b := by
  have hle := hab.firstUse_le (exists_order_iff.mp ⟨ordered, h⟩)
  refine (idxOf_order_lt_iff h ha hb).mpr ?_
  rcases Nat.lt_or_eq_of_le hle with hlt | heq
  · exact .inl hlt
  · exact .inr ⟨heq, hab⟩

/-- Requested ancestors have their first place before that of their descendants. -/
def AncestorsFirst (g : Graph n) (request : List (Fin n)) : Prop :=
  ∀ a ∈ request, ∀ b ∈ request, g.IsAncestor a b → request.idxOf a < request.idxOf b

/-- No resource is used before its own place. -/
theorem AncestorsFirst.firstUse_eq (h : g.AncestorsFirst request) (hwalks : ∀ i ∈ request, g.WalkEnds i)
    (ha : a ∈ request) : g.firstUse request a = request.idxOf a := by
  have hself : a ∈ g.ancestry a := (mem_ancestry_iff (hwalks a ha)).mpr (.inr rfl)
  have hle : g.firstUse request a ≤ request.idxOf a := by
    refine List.findIdx_le_findIdx fun i _ hia => ?_
    obtain rfl := beq_iff_eq.mp hia
    exact List.contains_iff_mem.mpr hself
  refine Nat.le_antisymm hle ?_
  have hlt : g.firstUse request a < request.length := Nat.lt_of_le_of_lt hle (List.idxOf_lt_length_of_mem ha)
  have hi : request[g.firstUse request a] ∈ request := List.getElem_mem hlt
  have hused : a ∈ g.ancestry request[g.firstUse request a] :=
    List.contains_iff_mem.mp (@List.findIdx_getElem _ _ _ hlt)
  have hplace : request.idxOf request[g.firstUse request a] ≤ g.firstUse request a := by
    refine Nat.le_of_not_lt fun hearlier => ?_
    have hother := List.not_of_lt_findIdx hearlier
    simp at hother
  rcases (mem_ancestry_iff (hwalks _ hi)).mp hused with hanc | heq
  · exact Nat.le_trans (Nat.le_of_lt (h a ha _ hi hanc)) hplace
  · rw [← heq] at hplace
    exact hplace

/-- Only repetitions are dropped from a request that lists ancestors first. -/
theorem AncestorsFirst.order_eq (hfirst : g.AncestorsFirst request) (h : g.order request = .ok ordered) :
    ordered = request.eraseDups := by
  have hwalks := exists_order_iff.mp ⟨ordered, h⟩
  refine eq_of_idxOf_lt_imp (nodup_of_order h) (nodup_eraseDups request) (fun i => ?_) fun a ha b hb hlt => ?_
  · rw [mem_order_iff h, List.mem_eraseDups]
  · have ha' := (mem_order_iff h a).mp ha
    have hb' := (mem_order_iff h b).mp hb
    rw [idxOf_order_lt_iff h ha' hb', hfirst.firstUse_eq hwalks ha', hfirst.firstUse_eq hwalks hb'] at hlt
    rw [idxOf_eraseDups_lt_iff]
    rcases hlt with hlt | ⟨_, hanc⟩
    · exact hlt
    · exact hfirst a ha' b hb' hanc

/-- A request has an order unless a walk from one of its resources does not end. The order holds each requested
resource once, ancestors before descendants, and is determined by where resources are first used. Ordering again
changes nothing. -/
theorem order_is_by_first_use (g : Graph n) (request : List (Fin n)) :
    ((∃ e, g.order request = .error e) ↔ ∃ i ∈ request, ¬ g.WalkEnds i) ∧
    ∀ ordered, g.order request = .ok ordered →
      (∀ i, ordered.count i = if i ∈ request then 1 else 0) ∧
      (∀ a ∈ request, ∀ b ∈ request, g.IsAncestor a b → ordered.idxOf a < ordered.idxOf b) ∧
      (∀ a ∈ request, ∀ b ∈ request, ordered.idxOf a < ordered.idxOf b ↔
        g.firstUse request a < g.firstUse request b ∨
          g.firstUse request a = g.firstUse request b ∧ g.IsAncestor a b) ∧
      (g.AncestorsFirst request → ordered = request.eraseDups) ∧
      g.order ordered = .ok ordered := by
  constructor
  · have hends : (∃ ordered, g.order request = .ok ordered) ↔ ∀ i ∈ request, g.WalkEnds i := exists_order_iff
    cases horder : g.order request with
    | ok ordered =>
      have hwalks := hends.mp ⟨ordered, horder⟩
      simpa using hwalks
    | error e =>
      have hnot : ¬ ∀ i ∈ request, g.WalkEnds i := fun hwalks => by
        obtain ⟨ordered, hordered⟩ := hends.mpr hwalks
        rw [horder] at hordered
        cases hordered
      simpa using hnot
  · intro ordered h
    refine ⟨fun i => ?_, fun a ha b hb hab => hab.idxOf_order_lt h ha hb,
      fun a ha b hb => idxOf_order_lt_iff h ha hb, fun hfirst => hfirst.order_eq h, ?_⟩
    · rw [(nodup_of_order h).count]
      simp only [mem_order_iff h]
    · -- The order lists ancestors first, so ordering it again drops repetitions, and it has none.
      have hmem := mem_order_iff h
      have hfirst : g.AncestorsFirst ordered := fun a ha b hb hab =>
        hab.idxOf_order_lt h ((hmem a).mp ha) ((hmem b).mp hb)
      obtain ⟨again, hagain⟩ := exists_order_iff.mpr fun i hi => walkEnds_of_order h hi
      have hsame : ordered.eraseDups = ordered :=
        eq_of_idxOf_lt_imp (nodup_eraseDups ordered) (nodup_of_order h) (fun i => List.mem_eraseDups)
          fun a _ b _ hlt => idxOf_eraseDups_lt_iff ordered |>.mp hlt
      rw [hagain, hfirst.order_eq hagain, hsame]

/-- Folders that are alike in every part. The first holds the second, and the second holds the other two. -/
def folders : Graph 4 where
  resource _ := { kind := "Folder", plural := "folders", type := "example.com/Folder", fields := [], methods := .empty }
  parents
    | 0 => []
    | 1 => [0]
    | 2 => [1]
    | 3 => [1, 2]

/-- The outermost folder is requested late and moves to the front, past the folder between them, which is not
requested. -/
theorem folders_ordered :
    folders.order [3, 2, 0, 3] = .ok [0, 3, 2] ∧ folders.IsAncestor 0 3 ∧ folders.order [0, 3, 2] = .ok [0, 3, 2] := by
  have h : folders.order [3, 2, 0, 3] = .ok [0, 3, 2] := by rfl
  obtain ⟨_, hordered⟩ := order_is_by_first_use folders [3, 2, 0, 3]
  obtain ⟨_, _, hplaces, _, hagain⟩ := hordered _ h
  have huse : folders.firstUse [3, 2, 0, 3] 0 = folders.firstUse [3, 2, 0, 3] 3 := by decide
  rcases (hplaces 0 (by decide) 3 (by decide)).mp (by decide) with hlt | ⟨_, hanc⟩
  · exact absurd huse (Nat.ne_of_lt hlt)
  · exact ⟨h, hanc, hagain⟩

end Graph

end ResourceApi
