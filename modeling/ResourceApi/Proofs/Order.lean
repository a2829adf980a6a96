import Mathlib.Data.Finset.Card
import ResourceApi.Graph.Order
import ResourceApi.Proofs.Lineage

/-!
The order of a request: it exists exactly when every requested walk ends, and holds each requested resource once.
-/

namespace ResourceApi

/-- First occurrences are kept once each. -/
theorem nodup_eraseDups {α : Type} [BEq α] [LawfulBEq α] (xs : List α) : xs.eraseDups.Nodup := by
  match xs with
  | [] => simp
  | x :: xs =>
    rw [List.eraseDups_cons, List.nodup_cons, List.mem_eraseDups]
    have hlen : (xs.filter fun y => !y == x).length < xs.length + 1 :=
      Nat.lt_succ_of_le (List.length_filter_le _ _)
    exact ⟨by simp, nodup_eraseDups _⟩
termination_by xs.length

namespace Graph

variable {n : Nat} {g : Graph n} {request ordered : List (Fin n)}

theorem order_eq_ok_iff :
    g.order request = .ok ordered ↔
      ∃ chains, request.mapM g.lineage = .ok chains ∧
        (chains.flatten.filter request.contains).eraseDups = ordered := by
  rw [order, Attempt.bind_eq_ok_iff]
  simp only [pure, Except.pure, Except.ok.injEq]

theorem exists_order_iff : (∃ ordered, g.order request = .ok ordered) ↔ ∀ i ∈ request, g.WalkEnds i := by
  simp only [order_eq_ok_iff, ← exists_lineage_iff_walkEnds, ← Attempt.exists_mapM_eq_ok_iff]
  constructor
  · rintro ⟨_, chains, h, _⟩
    exact ⟨chains, h⟩
  · rintro ⟨chains, h⟩
    exact ⟨_, chains, h, rfl⟩

theorem nodup_of_order (h : g.order request = .ok ordered) : ordered.Nodup := by
  obtain ⟨chains, _, rfl⟩ := order_eq_ok_iff.mp h
  exact nodup_eraseDups _

/-- Every requested resource ends its own lineage, so none is left out. -/
theorem mem_order_iff (h : g.order request = .ok ordered) (i : Fin n) : i ∈ ordered ↔ i ∈ request := by
  obtain ⟨chains, hc, rfl⟩ := order_eq_ok_iff.mp h
  simp only [List.mem_eraseDups, List.mem_filter, List.mem_flatten, List.contains_iff_mem, and_iff_right_iff_imp]
  intro hi
  obtain ⟨k, hk, rfl⟩ := List.mem_iff_getElem.mp hi
  have hall := Attempt.mapM_eq_ok_iff.mp hc
  have hk' : k < chains.length := hall.length_eq ▸ hk
  have hlin : g.IsLineage request[k] chains[k] := lineage_eq_ok_iff.mp (hall.get hk hk')
  refine ⟨chains[k], List.getElem_mem hk', ?_⟩
  rw [hlin.eq_dropLast]
  simp

theorem walkEnds_of_order (h : g.order request = .ok ordered) {i : Fin n} (hi : i ∈ ordered) : g.WalkEnds i :=
  exists_order_iff.mp ⟨ordered, h⟩ i ((mem_order_iff h i).mp hi)

theorem toFinset_order (h : g.order request = .ok ordered) : ordered.toFinset = request.toFinset := by
  ext i
  simp [mem_order_iff h i]

end Graph

end ResourceApi
