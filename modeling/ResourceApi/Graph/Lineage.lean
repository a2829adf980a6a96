import ResourceApi.Error
import ResourceApi.Graph.Basic

/-!
The walk from a resource along first parents, and the paths that come of it.
-/

namespace ResourceApi.Graph

variable {n : Nat}

/-- Walks on from `i` for at most `steps` resources; `walked` holds those behind, the latest first. A walk that ends
gives all resources, the outermost first. A walk that comes back gives them in walking order, the repeated one
once more at the end. -/
def climb (g : Graph n) : Nat → List (Fin n) → Fin n → Except (List (Fin n)) (List (Fin n))
  | 0, walked, i => .error (i :: walked).reverse
  | steps + 1, walked, i =>
    if i ∈ walked then .error (i :: walked).reverse
    else match g.parent? i with
      | none => .ok (i :: walked)
      | some p => g.climb steps (i :: walked) p

/-- The resource and its ancestors, the outermost first. No walk visits more than `n` resources before it ends or
comes back, so the bound on its steps is never what stops it. -/
def lineage (g : Graph n) (i : Fin n) : Except ResourceError (List (Fin n)) :=
  (g.climb (n + 1) [] i).mapError fun walk => ⟨g.kind i, .parentCycle (walk.map g.kind)⟩

/-- Segments of the collections on the way to a resource, the outermost first. -/
def segments (g : Graph n) (i : Fin n) : Except ResourceError (List String) :=
  (g.lineage i).map fun chain => chain.map fun j => (g.resource j).segment

/-- Path of one instance, such as `stores/*/books/*`. -/
def itemPath (g : Graph n) (i : Fin n) : Except ResourceError String :=
  (g.segments i).map fun names => "/*/".intercalate names ++ "/*"

/-- Path of the collection below one instance of the parent, such as `stores/*/books`. A walk that comes back is
reported for the parent. -/
def collectionPath (g : Graph n) (i : Fin n) : Except ResourceError String :=
  match g.parent? i with
  | none => .ok (g.resource i).segment
  | some p => (g.itemPath p).map fun path => path ++ "/" ++ (g.resource i).segment

/-- Template that binds the field `parent` to the collection. -/
def parentTemplate (g : Graph n) (i : Fin n) : Except ResourceError String :=
  (g.collectionPath i).map fun path => "/\x7bparent=" ++ path ++ "\x7d"

end ResourceApi.Graph
