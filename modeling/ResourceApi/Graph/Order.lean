import ResourceApi.Graph.Lineage

/-!
The order in which requested resources are compiled.
-/

namespace ResourceApi.Graph

variable {n : Nat}

/-- Each requested resource once, after those of its ancestors that are requested too, otherwise in the order of the
request. Ancestors that are not requested are left out. -/
def order (g : Graph n) (request : List (Fin n)) : Except ResourceError (List (Fin n)) := do
  let chains ← request.mapM g.lineage
  return (chains.flatten.filter request.contains).eraseDups

end ResourceApi.Graph
