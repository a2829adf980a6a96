import ResourceApi.Schema.Resource

/-!
Resources and their parents. Resources are told apart by identity, so two of them may be alike in every part.
-/

namespace ResourceApi

/-- A graph of `n` resources. Nothing keeps a resource from being its own ancestor. -/
structure Graph (n : Nat) where
  resource : Fin n → Resource
  parents : Fin n → List (Fin n)

namespace Graph

variable {n : Nat}

/-- Only the first parent counts for paths and for order. -/
def parent? (g : Graph n) (i : Fin n) : Option (Fin n) := (g.parents i).head?

def kind (g : Graph n) (i : Fin n) : String := (g.resource i).kind

end Graph

end ResourceApi
