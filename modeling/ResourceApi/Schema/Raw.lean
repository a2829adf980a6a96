/-!
Unchecked data, as it comes from a reader of some data format, and the faults found in it.
-/

namespace ResourceApi

/-- A value of unknown shape. `binary m e` is the number `m * 2 ^ e` as it comes from a floating-point format, of which
`notFinite` stands for the infinities and what is no number. `known` is a resource that was read before. -/
inductive Raw where
  | null
  | bool (value : Bool)
  | int (value : Int)
  | binary (mantissa exponent : Int)
  | notFinite
  | text (value : String)
  | list (items : List Raw)
  | object (members : List (String × Raw))
  | known (index : Nat)
  deriving Inhabited

inductive PathStep where
  | key (name : String)
  | index (i : Nat)
  deriving DecidableEq, Repr

inductive FaultKind where
  | notObject | missing | notText | notInteger | badNumeral | notFinite | fractional | tooLarge | notPositive
  | notSequence | notSet | unknownMethod | tooDeep
  deriving DecidableEq, Repr

/-- Something wrong at one place of a raw value. -/
structure Fault where
  kind : FaultKind
  path : List PathStep
  deriving DecidableEq, Repr

/-- A value, or all faults that stand in its way, in the order of the places where they are. -/
inductive Checked (α : Type) where
  | ok (value : α)
  | faulty (faults : List Fault)

namespace Checked

/-- Faults of the function and of the argument are all kept. -/
instance : Applicative Checked where
  pure := .ok
  seq f a := match f, a () with
    | .ok f, .ok a => .ok (f a)
    | .ok _, .faulty fs => .faulty fs
    | .faulty fs, .ok _ => .faulty fs
    | .faulty fs, .faulty gs => .faulty (fs ++ gs)

def fault {α : Type} (kind : FaultKind) : Checked α := .faulty [⟨kind, []⟩]

/-- Moves the faults below a step of their paths. -/
def under {α : Type} (step : PathStep) : Checked α → Checked α
  | .ok value => .ok value
  | .faulty fs => .faulty (fs.map fun f => { f with path := step :: f.path })

/-- The values of a sequence whose first element has the given index, with the faults of all elements. -/
def elements {α : Type} (index : Nat) : List (Checked α) → Checked (List α)
  | [] => .ok []
  | c :: cs => List.cons <$> c.under (.index index) <*> elements (index + 1) cs

end Checked

end ResourceApi
