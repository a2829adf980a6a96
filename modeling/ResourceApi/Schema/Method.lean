/-!
The standard methods of a resource and the sets of them that resources enable.
-/

namespace ResourceApi

inductive Method where
  | create | read | update | delete | list | globalList | apply
  deriving DecidableEq, Repr

namespace Method

/-- Every method, in the order in which their parts are generated. -/
def all : List Method := [.create, .read, .update, .delete, .list, .globalList, .apply]

def name : Method → String
  | .create => "create"
  | .read => "read"
  | .update => "update"
  | .delete => "delete"
  | .list => "list"
  | .globalList => "global_list"
  | .apply => "apply"

def ofName? (name : String) : Option Method := all.find? fun m => m.name == name

theorem ofName?_name (m : Method) : ofName? m.name = some m := by cases m <;> decide

theorem mem_all (m : Method) : m ∈ all := by cases m <;> decide

/-- The word that starts the names of the method's messages and RPC. -/
def title : Method → String
  | .create => "Create"
  | .read => "Get"
  | .update => "Update"
  | .delete => "Delete"
  | .list => "List"
  | .globalList => "GlobalList"
  | .apply => "Apply"

end Method

/-- A set of methods, kept in generation order so that equal sets are equal values. -/
structure MethodSet where
  toList : List Method
  sublist : toList.Sublist Method.all

namespace MethodSet

instance : Membership Method MethodSet := ⟨fun ms m => m ∈ ms.toList⟩

instance (m : Method) (ms : MethodSet) : Decidable (m ∈ ms) := inferInstanceAs (Decidable (m ∈ ms.toList))

def ofList (ms : List Method) : MethodSet := ⟨Method.all.filter (· ∈ ms), List.filter_sublist⟩

theorem mem_ofList {m : Method} {ms : List Method} : m ∈ ofList ms ↔ m ∈ ms := by
  change m ∈ Method.all.filter (· ∈ ms) ↔ m ∈ ms
  simp [Method.mem_all m]

private theorem filter_mem_eq {ms ms' : List Method} (h : ms.Sublist ms') (hn : ms'.Nodup) :
    ms'.filter (· ∈ ms) = ms := by
  induction h with
  | slnil => rfl
  | @cons ms ms' m h ih =>
    obtain ⟨hm, hn⟩ := List.nodup_cons.mp hn
    rw [List.filter_cons_of_neg (by simpa using fun hmem => hm (h.subset hmem)), ih hn]
  | @cons_cons ms ms' m h ih =>
    obtain ⟨hm, hn⟩ := List.nodup_cons.mp hn
    have hsame : ms'.filter (· ∈ m :: ms) = ms'.filter (· ∈ ms) := by
      refine List.filter_congr fun x hx => ?_
      have hne : x ≠ m := fun heq => hm (heq ▸ hx)
      simp [hne]
    rw [List.filter_cons_of_pos (by simp), hsame, ih hn]

theorem filter_all (ms : MethodSet) : Method.all.filter (· ∈ ms.toList) = ms.toList :=
  filter_mem_eq ms.sublist (by decide)

/-- In a list only the members count, not their order or number. -/
theorem ofList_eq {ms : MethodSet} {l : List Method} (h : ∀ m, m ∈ l ↔ m ∈ ms.toList) : ofList l = ms := by
  have hfilter : Method.all.filter (· ∈ l) = ms.toList := by
    rw [← filter_all ms]
    exact List.filter_congr fun m _ => decide_eq_decide.mpr (h m)
  cases ms
  simpa only [ofList, mk.injEq] using hfilter

def empty : MethodSet := ⟨[], List.nil_sublist _⟩

def size (ms : MethodSet) : Nat := ms.toList.length

/-- The names of the methods, sorted by code point. -/
def sortedNames (ms : MethodSet) : List String := (ms.toList.map Method.name).mergeSort fun a b => decide (a ≤ b)

end MethodSet

end ResourceApi
