import Mathlib.Data.List.Basic
import ResourceApi.Record.Registry
import ResourceApi.Schema.Method

/-!
The names of generated messages and RPCs. The words that they start and end with tell the parts of a name apart for
every kind, so two names are equal only if they are made from the same parts.
-/

namespace ResourceApi

inductive MessageRole where
  | request | response
  deriving DecidableEq, Repr

def MessageRole.ending : MessageRole → String
  | .request => "Request"
  | .response => "Response"

def Method.messageName (m : Method) (role : MessageRole) (kind : String) : String := m.title ++ kind ++ role.ending

def Method.rpcName (m : Method) (kind : String) : String := m.title ++ kind

/-- No title is the beginning of another one. -/
theorem Method.rpcName_inj {m m' : Method} {kind kind' : String} :
    m.rpcName kind = m'.rpcName kind' ↔ m = m' ∧ kind = kind' := by
  constructor
  · intro h
    have hchars := congrArg String.toList h
    cases m <;> cases m' <;>
      simp [rpcName, title] at hchars ⊢ <;> exact String.toList_inj.mp hchars
  · rintro ⟨rfl, rfl⟩
    rfl

private theorem append_ending_inj {s s' : String} {role role' : MessageRole}
    (h : s ++ role.ending = s' ++ role'.ending) : s = s' ∧ role = role' := by
  have hlast := congrArg (fun t : String => t.toList.getLast?) h
  have hrole : role = role' := by
    cases role <;> cases role' <;> simp [MessageRole.ending] at hlast ⊢
  subst hrole
  have hchars := congrArg String.toList h
  rw [String.toList_append, String.toList_append] at hchars
  exact ⟨String.toList_inj.mp (List.append_cancel_right hchars), rfl⟩

theorem Method.messageName_inj {m m' : Method} {role role' : MessageRole} {kind kind' : String} :
    m.messageName role kind = m'.messageName role' kind' ↔ m = m' ∧ role = role' ∧ kind = kind' := by
  constructor
  · intro h
    obtain ⟨hname, hrole⟩ := append_ending_inj h
    obtain ⟨hm, hkind⟩ := Method.rpcName_inj.mp hname
    exact ⟨hm, hrole, hkind⟩
  · rintro ⟨rfl, rfl, rfl⟩
    rfl

theorem fullName_inj {package name name' : String} :
    fullName package name = fullName package name' ↔ name = name' := by
  unfold fullName
  split_ifs with h
  · rfl
  · rw [← String.toList_inj]
    simp only [String.toList_append, List.append_cancel_left_eq]
    exact String.toList_inj

end ResourceApi
