import Mathlib.Data.List.Nodup
import ResourceApi.Record.Registry

/-!
Registries extended by entries. Entries are admitted one after another exactly when the names that they bring differ
from each other and from those that are taken, and an extension appends them in order.
-/

namespace ResourceApi

theorem find?_key_eq_some_iff {α κ : Type} [DecidableEq κ] {key : α → κ} {as : List α} (h : (as.map key).Nodup)
    {k : κ} {a : α} : (as.find? fun b => key b = k) = some a ↔ a ∈ as ∧ key a = k := by
  constructor
  · intro hfind
    exact ⟨List.mem_of_find?_eq_some hfind, by simpa using List.find?_some hfind⟩
  · rintro ⟨ha, rfl⟩
    cases hfind : as.find? fun b => key b = key a with
    | none => exact absurd (List.find?_eq_none.mp hfind a ha) (by simp)
    | some b =>
      have hkey : key b = key a := by simpa using List.find?_some hfind
      rw [List.inj_on_of_nodup_map h (List.mem_of_find?_eq_some hfind) ha hkey]

namespace Entry

def message? : Entry → Option Message
  | .importFile _ => none
  | .message m => some m
  | .rpc _ => none

def rpc? : Entry → Option Rpc
  | .importFile _ => none
  | .message _ => none
  | .rpc r => some r

def file? : Entry → Option String
  | .importFile file => some file
  | .message _ => none
  | .rpc _ => none

end Entry

/-- Puts a record at the end, whatever names are taken. -/
def Table.push {α : Type} [Named α] (t : Table α) (a : α) : Table α where
  items := t.items ++ [a]
  taken := Named.name a :: t.taken

namespace Registry

variable {reg reg' : Registry} {e : Entry} {es es' : List Entry}

/-- Makes an entry, whatever names are taken. -/
def put (reg : Registry) : Entry → Registry
  | .importFile file => reg.addImport file
  | .message m => { reg with messages := reg.messages.push m }
  | .rpc r => { reg with rpcs := reg.rpcs.push r }

def Free (reg : Registry) : Entry → Prop
  | .importFile _ => True
  | .message m => m.name ∉ reg.messages.taken
  | .rpc r => r.name ∉ reg.rpcs.taken

theorem enter_eq_ok_iff : reg.enter e = .ok reg' ↔ reg.Free e ∧ reg' = reg.put e := by
  cases e with
  | importFile file => simp [enter, Free, put, eq_comm]
  | message m =>
    by_cases h : m.name ∈ reg.messages.taken
    · simp [enter, addMessage, Table.insert?, Free, Named.name, h]
    · have hinsert : reg.messages.insert? m = some (reg.messages.push m) := Table.insert?_eq_some_iff.mpr ⟨h, rfl⟩
      rw [enter, addMessage, hinsert]
      simp [Free, put, h, eq_comm]
  | rpc r =>
    by_cases h : r.name ∈ reg.rpcs.taken
    · simp [enter, addRpc, Table.insert?, Free, Named.name, h]
    · have hinsert : reg.rpcs.insert? r = some (reg.rpcs.push r) := Table.insert?_eq_some_iff.mpr ⟨h, rfl⟩
      rw [enter, addRpc, hinsert]
      simp [Free, put, h, eq_comm]

def extend (reg : Registry) (es : List Entry) : Registry := es.foldl put reg

/-- Each entry is free once those before it are made. -/
def Admits (reg : Registry) : List Entry → Prop
  | [] => True
  | e :: es => reg.Free e ∧ (reg.put e).Admits es

@[simp] theorem extend_nil : reg.extend [] = reg := rfl

@[simp] theorem extend_cons : reg.extend (e :: es) = (reg.put e).extend es := rfl

theorem extend_append : reg.extend (es ++ es') = (reg.extend es).extend es' := List.foldl_append

theorem admits_append : reg.Admits (es ++ es') ↔ reg.Admits es ∧ (reg.extend es).Admits es' := by
  induction es generalizing reg with
  | nil => simp [Admits]
  | cons e es ih => simp only [List.cons_append, Admits, ih, extend_cons, and_assoc]

theorem addImport_eq (reg : Registry) (file : String) :
    reg.addImport file =
      { reg with imports := if file ∈ reg.imports then reg.imports else reg.imports ++ [file] } := by
  unfold addImport
  split_ifs <;> rfl

@[simp] theorem package_put : (reg.put e).package = reg.package := by cases e <;> simp [put, addImport_eq]

@[simp] theorem fileName_put : (reg.put e).fileName = reg.fileName := by cases e <;> simp [put, addImport_eq]

@[simp] theorem service_put : (reg.put e).service = reg.service := by cases e <;> simp [put, addImport_eq]

@[simp] theorem messages_items_put : (reg.put e).messages.items = reg.messages.items ++ e.message?.toList := by
  cases e <;> simp [put, addImport_eq, Table.push, Entry.message?]

@[simp] theorem messages_taken_put :
    (reg.put e).messages.taken = e.message?.toList.map Message.name ++ reg.messages.taken := by
  cases e <;> simp [put, addImport_eq, Table.push, Entry.message?, Named.name]

@[simp] theorem rpcs_items_put : (reg.put e).rpcs.items = reg.rpcs.items ++ e.rpc?.toList := by
  cases e <;> simp [put, addImport_eq, Table.push, Entry.rpc?]

@[simp] theorem rpcs_taken_put : (reg.put e).rpcs.taken = e.rpc?.toList.map Rpc.name ++ reg.rpcs.taken := by
  cases e <;> simp [put, addImport_eq, Table.push, Entry.rpc?, Named.name]

@[simp] theorem package_extend : (reg.extend es).package = reg.package := by
  induction es generalizing reg with
  | nil => rfl
  | cons e es ih => simp [ih]

@[simp] theorem fileName_extend : (reg.extend es).fileName = reg.fileName := by
  induction es generalizing reg with
  | nil => rfl
  | cons e es ih => simp [ih]

@[simp] theorem service_extend : (reg.extend es).service = reg.service := by
  induction es generalizing reg with
  | nil => rfl
  | cons e es ih => simp [ih]

theorem messages_items_extend : (reg.extend es).messages.items = reg.messages.items ++ es.filterMap Entry.message? := by
  induction es generalizing reg with
  | nil => simp
  | cons e es ih =>
    rw [extend_cons, ih, messages_items_put, List.append_assoc]
    cases e <;> rfl

theorem rpcs_items_extend : (reg.extend es).rpcs.items = reg.rpcs.items ++ es.filterMap Entry.rpc? := by
  induction es generalizing reg with
  | nil => simp
  | cons e es ih =>
    rw [extend_cons, ih, rpcs_items_put, List.append_assoc]
    cases e <;> rfl

private theorem foldl_import_eq (imports files : List String) :
    files.foldl (fun imports file => if file ∈ imports then imports else imports ++ [file]) imports =
      imports ++ (files.filter (· ∉ imports)).eraseDups := by
  induction files generalizing imports with
  | nil => simp
  | cons file files ih =>
    rw [List.foldl_cons, ih]
    by_cases h : file ∈ imports
    · simp [h]
    · rw [if_neg h, List.filter_cons_of_pos (by simpa using h), List.eraseDups_cons, List.filter_filter]
      have hsame : (files.filter fun other => decide (other ∉ imports ++ [file])) =
          files.filter fun other => (!other == file) && decide (other ∉ imports) := by
        refine List.filter_congr fun other _ => ?_
        by_cases heq : other = file <;> simp [heq]
      rw [hsame]
      simp

/-- New files are imported in the order of their first use. -/
theorem imports_extend :
    (reg.extend es).imports = reg.imports ++ ((es.filterMap Entry.file?).filter (· ∉ reg.imports)).eraseDups := by
  rw [← foldl_import_eq]
  induction es generalizing reg with
  | nil => rfl
  | cons e es ih =>
    rw [extend_cons, ih]
    cases e with
    | importFile file =>
      rw [put, addImport_eq]
      rfl
    | message m => rfl
    | rpc r => rfl

private theorem fresh_cons_iff {name : String} {names taken : List String} :
    (name ∉ taken ∧ names.Nodup ∧ ∀ x ∈ names, x ∉ name :: taken) ↔
      (name :: names).Nodup ∧ ∀ x ∈ name :: names, x ∉ taken := by
  rw [List.nodup_cons, List.forall_mem_cons]
  simp only [List.mem_cons, not_or]
  constructor
  · rintro ⟨hname, hnodup, hfresh⟩
    exact ⟨⟨fun hmem => (hfresh name hmem).1 rfl, hnodup⟩, hname, fun x hx => (hfresh x hx).2⟩
  · rintro ⟨⟨hmem, hnodup⟩, hname, hfresh⟩
    exact ⟨hname, hnodup, fun x hx => ⟨fun heq => hmem (heq ▸ hx), hfresh x hx⟩⟩

def messageNames (es : List Entry) : List String := (es.filterMap Entry.message?).map Message.name

def rpcNames (es : List Entry) : List String := (es.filterMap Entry.rpc?).map Rpc.name

theorem mem_messageNames {name : String} : name ∈ messageNames es ↔ ∃ m, .message m ∈ es ∧ m.name = name := by
  have hsome (e : Entry) (m : Message) : e.message? = some m ↔ e = .message m := by
    cases e <;> simp [Entry.message?]
  simp [messageNames, hsome]

theorem mem_rpcNames {name : String} : name ∈ rpcNames es ↔ ∃ r, .rpc r ∈ es ∧ r.name = name := by
  have hsome (e : Entry) (r : Rpc) : e.rpc? = some r ↔ e = .rpc r := by
    cases e <;> simp [Entry.rpc?]
  simp [rpcNames, hsome]

theorem messageNames_cons : messageNames (e :: es) = e.message?.toList.map Message.name ++ messageNames es := by
  cases e <;> rfl

theorem rpcNames_cons : rpcNames (e :: es) = e.rpc?.toList.map Rpc.name ++ rpcNames es := by
  cases e <;> rfl

theorem mem_messages_taken_extend {name : String} :
    name ∈ (reg.extend es).messages.taken ↔ name ∈ messageNames es ∨ name ∈ reg.messages.taken := by
  induction es generalizing reg with
  | nil => simp [messageNames]
  | cons e es ih =>
    rw [extend_cons, ih, messages_taken_put, messageNames_cons]
    simp only [List.mem_append, or_assoc, or_left_comm]

theorem mem_rpcs_taken_extend {name : String} :
    name ∈ (reg.extend es).rpcs.taken ↔ name ∈ rpcNames es ∨ name ∈ reg.rpcs.taken := by
  induction es generalizing reg with
  | nil => simp [rpcNames]
  | cons e es ih =>
    rw [extend_cons, ih, rpcs_taken_put, rpcNames_cons]
    simp only [List.mem_append, or_assoc, or_left_comm]

/-- An entry is refused only if its name is taken. -/
theorem taken_of_enter_eq_error {why : Rejection} (h : reg.enter e = .error why) :
    (∃ m, e = .message m ∧ m.name ∈ reg.messages.taken ∧ why = .messageTaken m.name reg.fileName) ∨
      ∃ r, e = .rpc r ∧ r.name ∈ reg.rpcs.taken ∧ why = .rpcTaken r.name reg.service := by
  cases e with
  | importFile file => cases h
  | message m =>
    by_cases htaken : m.name ∈ reg.messages.taken
    · simp only [enter, addMessage, Table.insert?, Named.name, htaken, if_true, Except.error.injEq] at h
      exact .inl ⟨m, rfl, htaken, h.symm⟩
    · rw [enter_eq_ok_iff.mpr ⟨show reg.Free (.message m) from htaken, rfl⟩] at h
      cases h
  | rpc r =>
    by_cases htaken : r.name ∈ reg.rpcs.taken
    · simp only [enter, addRpc, Table.insert?, Named.name, htaken, if_true, Except.error.injEq] at h
      exact .inr ⟨r, rfl, htaken, h.symm⟩
    · rw [enter_eq_ok_iff.mpr ⟨show reg.Free (.rpc r) from htaken, rfl⟩] at h
      cases h

/-- The names of the messages, and those of the RPCs, are new and differ from each other. -/
theorem admits_iff :
    reg.Admits es ↔
      ((messageNames es).Nodup ∧ ∀ name ∈ messageNames es, name ∉ reg.messages.taken) ∧
        (rpcNames es).Nodup ∧ ∀ name ∈ rpcNames es, name ∉ reg.rpcs.taken := by
  induction es generalizing reg with
  | nil => simp [Admits, messageNames, rpcNames]
  | cons e es ih =>
    rw [Admits, ih]
    cases e with
    | importFile file =>
      rw [Free, true_and, put, addImport_eq]
      rfl
    | message m =>
      rw [← and_assoc, messages_taken_put, rpcs_taken_put]
      exact and_congr fresh_cons_iff Iff.rfl
    | rpc r =>
      rw [← and_assoc, and_comm (a := Free _ _), and_assoc, messages_taken_put, rpcs_taken_put]
      exact and_congr Iff.rfl fresh_cons_iff

end Registry

end ResourceApi
