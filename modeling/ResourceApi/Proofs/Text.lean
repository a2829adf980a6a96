import Mathlib.Tactic.SplitIfs
import ResourceApi.Text.Identifier
import ResourceApi.Text.Lower

/-!
Identifiers as a pattern with every range of characters written out, and texts that are read apart at separators.
Identifiers contain no separators, and lower-casing brings none in: the forms that it can give a character are listed.
-/

namespace ResourceApi.Text

def IsWordHead (c : Char) : Prop := ('A' ≤ c ∧ c ≤ 'Z') ∨ ('a' ≤ c ∧ c ≤ 'z') ∨ c = '_'

def IsWordTail (c : Char) : Prop := IsWordHead c ∨ ('0' ≤ c ∧ c ≤ '9')

instance (c : Char) : Decidable (IsWordHead c) := inferInstanceAs (Decidable (_ ∨ _))

instance (c : Char) : Decidable (IsWordTail c) := inferInstanceAs (Decidable (_ ∨ _))

/-- The whole text matches `[A-Za-z_][A-Za-z0-9_]*`. -/
def IsIdentifier (s : String) : Prop := ∃ c cs, s.toList = c :: cs ∧ IsWordHead c ∧ ∀ d ∈ cs, IsWordTail d

theorem isLower_iff {c : Char} : c.isLower = true ↔ 'a' ≤ c ∧ c ≤ 'z' := by
  change (decide ('a' ≤ c) && decide (c ≤ 'z')) = true ↔ _
  rw [Bool.and_eq_true, decide_eq_true_iff, decide_eq_true_iff]

theorem isAlpha_iff {c : Char} : c.isAlpha = true ↔ ('A' ≤ c ∧ c ≤ 'Z') ∨ ('a' ≤ c ∧ c ≤ 'z') := by
  change (c.isUpper || c.isLower) = true ↔ _
  rw [Bool.or_eq_true, isLower_iff]
  exact or_congr decide_eq_true_iff Iff.rfl

theorem isDigit_iff {c : Char} : c.isDigit = true ↔ '0' ≤ c ∧ c ≤ '9' := by
  change (decide ('0' ≤ c) && decide (c ≤ '9')) = true ↔ _
  rw [Bool.and_eq_true, decide_eq_true_iff, decide_eq_true_iff]

theorem isIdentifierHead_iff {c : Char} : isIdentifierHead c = true ↔ IsWordHead c := by
  rw [isIdentifierHead, Bool.or_eq_true, isAlpha_iff, beq_iff_eq, or_assoc]
  rfl

theorem isIdentifierTail_iff {c : Char} : isIdentifierTail c = true ↔ IsWordTail c := by
  change ((c.isAlpha || c.isDigit) || c == '_') = true ↔ (_ ∨ _ ∨ _) ∨ _
  rw [Bool.or_eq_true, Bool.or_eq_true, isAlpha_iff, isDigit_iff, beq_iff_eq, or_right_comm, or_assoc (c := c = '_')]

theorem isIdentifier_iff {s : String} : isIdentifier s = true ↔ IsIdentifier s := by
  unfold isIdentifier IsIdentifier
  cases s.toList with
  | nil => simp
  | cons c cs =>
    rw [Bool.and_eq_true, isIdentifierHead_iff, List.all_eq_true]
    simp only [isIdentifierTail_iff, List.cons.injEq]
    constructor
    · rintro ⟨hhead, htail⟩
      exact ⟨c, cs, ⟨rfl, rfl⟩, hhead, htail⟩
    · rintro ⟨_, _, ⟨rfl, rfl⟩, hhead, htail⟩
      exact ⟨hhead, htail⟩

/-- Only letters, digits and underscores occur in an identifier. -/
theorem IsIdentifier.isWordTail {s : String} (h : IsIdentifier s) {c : Char} (hc : c ∈ s.toList) : IsWordTail c := by
  obtain ⟨d, ds, hs, hhead, htail⟩ := h
  rw [hs] at hc
  rcases List.mem_cons.mp hc with rfl | hc
  · exact .inl hhead
  · exact htail c hc

/-- The text up to the first occurrence of a character, all of it if there is none. -/
def before (c : Char) (s : String) : String := String.ofList (s.toList.takeWhile (· ≠ c))

/-- The parts between the occurrences of a character. -/
def parts (c : Char) (s : String) : List String := (s.toList.splitOn c).map String.ofList

/-- The variable of a template: the text from a leading slash and opening brace to the first equals sign. -/
def templateVariable? (template : String) : Option String :=
  match template.toList with
  | '/' :: '\x7b' :: rest => if '=' ∈ rest then some (before '=' (String.ofList rest)) else none
  | _ => none

/-- None of the characters that separate names in templates and signatures occurs. -/
def IsPlain (s : String) : Prop := ',' ∉ s.toList ∧ '.' ∉ s.toList ∧ '=' ∉ s.toList

theorem IsIdentifier.isPlain {s : String} (h : IsIdentifier s) : IsPlain s :=
  ⟨fun hc => absurd (h.isWordTail hc) (by decide), fun hc => absurd (h.isWordTail hc) (by decide),
    fun hc => absurd (h.isWordTail hc) (by decide)⟩

private theorem takeWhile_ne_append {c : Char} {cs : List Char} (h : c ∉ cs) (rest : List Char) :
    (cs ++ rest).takeWhile (· ≠ c) = cs ++ rest.takeWhile (· ≠ c) :=
  List.takeWhile_append_of_pos fun _ hd => decide_eq_true fun heq => h (heq ▸ hd)

theorem before_eq_self {c : Char} {s : String} (h : c ∉ s.toList) : before c s = s := by
  have hall := takeWhile_ne_append h []
  rw [List.append_nil, List.takeWhile_nil, List.append_nil] at hall
  rw [before, hall, String.ofList_toList]

theorem before_append {c : Char} {s t : String} (h : c ∉ s.toList) (ht : t.toList.head? = some c) :
    before c (s ++ t) = s := by
  obtain ⟨cs, hcs⟩ := List.head?_eq_some_iff.mp ht
  rw [before, String.toList_append, takeWhile_ne_append h, hcs, List.takeWhile_cons_of_neg (by simp),
    List.append_nil, String.ofList_toList]

theorem templateVariable?_eq {name pattern : String} (h : '=' ∉ name.toList) :
    templateVariable? ("/\x7b" ++ name ++ "=" ++ pattern ++ "\x7d") = some name := by
  have hchars : ("/\x7b" ++ name ++ "=" ++ pattern ++ "\x7d").toList =
      '/' :: '\x7b' :: (name ++ ("=" ++ (pattern ++ "\x7d"))).toList := by
    simp [String.toList_append]
  rw [templateVariable?, hchars]
  simp only [String.ofList_toList]
  rw [if_pos (by simp), before_append h (by simp)]

theorem parts_intercalate {c : Char} {names : List String} (h : ∀ s ∈ names, c ∉ s.toList) (hne : names ≠ []) :
    parts c ((String.singleton c).intercalate names) = names := by
  have hlists : ∀ cs ∈ names.map String.toList, c ∉ cs := List.forall_mem_map.mpr h
  rw [parts, String.toList_intercalate, String.toList_singleton, List.splitOn_intercalate c hlists (by simpa using hne),
    List.map_map]
  simp

/-- A fact about ASCII characters can be checked code by code. -/
theorem forall_ascii {P : Char → Prop} (h : ∀ k < 0x80, P (Char.ofNat k)) {c : Char} (hascii : c.toNat < 0x80) :
    P c := by
  have hcode := h c.toNat hascii
  rwa [Char.ofNat_toNat] at hcode

private theorem toLower_eq_self {c : Char} (hascii : c.toNat < 0x80) (h : c.toLower.isLower = false) :
    c.toLower = c :=
  forall_ascii (P := fun c => c.toLower.isLower = false → c.toLower = c) (by decide) hascii h

/-- The small forms of the table are characters outside ASCII, apart from that of the Kelvin sign. -/
theorem lower?_cases {r : CaseRun} (hr : r ∈ capitalRuns) {k m : Nat} (h : r.lower? k = some m) :
    k = 0x212A ∧ m = 'k'.toNat ∨ 0x80 ≤ m ∧ m.isValidChar := by
  have hruns : ∀ r ∈ capitalRuns, r.first = 0x212A ∧ r.last = 0x212A ∧ r.first + r.shift = 'k'.toNat ∨
      0x80 ≤ r.first + r.shift ∧ (r.last + r.shift < 0xD800 ∨ 0xDFFF < r.first + r.shift) ∧
        r.last + r.shift < 0x110000 := by decide +kernel
  unfold CaseRun.lower? at h
  split_ifs at h with hk
  obtain rfl := Option.some.inj h
  unfold Nat.isValidChar
  rcases hruns r hr with ⟨hfirst, hlast, hkelvin⟩ | ⟨hlow, hgap, hhigh⟩
  · exact .inl (by omega)
  · exact .inr (by omega)

/-- What the small form of a character can be. -/
inductive SmallForm : Char → List Char → Prop where
  | ascii {d : Char} (hd : d.toNat < 0x80) : SmallForm d [d.toLower]
  | dotted : SmallForm '\u0130' ['i', '\u0307']
  | kelvin : SmallForm '\u212A' ['k']
  | outside {d c : Char} (hd : 0x80 ≤ d.toNat) (hc : 0x80 ≤ c.toNat) : SmallForm d [c]

theorem smallForm_lowerChar (d : Char) : SmallForm d (lowerChar d) := by
  rw [lowerChar]
  split_ifs with hascii hdot
  · exact .ascii hascii
  · obtain rfl : d = '\u0130' := Char.toNat_inj.mp hdot
    exact .dotted
  · have hd : 0x80 ≤ d.toNat := Nat.le_of_not_lt hascii
    cases htable : capitalRuns.findSome? (·.lower? d.toNat) with
    | none => exact .outside hd hd
    | some m =>
      obtain ⟨r, hr, hlower⟩ := List.exists_of_findSome?_eq_some htable
      rcases lower?_cases hr hlower with ⟨hkelvin, rfl⟩ | ⟨hm, hvalid⟩
      · obtain rfl : d = '\u212A' := Char.toNat_inj.mp hkelvin
        exact .kelvin
      · have hcode : (Char.ofNat m).toNat = m := by
          rw [Char.ofNat, dif_pos hvalid]
          rfl
        exact .outside hd (by omega)

/-- Whatever comes before and after it, a character is put into one of its small forms. -/
theorem exists_lowerFrom_cons (cased : Bool) (d : Char) (rest : List Char) :
    ∃ small now, SmallForm d small ∧ lowerFrom cased (d :: rest) = small ++ lowerFrom now rest := by
  rw [lowerFrom]
  by_cases hsigma : d.toNat = 0x3A3
  · rw [if_pos hsigma]
    exact ⟨[_], _, .outside (by omega) (by split <;> decide), rfl⟩
  · rw [if_neg hsigma]
    exact ⟨_, _, smallForm_lowerChar d, rfl⟩

/-- An ASCII character comes from one of ASCII, from the capital I with a dot above or from the Kelvin sign. -/
theorem SmallForm.ascii_cases {c d : Char} {small : List Char} (h : SmallForm d small) (hc : c ∈ small)
    (hascii : c.toNat < 0x80) : d.toNat < 0x80 ∧ c = d.toLower ∨ d = '\u0130' ∧ c = 'i' ∨ d = '\u212A' ∧ c = 'k' := by
  cases h with
  | ascii hd => exact .inl ⟨hd, List.mem_singleton.mp hc⟩
  | dotted =>
    simp only [List.mem_cons, List.not_mem_nil, or_false] at hc
    rcases hc with rfl | rfl
    · exact .inr (.inl ⟨rfl, rfl⟩)
    · exact absurd hascii (by decide)
  | kelvin => exact .inr (.inr ⟨rfl, List.mem_singleton.mp hc⟩)
  | outside _ houtside =>
    obtain rfl := List.mem_singleton.mp hc
    exact absurd hascii (Nat.not_lt.mpr houtside)

theorem SmallForm.eq_of_mem {c d : Char} {small : List Char} (h : SmallForm d small) (hc : c ∈ small)
    (hascii : c.toNat < 0x80) (hsmall : c.isLower = false) : c = d := by
  rcases h.ascii_cases hc hascii with ⟨hd, rfl⟩ | ⟨_, rfl⟩ | ⟨_, rfl⟩
  · exact toLower_eq_self hd hsmall
  · exact absurd hsmall (by decide)
  · exact absurd hsmall (by decide)

theorem mem_of_mem_lowerFrom {c : Char} (hascii : c.toNat < 0x80) (hsmall : c.isLower = false) {cased : Bool}
    {s : List Char} (h : c ∈ lowerFrom cased s) : c ∈ s := by
  induction s generalizing cased with
  | nil => exact h
  | cons d rest ih =>
    obtain ⟨small, now, hform, hlower⟩ := exists_lowerFrom_cons cased d rest
    rw [hlower, List.mem_append] at h
    rcases h with h | h
    · exact hform.eq_of_mem h hascii hsmall ▸ List.mem_cons_self
    · exact List.mem_cons_of_mem d (ih h)

/-- Lower-casing brings in no ASCII characters but small letters. -/
theorem mem_of_mem_lower {c : Char} (hascii : c.toNat < 0x80) (hsmall : c.isLower = false) {s : String}
    (h : c ∈ (lower s).toList) : c ∈ s.toList := by
  rw [lower, String.toList_ofList] at h
  exact mem_of_mem_lowerFrom hascii hsmall h

theorem toList_lower {s : String} (h : ∀ c ∈ s.toList, c.toNat < 0x80) :
    (lower s).toList = s.toList.map Char.toLower := by
  rw [lower, String.toList_ofList, lowerChars_of_ascii h]

end ResourceApi.Text
