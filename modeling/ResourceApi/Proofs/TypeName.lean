import Mathlib.Data.List.TakeWhile
import ResourceApi.Proofs.Text
import ResourceApi.Schema.Scalar

/-!
Names of scalar types. Blanks around a name and the case of its letters do not count, but its letters are ASCII letters.
Two other characters have small forms with ASCII letters in them, and neither of these forms occurs in a name.
-/

namespace ResourceApi

namespace Text

variable {d : Char} {s core rest : List Char} {p : Char → Bool} {text name : String}

def IsAscii (text : String) : Prop := ∀ c ∈ text.toList, c.toNat < 0x80

instance (text : String) : Decidable (IsAscii text) := List.decidableBAll _ text.toList

/-- The part of a text between its outer runs of characters of a class. -/
structure IsTrimmed (p : Char → Bool) (s core : List Char) : Prop where
  split : ∃ lead trail, s = lead ++ core ++ trail ∧ (∀ c ∈ lead, p c = true) ∧ ∀ c ∈ trail, p c = true
  first : ∀ c, core.head? = some c → p c = false
  last : ∀ c, core.getLast? = some c → p c = false

/-- The text without the blanks around it. -/
def IsStripped (text core : String) : Prop := IsTrimmed isBlank text.toList core.toList

theorem dropWhile_eq_iff :
    s.dropWhile p = rest ↔
      (∃ lead, s = lead ++ rest ∧ ∀ c ∈ lead, p c = true) ∧ ∀ c, rest.head? = some c → p c = false := by
  constructor
  · rintro rfl
    refine ⟨⟨s.takeWhile p, List.takeWhile_append_dropWhile.symm, fun c hc => List.mem_takeWhile_imp hc⟩, ?_⟩
    intro c hc
    have hnot := s.head?_dropWhile_not p
    rwa [hc] at hnot
  · rintro ⟨⟨lead, rfl, hlead⟩, hhead⟩
    rw [List.dropWhile_append_of_pos hlead]
    cases rest with
    | nil => rfl
    | cons c rest => exact List.dropWhile_cons_of_neg (by simp [hhead c rfl])

theorem isTrimmed_trimBy (p : Char → Bool) (s : List Char) : IsTrimmed p s (trimBy p s) := by
  obtain ⟨⟨lead, hlead, hleads⟩, hfirst⟩ := dropWhile_eq_iff.mp (rfl : s.dropWhile p = s.dropWhile p)
  have hreverse : (s.dropWhile p).reverse.dropWhile p = (trimBy p s).reverse := (List.reverse_reverse _).symm
  obtain ⟨⟨trail, htrail, htrails⟩, hlast⟩ := dropWhile_eq_iff.mp hreverse
  have hrest : s.dropWhile p = trimBy p s ++ trail.reverse := by
    rw [← List.reverse_inj, htrail, List.reverse_append, List.reverse_reverse]
  refine ⟨⟨lead, trail.reverse, ?_, hleads, by simpa using htrails⟩, ?_, ?_⟩
  · rw [List.append_assoc, ← hrest]
    exact hlead
  · intro c hc
    exact hfirst c (by rw [hrest, List.head?_append, hc, Option.some_or])
  · intro c hc
    exact hlast c (by rw [List.head?_reverse, hc])

theorem IsTrimmed.eq_trimBy (h : IsTrimmed p s core) : core = trimBy p s := by
  obtain ⟨⟨lead, trail, rfl, hlead, htrail⟩, hfirst, hlast⟩ := h
  cases core with
  | nil =>
    have hall : (lead ++ [] ++ trail).dropWhile p = [] := by
      rw [List.append_nil, List.dropWhile_append_of_pos hlead, List.dropWhile_eq_nil_iff]
      exact htrail
    rw [trimBy, hall]
    rfl
  | cons c core =>
    have hfront : (lead ++ c :: core ++ trail).dropWhile p = c :: core ++ trail :=
      dropWhile_eq_iff.mpr ⟨⟨lead, List.append_assoc _ _ _, hlead⟩, hfirst⟩
    have hback : (c :: core ++ trail).reverse.dropWhile p = (c :: core).reverse := by
      refine dropWhile_eq_iff.mpr ⟨⟨trail.reverse, List.reverse_append, by simpa using htrail⟩, ?_⟩
      intro d hd
      exact hlast d (by rwa [List.head?_reverse] at hd)
    rw [trimBy, hfront, hback, List.reverse_reverse]

theorem isStripped_iff {core : String} : IsStripped text core ↔ core = strip text := by
  constructor
  · intro h
    rw [strip, ← h.eq_trimBy, String.ofList_toList]
  · rintro rfl
    rw [IsStripped, strip, String.toList_ofList]
    exact isTrimmed_trimBy isBlank text.toList

theorem SmallForm.exists_mem {small : List Char} (h : SmallForm d small) (hd : 0x80 ≤ d.toNat) :
    ∃ c ∈ small, 0x80 ≤ c.toNat ∨ c = 'k' := by
  cases h with
  | ascii hascii => exact absurd hascii (Nat.not_lt.mpr hd)
  | dotted => exact ⟨'\u0307', by decide, .inl (by decide)⟩
  | kelvin => exact ⟨'k', by decide, .inr rfl⟩
  | @outside _ c _ hc => exact ⟨c, List.mem_singleton_self c, .inl hc⟩

/-- A character outside ASCII still shows in the small letters. -/
theorem exists_mem_lowerFrom (cased : Bool) (houtside : 0x80 ≤ d.toNat) (hd : d ∈ s) :
    ∃ c ∈ lowerFrom cased s, 0x80 ≤ c.toNat ∨ c = 'k' := by
  induction s generalizing cased with
  | nil => cases hd
  | cons b rest ih =>
    obtain ⟨small, now, hform, hlower⟩ := exists_lowerFrom_cons cased b rest
    rw [hlower]
    rcases List.mem_cons.mp hd with rfl | hd
    · obtain ⟨c, hc, hshows⟩ := hform.exists_mem houtside
      exact ⟨c, List.mem_append_left _ hc, hshows⟩
    · obtain ⟨c, hc, hshows⟩ := ih now hd
      exact ⟨c, List.mem_append_right _ hc, hshows⟩

/-- Two characters outside ASCII have ASCII letters in their small forms. -/
theorem exists_letter_lower_iff (h : 0x80 ≤ d.toNat) :
    (∃ c ∈ (lower (String.singleton d)).toList, c.isAlpha = true) ↔ d = '\u0130' ∨ d = '\u212A' := by
  constructor
  · rintro ⟨c, hc, hletter⟩
    obtain ⟨small, now, hform, hlower⟩ := exists_lowerFrom_cons false d []
    rw [lower, String.toList_singleton, String.toList_ofList, lowerChars, hlower, lowerFrom, List.append_nil] at hc
    have hascii : c.toNat < 0x80 := by
      rcases isAlpha_iff.mp hletter with ⟨_, hz⟩ | ⟨_, hz⟩
      · exact Nat.lt_of_le_of_lt hz (by decide)
      · exact Nat.lt_of_le_of_lt hz (by decide)
    rcases hform.ascii_cases hc hascii with ⟨hd, _⟩ | ⟨hdotted, _⟩ | ⟨hkelvin, _⟩
    · exact absurd hd (Nat.not_lt.mpr h)
    · exact .inl hdotted
    · exact .inr hkelvin
  · rintro (rfl | rfl)
    · exact ⟨'i', by decide, by decide⟩
    · exact ⟨'k', by decide, by decide⟩

theorem lower_eq_toLower (h : IsAscii text) : lower text = text.toLower := by
  rw [← String.toList_inj, toList_lower h]
  exact String.toList_map.symm

/-- A text in small letters from which `k` is missing comes from ASCII only. -/
theorem lower_eq_iff (hname : IsAscii name) (hk : 'k' ∉ name.toList) :
    lower text = name ↔ IsAscii text ∧ text.toLower = name := by
  constructor
  · rintro rfl
    have hascii : IsAscii text := by
      intro d hd
      by_contra houtside
      obtain ⟨c, hc, hshows⟩ := exists_mem_lowerFrom false (Nat.le_of_not_lt houtside) hd
      have hmem : c ∈ (lower text).toList := by rwa [lower, String.toList_ofList]
      rcases hshows with hshows | rfl
      · exact Nat.not_lt.mpr hshows (hname c hmem)
      · exact hk hmem
    exact ⟨hascii, (lower_eq_toLower hascii).symm⟩
  · rintro ⟨hascii, rfl⟩
    exact lower_eq_toLower hascii

end Text

namespace ScalarType

variable {s : ScalarType} {t name : String}

theorem isAscii_name (s : ScalarType) : Text.IsAscii s.name := by
  cases s <;> decide

theorem k_not_mem_name (s : ScalarType) : 'k' ∉ s.name.toList := by
  cases s <;> decide

theorem ofName?_eq_some_iff : ofName? name = some s ↔ name = s.name := by
  constructor
  · intro h
    have hname := List.find?_some h
    exact (beq_iff_eq.mp hname).symm
  · rintro rfl
    exact ofName?_name s

theorem ofTypeName?_eq_some_iff :
    ofTypeName? t = some s ↔
      Text.lower (Text.strip t) = s.name ∨ Text.lower (Text.strip t) = "bool" ∧ s = .boolean := by
  have hbool : "bool" ≠ s.name := by cases s <;> decide
  rw [ofTypeName?]
  split_ifs with hshort
  · rw [hshort]
    simp [hbool, eq_comm]
  · rw [ofName?_eq_some_iff]
    simp [hshort]

/-- In the name of a type that exists, blanks around it and letter case aside, there are ASCII characters only. -/
theorem ofTypeName?_eq_some_iff_ascii :
    ofTypeName? t = some s ↔
      Text.IsAscii (Text.strip t) ∧
        ((Text.strip t).toLower = s.name ∨ (Text.strip t).toLower = "bool" ∧ s = .boolean) := by
  rw [ofTypeName?_eq_some_iff, Text.lower_eq_iff s.isAscii_name s.k_not_mem_name,
    Text.lower_eq_iff (by decide) (by decide), and_assoc, ← and_or_left]

theorem ofTypeName?_of_outside {c : Char} (hc : c ∈ (Text.strip t).toList) (houtside : 0x80 ≤ c.toNat) :
    ofTypeName? t = none := by
  rw [Option.eq_none_iff_forall_ne_some]
  intro s hs
  have hascii := (ofTypeName?_eq_some_iff_ascii.mp hs).1 c hc
  omega

/-- A text names a type exactly if it is the name of that type, or the short name of booleans, in ASCII letters of
either case and with any blanks around it. So no other character can stand for a letter, although two of them have
ASCII letters in their small forms. -/
theorem named_in_ascii_letters :
    (∀ t s, ofTypeName? t = some s ↔ ∃ core, Text.IsStripped t core ∧ Text.IsAscii core ∧
      (core.toLower = s.name ∨ core.toLower = "bool" ∧ s = .boolean)) ∧
    (∀ t, ofTypeName? t = none ↔ ∀ core, Text.IsStripped t core → Text.IsAscii core →
      core.toLower ≠ "bool" ∧ ∀ s : ScalarType, core.toLower ≠ s.name) ∧
    (∀ t core, Text.IsStripped t core → (∃ d ∈ core.toList, 0x80 ≤ d.toNat) → ofTypeName? t = none) ∧
    ∀ d : Char, 0x80 ≤ d.toNat →
      ((∃ c ∈ (Text.lower (String.singleton d)).toList, c.isAlpha = true) ↔ d = '\u0130' ∨ d = '\u212A') := by
  refine ⟨?_, ?_, ?_, fun d => Text.exists_letter_lower_iff⟩
  · intro t s
    simp only [Text.isStripped_iff, exists_eq_left, ofTypeName?_eq_some_iff_ascii]
  · intro t
    simp only [Text.isStripped_iff, forall_eq, Option.eq_none_iff_forall_ne_some, ne_eq, ofTypeName?_eq_some_iff_ascii]
    constructor
    · intro h hascii
      exact ⟨fun hbool => h .boolean ⟨hascii, .inr ⟨hbool, rfl⟩⟩, fun s hname => h s ⟨hascii, .inl hname⟩⟩
    · rintro h s ⟨hascii, hname | ⟨hbool, _⟩⟩
      · exact (h hascii).2 s hname
      · exact (h hascii).1 hbool
  · rintro t core hcore ⟨d, hd, houtside⟩
    rw [Text.isStripped_iff.mp hcore] at hd
    exact ofTypeName?_of_outside hd houtside

/-- An ideographic space and an information separator are blanks. A capital I with a dot above is no I, although its
small form starts with one. -/
theorem int32_between_blanks :
    Text.IsStripped "\u3000INT32\x1c" "INT32" ∧ ofTypeName? "\u3000INT32\x1c" = some .int32 ∧
      Text.lower "\u0130nt32" = "i\u0307nt32" ∧ ofTypeName? "\u0130nt32" = none := by
  obtain ⟨hsome, _, houtside, _⟩ := named_in_ascii_letters
  have hblanks : Text.IsStripped "\u3000INT32\x1c" "INT32" := Text.isStripped_iff.mpr (by decide)
  have hdotted : Text.IsStripped "\u0130nt32" "\u0130nt32" := Text.isStripped_iff.mpr (by decide)
  have hname : "INT32".toLower = int32.name := by
    rw [← Text.lower_eq_toLower (by decide)]
    decide
  refine ⟨hblanks, (hsome _ _).mpr ⟨"INT32", hblanks, by decide, .inl hname⟩, by decide, ?_⟩
  exact houtside _ _ hdotted ⟨'\u0130', by decide, by decide⟩

end ScalarType

end ResourceApi
