import Mathlib.Data.List.Chain
import ResourceApi.Proofs.Text
import ResourceApi.Schema.Resource

/-!
Names made of words and acronyms, in snake case. An underscore comes where one piece meets the next and nowhere inside a
piece. Only where an acronym that ends in a letter meets another acronym does nothing show that a new piece begins.
-/

namespace ResourceApi

namespace Text

variable {b c l : Char} {s p q : String} {cs rest : List Char} {pieces : List String}

/-- The whole text matches `[A-Z][a-z][a-z0-9]*`. -/
def IsWord (s : String) : Prop :=
  ∃ c d cs, s.toList = c :: d :: cs ∧ c.isUpper = true ∧ d.isLower = true ∧
    ∀ x ∈ cs, x.isLower = true ∨ x.isDigit = true

/-- The whole text matches `[A-Z]+[0-9]*`. -/
def IsAcronym (s : String) : Prop :=
  ∃ c capitals digits, s.toList = c :: (capitals ++ digits) ∧ c.isUpper = true ∧ (∀ x ∈ capitals, x.isUpper = true) ∧
    ∀ x ∈ digits, x.isDigit = true

def IsPiece (s : String) : Prop := IsWord s ∨ IsAcronym s

def EndsInLetter (s : String) : Prop := ∃ l, s.toList.getLast? = some l ∧ l.isAlpha = true

/-- Two acronyms of which the first does not end in a digit run into each other. -/
def RunTogether (p q : String) : Prop := IsAcronym p ∧ EndsInLetter p ∧ IsAcronym q

theorem isUpper_iff_toNat : c.isUpper = true ↔ 65 ≤ c.toNat ∧ c.toNat ≤ 90 := decide_eq_true_iff

theorem isLower_iff_toNat : c.isLower = true ↔ 97 ≤ c.toNat ∧ c.toNat ≤ 122 := isLower_iff

theorem isDigit_iff_toNat : c.isDigit = true ↔ 48 ≤ c.toNat ∧ c.toNat ≤ 57 := isDigit_iff

theorem isUpper_eq_false (h : c.isLower = true ∨ c.isDigit = true) : c.isUpper = false := by
  rw [isLower_iff_toNat, isDigit_iff_toNat] at h
  rw [Bool.eq_false_iff, Ne, isUpper_iff_toNat]
  omega

theorem isLower_eq_false (h : c.isUpper = true ∨ c.isDigit = true) : c.isLower = false := by
  rw [isUpper_iff_toNat, isDigit_iff_toNat] at h
  rw [Bool.eq_false_iff, Ne, isLower_iff_toNat]
  omega

theorem isDigit_eq_false (h : c.isUpper = true) : c.isDigit = false := by
  rw [isUpper_iff_toNat] at h
  rw [Bool.eq_false_iff, Ne, isDigit_iff_toNat]
  omega

theorem startsWord_of_not_isUpper {after : Option Char} (h : c.isUpper = false) : startsWord b c after = false := by
  rw [startsWord, h, Bool.false_and]

/-- Behind a capital a word starts only with a small letter in second place. -/
theorem startsWord_of_isUpper {after : Option Char} (hb : b.isUpper = true) (hc : c.isUpper = true) :
    startsWord b c after = after.any Char.isLower := by
  rw [startsWord, hb, hc, isLower_eq_false (.inl hb), isDigit_eq_false hb]
  simp

theorem startsWord_of_isLower_or_isDigit {after : Option Char} (hb : b.isLower = true ∨ b.isDigit = true)
    (hc : c.isUpper = true) : startsWord b c after = true := by
  rw [startsWord, hc]
  rcases hb with hb | hb <;> simp [hb]

theorem separate_append_of_not_isUpper (h : ∀ x ∈ cs, x.isUpper = false) :
    separate b (cs ++ rest) = cs ++ separate (cs.getLastD b) rest := by
  induction cs generalizing b with
  | nil => rfl
  | cons c cs ih =>
    obtain ⟨hc, hcs⟩ := List.forall_mem_cons.mp h
    rw [List.cons_append, separate, startsWord_of_not_isUpper hc, ih hcs, List.getLastD_cons]
    rfl

theorem separate_append_of_isUpper (hb : b.isUpper = true) (h : ∀ x ∈ cs, x.isUpper = true)
    (hrest : rest.head?.any Char.isLower = false) :
    separate b (cs ++ rest) = cs ++ separate (cs.getLastD b) rest := by
  induction cs generalizing b with
  | nil => rfl
  | cons c cs ih =>
    obtain ⟨hc, hcs⟩ := List.forall_mem_cons.mp h
    have hafter : (cs ++ rest).head?.any Char.isLower = false := by
      cases cs with
      | nil => exact hrest
      | cons d cs => exact isLower_eq_false (.inl (List.forall_mem_cons.mp hcs).1)
    rw [List.cons_append, separate, startsWord_of_isUpper hb hc, hafter, ih hc hcs, List.getLastD_cons]
    rfl

theorem IsWord.last (h : IsWord s) (hlast : s.toList.getLast? = some l) : l.isLower = true ∨ l.isDigit = true := by
  obtain ⟨c, d, cs, hs, _, hd, hcs⟩ := h
  rw [hs, List.getLast?_cons_cons] at hlast
  exact List.forall_mem_cons.mpr ⟨.inl hd, hcs⟩ l (List.mem_of_getLast? hlast)

theorem IsAcronym.capital_or_digit (h : IsAcronym s) : ∀ x ∈ s.toList, x.isUpper = true ∨ x.isDigit = true := by
  obtain ⟨c, capitals, digits, hs, hc, hcapitals, hdigits⟩ := h
  intro x hx
  simp only [hs, List.mem_cons, List.mem_append] at hx
  rcases hx with rfl | hx | hx
  · exact .inl hc
  · exact .inl (hcapitals x hx)
  · exact .inr (hdigits x hx)

/-- A piece starts with a capital and is left whole, as long as no small letter comes behind it. -/
theorem IsPiece.separate_append (h : IsPiece s) (rest : List Char) (hrest : rest.head?.any Char.isLower = false) :
    ∃ c cs, s.toList = c :: cs ∧ c.isUpper = true ∧
      separate c (cs ++ rest) = cs ++ separate (cs.getLastD c) rest := by
  rcases h with ⟨c, d, cs, hs, hc, hd, hcs⟩ | ⟨c, capitals, digits, hs, hc, hcapitals, hdigits⟩
  · refine ⟨c, d :: cs, hs, hc, separate_append_of_not_isUpper ?_⟩
    exact fun x hx => isUpper_eq_false (List.forall_mem_cons.mpr ⟨.inl hd, hcs⟩ x hx)
  · have hbehind : (digits ++ rest).head?.any Char.isLower = false := by
      cases digits with
      | nil => exact hrest
      | cons d digits => exact isLower_eq_false (.inr (List.forall_mem_cons.mp hdigits).1)
    have hnumber : ∀ x ∈ digits, x.isUpper = false := fun x hx => isUpper_eq_false (.inr (hdigits x hx))
    refine ⟨c, capitals ++ digits, hs, hc, ?_⟩
    rw [List.append_assoc, separate_append_of_isUpper hc hcapitals hbehind, separate_append_of_not_isUpper hnumber,
      List.append_assoc]
    simp [List.getLastD_eq_getLast?]

/-- Where two pieces meet a word starts, unless they run together. -/
theorem startsWord_of_not_runTogether (hp : IsPiece p) (hq : IsPiece q) (hpq : ¬ RunTogether p q)
    (hlast : p.toList.getLast? = some b) (hfirst : q.toList = c :: cs) (hc : c.isUpper = true) :
    startsWord b c (cs ++ rest).head? = true := by
  rcases hp with hword | hacronym
  · exact startsWord_of_isLower_or_isDigit (hword.last hlast) hc
  · rcases hacronym.capital_or_digit b (List.mem_of_getLast? hlast) with hb | hb
    · rcases hq with ⟨c', d, cs', hq, _, hd, _⟩ | hq
      · rw [startsWord_of_isUpper hb hc]
        rw [hfirst] at hq
        obtain ⟨_, rfl⟩ := List.cons.inj hq
        exact hd
      · refine absurd ⟨hacronym, ⟨b, hlast, ?_⟩, hq⟩ hpq
        exact Bool.or_eq_true_iff.mpr (.inl hb)
    · exact startsWord_of_isLower_or_isDigit (.inr hb) hc

/-- The first piece of a name is followed by an underscore, if another one follows. -/
theorem separateWords_append (hp : IsPiece p) (hq : IsPiece q) (hpq : ¬ RunTogether p q) :
    separateWords (p.toList ++ (q.toList ++ rest)) = p.toList ++ '_' :: separateWords (q.toList ++ rest) := by
  obtain ⟨c', cs', hfirst, hc', _⟩ := hq.separate_append [] rfl
  have hcapital : (q.toList ++ rest).head?.any Char.isLower = false := by
    rw [hfirst]
    exact isLower_eq_false (.inl hc')
  obtain ⟨c, cs, hs, _, hwhole⟩ := hp.separate_append _ hcapital
  have hlast : p.toList.getLast? = some (cs.getLastD c) := by
    rw [hs, List.getLast?_cons, List.getLastD_eq_getLast?]
  have hstart : startsWord (cs.getLastD c) c' (cs' ++ rest).head? = true :=
    startsWord_of_not_runTogether hp hq hpq hlast hfirst hc'
  rw [hs, List.cons_append, separateWords, hwhole, hfirst, List.cons_append, separate, if_pos hstart]
  rfl

theorem IsPiece.separateWords_eq (h : IsPiece s) : separateWords s.toList = s.toList := by
  obtain ⟨c, cs, hs, _, hwhole⟩ := h.separate_append [] rfl
  rw [List.append_nil, separate, List.append_nil] at hwhole
  rw [hs, separateWords, hwhole]

theorem separateWords_flatMap (hpieces : ∀ p ∈ pieces, IsPiece p)
    (hchain : pieces.IsChain fun p q => ¬ RunTogether p q) :
    separateWords (pieces.flatMap String.toList) = ['_'].intercalate (pieces.map String.toList) := by
  induction pieces with
  | nil => rfl
  | cons p pieces ih =>
    obtain ⟨hp, hpieces⟩ := List.forall_mem_cons.mp hpieces
    cases pieces with
    | nil => simpa using hp.separateWords_eq
    | cons q pieces =>
      obtain ⟨hpq, hchain⟩ := List.isChain_cons_cons.mp hchain
      have hq := (List.forall_mem_cons.mp hpieces).1
      have hrest := ih hpieces hchain
      rw [List.flatMap_cons] at hrest
      rw [List.flatMap_cons, List.flatMap_cons, separateWords_append hp hq hpq, hrest]
      simp

theorem mem_of_mem_separate (h : c ∈ separate b cs) : c = '_' ∨ c ∈ cs := by
  induction cs generalizing b with
  | nil => exact .inr h
  | cons d cs ih =>
    have hrest (hmem : c ∈ d :: separate d cs) : c = '_' ∨ c ∈ d :: cs := by
      rcases List.mem_cons.mp hmem with rfl | hmem
      · exact .inr List.mem_cons_self
      · exact (ih hmem).imp_right (List.mem_cons_of_mem d)
    rw [separate] at h
    split_ifs at h with hstart
    · rcases List.mem_cons.mp h with rfl | h
      · exact .inl rfl
      · exact hrest h
    · exact hrest h

/-- Nothing but underscores is put in. -/
theorem mem_of_mem_separateWords (h : c ∈ separateWords cs) : c = '_' ∨ c ∈ cs := by
  cases cs with
  | nil => exact .inr h
  | cons d cs =>
    rcases List.mem_cons.mp h with rfl | h
    · exact .inr List.mem_cons_self
    · exact (mem_of_mem_separate h).imp_right (List.mem_cons_of_mem d)

theorem ascii_separateWords (h : ∀ c ∈ cs, c.toNat < 0x80) : ∀ c ∈ separateWords cs, c.toNat < 0x80 := by
  intro c hc
  rcases mem_of_mem_separateWords hc with rfl | hc
  · decide
  · exact h c hc

theorem toList_snakeCase (h : ∀ c ∈ s.toList, c.toNat < 0x80) :
    (snakeCase s).toList = (separateWords s.toList).map Char.toLower := by
  rw [snakeCase, String.toList_ofList, lowerChars_of_ascii (ascii_separateWords h)]

theorem IsPiece.ascii (h : IsPiece s) : ∀ c ∈ s.toList, c.toNat < 0x80 := by
  intro x hx
  have hclass : x.isUpper = true ∨ x.isLower = true ∨ x.isDigit = true := by
    rcases h with ⟨c, d, cs, hs, hc, hd, hcs⟩ | hacronym
    · simp only [hs, List.mem_cons] at hx
      rcases hx with rfl | rfl | hx
      · exact .inl hc
      · exact .inr (.inl hd)
      · exact .inr (hcs x hx)
    · exact (hacronym.capital_or_digit x hx).imp_right .inr
  rw [isUpper_iff_toNat, isLower_iff_toNat, isDigit_iff_toNat] at hclass
  omega

private theorem map_intercalate {f : Char → Char} {sep : List Char} {parts : List (List Char)} :
    (sep.intercalate parts).map f = (sep.map f).intercalate (parts.map (List.map f)) := by
  induction parts with
  | nil => rfl
  | cons part parts ih =>
    cases parts with
    | nil => simp
    | cons next parts =>
      simp only [List.map_cons] at ih
      simp only [List.intercalate_cons_cons, List.map_append, List.map_cons, ih]

end Text

namespace Resource

/-- The field of a kind made of words and acronyms is named by these pieces in small letters, with underscores between
them. -/
theorem fieldName_of_pieces {r : Resource} {pieces : List String} (hkind : r.kind = String.join pieces)
    (hpieces : ∀ p ∈ pieces, Text.IsPiece p) (hchain : pieces.IsChain fun p q => ¬ Text.RunTogether p q) :
    r.fieldName = "_".intercalate (pieces.map Text.lower) := by
  have hascii : ∀ c ∈ r.kind.toList, c.toNat < 0x80 := by
    intro c hc
    rw [hkind, String.toList_join] at hc
    obtain ⟨p, hp, hc⟩ := List.mem_flatMap.mp hc
    exact (hpieces p hp).ascii c hc
  have hlower : pieces.map (fun p => (Text.lower p).toList) = pieces.map fun p => p.toList.map Char.toLower :=
    List.map_congr_left fun p hp => Text.toList_lower ((hpieces p hp).ascii)
  apply String.toList_inj.mp
  calc r.fieldName.toList
    _ = (Text.separateWords (pieces.flatMap String.toList)).map Char.toLower := by
      rw [fieldName, Text.toList_snakeCase hascii, hkind, String.toList_join]
    _ = (['_'].intercalate (pieces.map String.toList)).map Char.toLower := by
      rw [Text.separateWords_flatMap hpieces hchain]
    _ = ['_'].intercalate (pieces.map fun p => p.toList.map Char.toLower) := by
      rw [Text.map_intercalate, List.map_map]
      rfl
    _ = ("_".intercalate (pieces.map Text.lower)).toList := by
      rw [String.toList_intercalate, List.map_map, ← hlower]
      rfl

def shelfMark : Resource where
  kind := "ISBN13ARecordShelf2Row"
  plural := "shelf-marks"
  type := "library.example.com/ShelfMark"
  fields := []
  methods := .empty

/-- The acronym in front ends in a digit, so the single capital behind it is a piece of its own. -/
theorem shelfMark_fieldName :
    shelfMark.kind = String.join ["ISBN13", "A", "Record", "Shelf2", "Row"] ∧
      (∀ p ∈ ["ISBN13", "A", "Record", "Shelf2", "Row"], Text.IsPiece p) ∧
      (["ISBN13", "A", "Record", "Shelf2", "Row"].IsChain fun p q => ¬ Text.RunTogether p q) ∧
      shelfMark.fieldName = "_".intercalate ["isbn13", "a", "record", "shelf2", "row"] := by
  have hkind : shelfMark.kind = String.join ["ISBN13", "A", "Record", "Shelf2", "Row"] := by decide
  have hpieces : ∀ p ∈ ["ISBN13", "A", "Record", "Shelf2", "Row"], Text.IsPiece p := by
    simp only [List.forall_mem_cons]
    refine ⟨.inr ⟨'I', ['S', 'B', 'N'], ['1', '3'], rfl, ?_⟩, .inr ⟨'A', [], [], rfl, ?_⟩,
      .inl ⟨'R', 'e', ['c', 'o', 'r', 'd'], rfl, ?_⟩, .inl ⟨'S', 'h', ['e', 'l', 'f', '2'], rfl, ?_⟩,
      .inl ⟨'R', 'o', ['w'], rfl, ?_⟩, List.forall_mem_nil _⟩ <;> simp
  have hchain : ["ISBN13", "A", "Record", "Shelf2", "Row"].IsChain fun p q => ¬ Text.RunTogether p q := by
    refine .cons_cons ?_ (.cons_cons ?_ (.cons_cons ?_ (.cons_cons ?_ (.singleton _))))
    · rintro ⟨_, ⟨l, hlast, halpha⟩, _⟩
      obtain rfl := Option.some.inj hlast
      cases halpha
    · exact fun h => absurd h.2.2.capital_or_digit (by simp)
    · exact fun h => absurd h.1.capital_or_digit (by simp)
    · exact fun h => absurd h.1.capital_or_digit (by simp)
  refine ⟨hkind, hpieces, hchain, ?_⟩
  rw [fieldName_of_pieces hkind hpieces hchain]
  decide

end Resource

end ResourceApi
