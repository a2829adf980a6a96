import ResourceApi.Text.CaseTable

/-!
Full Unicode lower-casing. Every character has a small form of its own, apart from the capital sigma, whose form
depends on whether it ends a word.
-/

namespace ResourceApi.Text

/-- The small form of one character. Only the capital I with a dot above has a form of two characters. -/
def lowerChar (c : Char) : List Char :=
  if c.toNat < 0x80 then [c.toLower]
  else if c.toNat = 0x130 then ['i', Char.ofNat 0x307]
  else match capitalRuns.findSome? (·.lower? c.toNat) with
    | some n => [Char.ofNat n]
    | none => [c]

/-- The next character that case rules do not skip is a cased letter. -/
def casedAhead (rest : List Char) : Bool := (rest.find? fun c => !isCaseIgnorable c).any isCased

/-- Lower-cases what follows a context; `cased` tells that the last character before that case rules do not skip
is a cased letter. A capital sigma after such a context and before none ends a word. -/
def lowerFrom (cased : Bool) : List Char → List Char
  | [] => []
  | c :: rest =>
    let now := if isCaseIgnorable c then cased else isCased c
    if c.toNat = 0x3A3 then
      Char.ofNat (if cased && !casedAhead rest then 0x3C2 else 0x3C3) :: lowerFrom now rest
    else lowerChar c ++ lowerFrom now rest

def lowerChars (s : List Char) : List Char := lowerFrom false s

def lower (s : String) : String := String.ofList (lowerChars s.toList)

theorem lowerChar_of_ascii {c : Char} (h : c.toNat < 0x80) : lowerChar c = [c.toLower] := by simp [lowerChar, h]

theorem lowerFrom_of_ascii (cased : Bool) {s : List Char} (h : ∀ c ∈ s, c.toNat < 0x80) :
    lowerFrom cased s = s.map Char.toLower := by
  induction s generalizing cased with
  | nil => rfl
  | cons c rest ih =>
    have hc : c.toNat < 0x80 := h c List.mem_cons_self
    have hsigma : c.toNat ≠ 0x3A3 := by omega
    have hrest := ih (if isCaseIgnorable c then cased else isCased c) fun d hd => h d (List.mem_cons_of_mem c hd)
    simp only [lowerFrom, if_neg hsigma, lowerChar_of_ascii hc, hrest, List.map_cons, List.singleton_append]

/-- In ASCII text every character is lower-cased on its own. -/
theorem lowerChars_of_ascii {s : List Char} (h : ∀ c ∈ s, c.toNat < 0x80) : lowerChars s = s.map Char.toLower :=
  lowerFrom_of_ascii false h

end ResourceApi.Text
