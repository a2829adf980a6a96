import Mathlib.Data.List.Forall2

/-!
When attempts that may fail succeed, and with which values.
-/

namespace ResourceApi.Attempt

variable {α β ε ε' : Type}

theorem map_eq_ok_iff {x : Except ε α} {f : α → β} {b : β} :
    x.map f = .ok b ↔ ∃ a, x = .ok a ∧ f a = b := by
  cases x <;> simp [Except.map]

/-- A value that is known in advance is known after a map too. -/
theorem map_eq_ok_iff_of_value {x : Except ε α} {f : α → β} {P : Prop} {a : α} {b : β}
    (h : ∀ a', x = .ok a' ↔ P ∧ a' = a) : x.map f = .ok b ↔ P ∧ b = f a := by
  rw [map_eq_ok_iff]
  constructor
  · rintro ⟨a', ha, rfl⟩
    obtain ⟨hp, rfl⟩ := (h a').mp ha
    exact ⟨hp, rfl⟩
  · rintro ⟨hp, rfl⟩
    exact ⟨a, (h a).mpr ⟨hp, rfl⟩, rfl⟩

theorem mapError_eq_ok_iff {x : Except ε α} {f : ε → ε'} {a : α} : x.mapError f = .ok a ↔ x = .ok a := by
  cases x <;> simp [Except.mapError]

theorem map_eq_error_iff {x : Except ε α} {f : α → β} {e : ε} : x.map f = .error e ↔ x = .error e := by
  cases x <;> simp [Except.map]

theorem mapError_eq_error_iff {x : Except ε α} {f : ε → ε'} {e' : ε'} :
    x.mapError f = .error e' ↔ ∃ e, x = .error e ∧ f e = e' := by
  cases x <;> simp [Except.mapError]

theorem bind_eq_ok_iff {x : Except ε α} {f : α → Except ε β} {b : β} :
    x >>= f = .ok b ↔ ∃ a, x = .ok a ∧ f a = .ok b := by
  cases x <;> simp [bind, Except.bind]

theorem bind_eq_error_iff {x : Except ε α} {f : α → Except ε β} {e : ε} :
    x >>= f = .error e ↔ x = .error e ∨ ∃ a, x = .ok a ∧ f a = .error e := by
  cases x <;> simp [bind, Except.bind]

theorem exists_eq_error_iff {x : Except ε α} : (∃ e, x = .error e) ↔ ¬ ∃ a, x = .ok a := by
  cases x <;> simp

/-- A list is worked through exactly when each element is, in its own place. -/
theorem mapM_eq_ok_iff {f : α → Except ε β} {as : List α} {bs : List β} :
    as.mapM f = .ok bs ↔ List.Forall₂ (fun a b => f a = .ok b) as bs := by
  induction as generalizing bs with
  | nil => simp [pure, Except.pure, eq_comm]
  | cons a as ih =>
    rw [List.mapM_cons, bind_eq_ok_iff, List.forall₂_cons_left_iff]
    constructor
    · rintro ⟨b, hb, h⟩
      obtain ⟨bs', hbs, h⟩ := bind_eq_ok_iff.mp h
      exact ⟨b, bs', hb, ih.mp hbs, (Except.ok.inj h).symm⟩
    · rintro ⟨b, bs', hb, hbs, rfl⟩
      exact ⟨b, hb, bind_eq_ok_iff.mpr ⟨bs', ih.mpr hbs, rfl⟩⟩

theorem exists_mapM_eq_ok_iff {f : α → Except ε β} {as : List α} :
    (∃ bs, as.mapM f = .ok bs) ↔ ∀ a ∈ as, ∃ b, f a = .ok b := by
  simp only [mapM_eq_ok_iff]
  induction as with
  | nil => simp
  | cons a as ih =>
    rw [List.forall_mem_cons, ← ih]
    constructor
    · rintro ⟨_, hbs⟩
      obtain ⟨b, bs, hb, hrest, rfl⟩ := List.forall₂_cons_left_iff.mp hbs
      exact ⟨⟨b, hb⟩, bs, hrest⟩
    · rintro ⟨⟨b, hb⟩, bs, hrest⟩
      exact ⟨b :: bs, .cons hb hrest⟩

theorem mapM_eq_ok_map {f : α → Except ε β} {as : List α} (value : α → β) (h : ∀ a ∈ as, f a = .ok (value a)) :
    as.mapM f = .ok (as.map value) := by
  rw [mapM_eq_ok_iff, List.forall₂_map_right_iff, List.forall₂_same]
  exact h

/-- Values that are known in advance are known for a whole list too. -/
theorem mapM_eq_ok_iff_of_value {f : α → Except ε β} {as : List α} {bs : List β} {P : α → Prop} {value : α → β}
    (h : ∀ a b, f a = .ok b ↔ P a ∧ b = value a) : as.mapM f = .ok bs ↔ (∀ a ∈ as, P a) ∧ bs = as.map value := by
  constructor
  · intro hbs
    have hall : ∀ a ∈ as, P a := by
      intro a ha
      obtain ⟨b, hb⟩ := exists_mapM_eq_ok_iff.mp ⟨bs, hbs⟩ a ha
      exact ((h a b).mp hb).1
    rw [mapM_eq_ok_map value fun a ha => (h a _).mpr ⟨hall a ha, rfl⟩] at hbs
    exact ⟨hall, (Except.ok.inj hbs).symm⟩
  · rintro ⟨hall, rfl⟩
    exact mapM_eq_ok_map value fun a ha => (h a _).mpr ⟨hall a ha, rfl⟩

/-- The error of a list is that of the first element that fails. -/
theorem mapM_eq_error_iff {f : α → Except ε β} {as : List α} {e : ε} :
    as.mapM f = .error e ↔
      ∃ front a back, as = front ++ a :: back ∧ (∀ x ∈ front, ∃ b, f x = .ok b) ∧ f a = .error e := by
  induction as with
  | nil => simp [pure, Except.pure]
  | cons a as ih =>
    rw [List.mapM_cons, bind_eq_error_iff]
    constructor
    · intro h
      rcases h with h | ⟨b, hb, h⟩
      · exact ⟨[], a, as, rfl, by simp, h⟩
      · rcases bind_eq_error_iff.mp h with h | ⟨bs, _, h⟩
        · obtain ⟨front, a', back, rfl, hfront, ha'⟩ := ih.mp h
          exact ⟨a :: front, a', back, rfl, List.forall_mem_cons.mpr ⟨⟨b, hb⟩, hfront⟩, ha'⟩
        · cases h
    · intro ⟨front, a', back, heq, hfront, ha'⟩
      cases front with
      | nil =>
        obtain ⟨rfl, rfl⟩ := List.cons.inj heq
        exact .inl ha'
      | cons x front =>
        obtain ⟨rfl, rfl⟩ := List.cons.inj heq
        obtain ⟨⟨b, hb⟩, hfront⟩ := List.forall_mem_cons.mp hfront
        exact .inr ⟨b, hb, bind_eq_error_iff.mpr (.inl (ih.mpr ⟨front, a', back, rfl, hfront, ha'⟩))⟩

/-- The error of a fold is that of the first element that fails after those before it. -/
theorem foldlM_eq_error_iff {f : β → α → Except ε β} {as : List α} {b : β} {e : ε} :
    as.foldlM f b = .error e ↔
      ∃ front a back b', as = front ++ a :: back ∧ front.foldlM f b = .ok b' ∧ f b' a = .error e := by
  induction as generalizing b with
  | nil => simp [pure, Except.pure]
  | cons a as ih =>
    rw [List.foldlM_cons, bind_eq_error_iff]
    constructor
    · intro h
      rcases h with h | ⟨b₁, hb₁, h⟩
      · exact ⟨[], a, as, b, rfl, rfl, h⟩
      · obtain ⟨front, a', back, b', rfl, hfront, ha'⟩ := ih.mp h
        refine ⟨a :: front, a', back, b', rfl, ?_, ha'⟩
        rw [List.foldlM_cons]
        exact bind_eq_ok_iff.mpr ⟨b₁, hb₁, hfront⟩
    · intro ⟨front, a', back, b', heq, hfront, ha'⟩
      cases front with
      | nil =>
        obtain ⟨rfl, rfl⟩ := List.cons.inj heq
        obtain rfl := Except.ok.inj hfront
        exact .inl ha'
      | cons x front =>
        obtain ⟨rfl, rfl⟩ := List.cons.inj heq
        rw [List.foldlM_cons] at hfront
        obtain ⟨b₁, hb₁, hfront⟩ := bind_eq_ok_iff.mp hfront
        exact .inr ⟨b₁, hb₁, ih.mpr ⟨front, a', back, b', rfl, hfront, ha'⟩⟩

theorem exists_of_foldlM_eq_error {f : β → α → Except ε β} {as : List α} {b : β} {e : ε}
    (h : as.foldlM f b = .error e) : ∃ b', ∃ a ∈ as, f b' a = .error e := by
  obtain ⟨front, a, back, b', rfl, _, ha⟩ := foldlM_eq_error_iff.mp h
  exact ⟨b', a, by simp, ha⟩

end ResourceApi.Attempt
