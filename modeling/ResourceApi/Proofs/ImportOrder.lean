import Mathlib.Data.List.Induction
import Mathlib.Data.List.Nodup
import Mathlib.Logic.Relation
import ResourceApi.Descriptor.Load
import ResourceApi.Descriptor.StandardPool
import ResourceApi.Proofs.Attempt

/-!
The order in which files are loaded. Where no file imports itself, directly or indirectly, the walk along imports puts
each file once, behind all that it imports. So do several walks of which each leaves out what the ones before have put.
-/

namespace ResourceApi

namespace Pool

def Knows (p : Pool) (name : String) : Prop := (p.file? name).isSome

/-- The first file imports the second. -/
def Imports (p : Pool) (x y : String) : Prop := ∃ f, p.file? x = some f ∧ y ∈ f.imports

/-- The first file is the second or imports it, directly or indirectly. -/
def Reaches (p : Pool) : String → String → Prop := Relation.ReflTransGen p.Imports

/-- All that is imported is in the pool. -/
def Closed (p : Pool) : Prop := ∀ f ∈ p.files, ∀ y ∈ f.imports, p.Knows y

def Acyclic (p : Pool) : Prop := ∀ x, ¬ Relation.TransGen p.Imports x x

/-- Each file stands behind all that it imports. -/
def ImportsFirst (p : Pool) (names : List String) : Prop :=
  ∀ front x back, names = front ++ x :: back → ∀ y, p.Imports x y → y ∈ front

/-- The files that the given ones reach, each once and behind all that it imports. -/
structure IsLoadOrder (p : Pool) (names order : List String) : Prop where
  nodup : order.Nodup
  mem_iff : ∀ x, x ∈ order ↔ ∃ name ∈ names, p.Reaches name x
  importsFirst : p.ImportsFirst order

/-- The walk goes on to files and all that they import, with no bound on how deep it goes. -/
inductive Visits (p : Pool) : List String → Walk → Walk → Prop
  | nil {w} : Visits p [] w w
  | past {w w' name names} : name ∈ w.met → Visits p names w w' → Visits p (name :: names) w w'
  | into {w inner w' name names f} : name ∉ w.met → p.file? name = some f →
      Visits p f.imports (w.meet name) inner → Visits p names (inner.finish name) w' → Visits p (name :: names) w w'

variable {p fresh : Pool} {w w' inner : Walk} {name x y : String} {names : List String}

instance : Decidable (p.Knows name) := inferInstanceAs (Decidable ((p.file? name).isSome = true))

instance : Decidable p.Closed := inferInstanceAs (Decidable (∀ f ∈ p.files, ∀ y ∈ f.imports, p.Knows y))

theorem name_of_file? {f : PoolFile} (h : p.file? x = some f) : f.name = x := by
  simpa using List.find?_some h

theorem imports_iff {f : PoolFile} (hf : p.file? x = some f) : p.Imports x y ↔ y ∈ f.imports := by
  rw [Imports, hf]
  simp

theorem Closed.knows (h : p.Closed) (hxy : p.Imports x y) : p.Knows y := by
  obtain ⟨f, hf, hy⟩ := hxy
  exact h f (List.mem_of_find?_eq_some hf) y hy

theorem acyclic_of_rank (rank : String → Nat) (h : ∀ f ∈ p.files, ∀ y ∈ f.imports, rank y < rank f.name) :
    p.Acyclic := by
  have hstep : ∀ {x y}, p.Imports x y → rank y < rank x := by
    rintro x y ⟨f, hf, hy⟩
    exact name_of_file? hf ▸ h f (List.mem_of_find?_eq_some hf) y hy
  have hrank : ∀ {x y}, Relation.TransGen p.Imports x y → rank y < rank x := by
    intro x y hxy
    induction hxy with
    | single hxy => exact hstep hxy
    | tail _ hyz ih => exact Nat.lt_trans (hstep hyz) ih
  exact fun x hx => Nat.lt_irrefl _ (hrank hx)

/-- The walk has met the file and is still on its way through what it imports. -/
def Walk.Pending (w : Walk) (x : String) : Prop := x ∈ w.met ∧ x ∉ w.done

/-- What a walk to some files puts behind what it has put before. -/
structure Puts (p : Pool) (names : List String) (w w' : Walk) (new : List String) : Prop where
  done_eq : w'.done = w.done ++ new
  mem_met : ∀ x, x ∈ w'.met ↔ x ∈ w.met ∨ x ∈ new
  nodup : new.Nodup
  fresh : ∀ x ∈ new, x ∉ w.met
  covers : ∀ x ∈ names, x ∈ w'.met
  reached : ∀ x ∈ new, ∃ y ∈ names, p.Reaches y x
  closed : ∀ x ∈ new, ∀ y, p.Imports x y → y ∈ w'.met

namespace Puts

variable {f : PoolFile} {new later : List String}

theorem nil : p.Puts [] w w [] where
  done_eq := (List.append_nil _).symm
  mem_met := by simp
  nodup := List.nodup_nil
  fresh := by simp
  covers := by simp
  reached := by simp
  closed := by simp

theorem past (hmet : name ∈ w.met) (h : p.Puts names w w' new) : p.Puts (name :: names) w w' new where
  done_eq := h.done_eq
  mem_met := h.mem_met
  nodup := h.nodup
  fresh := h.fresh
  covers := List.forall_mem_cons.mpr ⟨(h.mem_met name).mpr (.inl hmet), h.covers⟩
  reached x hx := by
    obtain ⟨y, hy, hyx⟩ := h.reached x hx
    exact ⟨y, List.mem_cons_of_mem _ hy, hyx⟩
  closed := h.closed

theorem into (hfresh : name ∉ w.met) (hf : p.file? name = some f) (hinner : p.Puts f.imports (w.meet name) inner new)
    (hlater : p.Puts names (inner.finish name) w' later) : p.Puts (name :: names) w w' (new ++ name :: later) := by
  have hinnerMet : ∀ x, x ∈ inner.met ↔ (x = name ∨ x ∈ w.met) ∨ x ∈ new := by
    intro x
    rw [hinner.mem_met, Walk.meet, List.mem_cons]
  have hmet : ∀ x, x ∈ w'.met ↔ x ∈ inner.met ∨ x ∈ later := hlater.mem_met
  have hnewFresh : ∀ x ∈ new, x ≠ name ∧ x ∉ w.met := by
    intro x hx
    rw [← not_or, ← List.mem_cons]
    exact hinner.fresh x hx
  have hlaterFresh : ∀ x ∈ later, x ∉ inner.met := hlater.fresh
  constructor
  case done_eq =>
    rw [hlater.done_eq, Walk.finish, hinner.done_eq, Walk.meet, List.append_assoc, List.append_assoc,
      List.singleton_append]
  case mem_met => grind
  case nodup =>
    have hname : name ∉ new ∧ name ∉ later := by grind
    have hapart : ∀ x ∈ new, x ∉ later := by grind
    rw [List.nodup_append', List.nodup_cons]
    exact ⟨hinner.nodup, ⟨hname.2, hlater.nodup⟩, List.disjoint_cons_right.mpr ⟨hname.1, hapart⟩⟩
  case fresh => grind
  case covers =>
    have hname : name ∈ w'.met := by grind
    exact List.forall_mem_cons.mpr ⟨hname, hlater.covers⟩
  case reached =>
    intro x hx
    rw [List.mem_append, List.mem_cons] at hx
    rcases hx with hx | rfl | hx
    · obtain ⟨y, hy, hyx⟩ := hinner.reached x hx
      exact ⟨name, List.mem_cons_self, .head ⟨f, hf, hy⟩ hyx⟩
    · exact ⟨x, List.mem_cons_self, .refl⟩
    · obtain ⟨y, hy, hyx⟩ := hlater.reached x hx
      exact ⟨y, List.mem_cons_of_mem _ hy, hyx⟩
  case closed =>
    intro x hx y hxy
    rw [List.mem_append, List.mem_cons] at hx
    rcases hx with hx | rfl | hx
    · exact (hmet y).mpr (.inl (hinner.closed x hx y hxy))
    · exact (hmet y).mpr (.inl (hinner.covers y ((imports_iff hf).mp hxy)))
    · exact hlater.closed x hx y hxy

theorem pending_of_pending (h : p.Puts names w w' new) (hx : w'.Pending x) : w.Pending x := by
  rw [Walk.Pending, h.done_eq, h.mem_met, List.mem_append] at hx
  exact ⟨hx.1.resolve_right fun hnew => hx.2 (.inr hnew), fun hdone => hx.2 (.inl hdone)⟩

end Puts

theorem Visits.exists_puts (h : p.Visits names w w') : ∃ new, p.Puts names w w' new := by
  induction h with
  | nil => exact ⟨[], .nil⟩
  | past hmet _ ih =>
    obtain ⟨new, hnew⟩ := ih
    exact ⟨new, hnew.past hmet⟩
  | into hfresh hf _ _ ihInner ihLater =>
    obtain ⟨new, hnew⟩ := ihInner
    obtain ⟨later, hlater⟩ := ihLater
    exact ⟨_, hnew.into hfresh hf hlater⟩

theorem importsFirst_concat_iff :
    p.ImportsFirst (names ++ [name]) ↔ p.ImportsFirst names ∧ ∀ y, p.Imports name y → y ∈ names := by
  constructor
  · intro h
    refine ⟨fun front x back hsplit => h front x (back ++ [name]) ?_, h names name [] rfl⟩
    rw [hsplit, List.append_assoc, List.cons_append]
  · rintro ⟨hnames, hname⟩ front x back hsplit
    rcases List.eq_nil_or_concat' back with rfl | ⟨back, last, rfl⟩
    · obtain ⟨rfl, hx⟩ := List.append_inj' hsplit rfl
      obtain rfl := List.head_eq_of_cons_eq hx
      exact hname
    · rw [← List.cons_append, ← List.append_assoc] at hsplit
      exact hnames front x back (List.append_inj' hsplit rfl).1

/-- A file on whose imports the walk still is reaches the files to come. So, with no circles, none of these is pending,
and when a file is put, all its imports are there. -/
theorem Visits.importsFirst (hacyclic : p.Acyclic) (h : p.Visits names w w')
    (hpending : ∀ x, w.Pending x → ∀ name ∈ names, Relation.TransGen p.Imports x name)
    (hfirst : p.ImportsFirst w.done) : p.ImportsFirst w'.done ∧ ∀ name ∈ names, name ∈ w'.done := by
  induction h with
  | nil => exact ⟨hfirst, List.forall_mem_nil _⟩
  | @past w w' name names hmet hrest ih =>
    obtain ⟨hfirst', hdone⟩ := ih (fun x hx => (List.forall_mem_cons.mp (hpending x hx)).2) hfirst
    refine ⟨hfirst', List.forall_mem_cons.mpr ⟨?_, hdone⟩⟩
    have hname : name ∈ w.done := by
      by_contra hname
      exact hacyclic name (hpending name ⟨hmet, hname⟩ name List.mem_cons_self)
    obtain ⟨new, hnew⟩ := hrest.exists_puts
    rw [hnew.done_eq]
    exact List.mem_append_left _ hname
  | @into w inner w' name names f hfresh hf hinner hrest ihInner ihRest =>
    obtain ⟨new, hnew⟩ := hinner.exists_puts
    obtain ⟨later, hlater⟩ := hrest.exists_puts
    have hinside : ∀ x, (w.meet name).Pending x → ∀ y ∈ f.imports, Relation.TransGen p.Imports x y := by
      rintro x ⟨hx, hxdone⟩ y hy
      rcases List.mem_cons.mp hx with rfl | hx
      · exact .single ⟨f, hf, hy⟩
      · exact (hpending x ⟨hx, hxdone⟩ name List.mem_cons_self).tail ⟨f, hf, hy⟩
    obtain ⟨hinnerFirst, himports⟩ := ihInner hinside hfirst
    have hfinish : p.ImportsFirst (inner.finish name).done := by
      refine importsFirst_concat_iff.mpr ⟨hinnerFirst, fun y hy => ?_⟩
      exact himports y ((imports_iff hf).mp hy)
    -- All that was met on the way through the imports is done by now, and so is the file itself.
    have hbehind : ∀ x, (inner.finish name).Pending x → ∀ n ∈ names, Relation.TransGen p.Imports x n := by
      rintro x ⟨hx, hxdone⟩
      rw [Walk.finish, List.mem_append, List.mem_singleton, not_or] at hxdone
      obtain ⟨hmet, hnotDone⟩ := hnew.pending_of_pending ⟨hx, hxdone.1⟩
      have hx : x ∈ w.met := (List.mem_cons.mp hmet).resolve_left hxdone.2
      exact (List.forall_mem_cons.mp (hpending x ⟨hx, hnotDone⟩)).2
    obtain ⟨hlaterFirst, hdone⟩ := ihRest hbehind hfinish
    refine ⟨hlaterFirst, List.forall_mem_cons.mpr ⟨?_, hdone⟩⟩
    rw [hlater.done_eq]
    simp [Walk.finish]

/-- The files of the pool that a walk has not met. -/
def unmet (p : Pool) (w : Walk) : List PoolFile := p.files.filter (·.name ∉ w.met)

theorem unmet_meet_lt {f : PoolFile} (hfresh : name ∉ w.met) (hf : p.file? name = some f) :
    (p.unmet (w.meet name)).length < (p.unmet w).length := by
  have hmem : f ∈ p.unmet w := by
    rw [unmet, List.mem_filter, name_of_file? hf]
    exact ⟨List.mem_of_find?_eq_some hf, decide_eq_true hfresh⟩
  have hfilter : p.unmet (w.meet name) = (p.unmet w).filter (·.name ≠ name) := by
    rw [unmet, unmet, List.filter_filter]
    simp [Walk.meet]
  rw [hfilter]
  exact List.length_filter_lt_length_iff_exists.mpr ⟨f, hmem, by simp [name_of_file? hf]⟩

theorem unmet_le (h : ∀ x ∈ w.met, x ∈ w'.met) : (p.unmet w').length ≤ (p.unmet w).length := by
  refine (List.monotone_filter_right p.files fun f hf => ?_).length_le
  simp only [decide_eq_true_eq] at hf ⊢
  exact fun hw => hf (h _ hw)

/-- Each step down meets a file, so the depth is enough for all that are left. -/
theorem visits_foldl (hclosed : p.Closed) {depth : Nat} (hknown : ∀ name ∈ names, p.Knows name)
    (hdepth : (p.unmet w).length < depth) : p.Visits names w (names.foldl (p.visit depth) w) := by
  -- The depth is for the imports of a file, the list for the files beside it, which need no more depth.
  induction depth generalizing names w with
  | zero => omega
  | succ depth ih =>
    induction names generalizing w with
    | nil => exact .nil
    | cons name names ihNames =>
      obtain ⟨hname, hnames⟩ := List.forall_mem_cons.mp hknown
      obtain ⟨f, hf⟩ := Option.isSome_iff_exists.mp hname
      rw [List.foldl_cons, visit]
      split_ifs with hmet
      · exact .past hmet (ihNames hnames hdepth)
      · rw [hf]
        have hless := unmet_meet_lt hmet hf
        have hinner : p.Visits f.imports (w.meet name) (f.imports.foldl (p.visit depth) (w.meet name)) :=
          ih (fun y hy => hclosed.knows ⟨f, hf, hy⟩) (by omega)
        refine .into hmet hf hinner (ihNames hnames ?_)
        obtain ⟨new, hnew⟩ := hinner.exists_puts
        have hle := unmet_le (p := p) fun x hx => (hnew.mem_met x).mpr (.inl hx)
        exact Nat.lt_of_le_of_lt hle (by omega)

theorem Visits.isLoadOrder (hacyclic : p.Acyclic) (h : p.Visits names {} w) : p.IsLoadOrder names w.done := by
  obtain ⟨new, hnew⟩ := h.exists_puts
  obtain rfl : w.done = new := hnew.done_eq
  have hmet : ∀ x, x ∈ w.met ↔ x ∈ w.done := by simpa using hnew.mem_met
  have hfirst := h.importsFirst hacyclic (by simp [Walk.Pending]) (by simp [ImportsFirst])
  refine ⟨hnew.nodup, fun x => ⟨hnew.reached x, ?_⟩, hfirst.1⟩
  rintro ⟨name, hname, hreach⟩
  induction hreach with
  | refl => exact (hmet name).mp (hnew.covers name hname)
  | tail _ hstep ih => exact (hmet _).mp (hnew.closed _ ih _ hstep)

theorem Visits.getLast? (h : p.Visits [name] {} w) : w.done.getLast? = some name := by
  cases h with
  | past hmet => cases hmet
  | into _ _ _ hrest =>
    cases hrest
    rw [Walk.finish, List.getLast?_concat]

/-- Two orders one behind the other are an order again without what is there twice. -/
theorem IsLoadOrder.append {order later names' : List String} (h : p.IsLoadOrder names order)
    (hlater : p.IsLoadOrder names' later) : p.IsLoadOrder (names ++ names') (order ++ later.filter (· ∉ order)) where
  nodup := by
    rw [List.nodup_append']
    exact ⟨h.nodup, hlater.nodup.filter _, fun x hx hx' => by simp_all⟩
  mem_iff x := by
    have hboth : x ∈ order ++ later.filter (· ∉ order) ↔ x ∈ order ∨ x ∈ later := by
      rw [List.mem_append, List.mem_filter, decide_eq_true_iff]
      tauto
    rw [hboth, h.mem_iff, hlater.mem_iff]
    simp only [List.mem_append, or_and_right, exists_or]
  importsFirst := by
    have hfirst := hlater.importsFirst
    clear hlater
    induction later using List.reverseRecOn with
    | nil => simpa using h.importsFirst
    | append_singleton later name ih =>
      obtain ⟨hlater, hname⟩ := importsFirst_concat_iff.mp hfirst
      rw [List.filter_append, ← List.append_assoc]
      by_cases hmem : name ∈ order
      · simpa [hmem] using ih hlater
      · rw [List.filter_singleton, decide_eq_true hmem]
        refine importsFirst_concat_iff.mpr ⟨ih hlater, fun y hy => ?_⟩
        have := hname y hy
        simp only [List.mem_append, List.mem_filter, decide_eq_true_iff]
        tauto

theorem exists_withImports (hclosed : p.Closed) (hname : p.Knows name) :
    ∃ w, p.Visits [name] {} w ∧ p.withImports name = .ok w.done := by
  have hvisits : p.Visits [name] {} ([name].foldl (p.visit (p.files.length + 1)) {}) :=
    visits_foldl hclosed (List.forall_mem_singleton.mpr hname) (Nat.lt_succ_of_le (List.length_filter_le _ _))
  obtain ⟨f, hf⟩ := Option.isSome_iff_exists.mp hname
  refine ⟨_, hvisits, ?_⟩
  rw [withImports, hf]
  rfl

/-- The names of the files in the order in which they were added. -/
def fileNames (p : Pool) : List String := p.files.map PoolFile.name

/-- The files are those that the pool has under their names. -/
def Supplies (p fresh : Pool) : Prop := ∀ x ∈ fresh.files, p.file? x.name = some x

theorem file?_eq_none_iff : p.file? x = none ↔ x ∉ p.fileNames := by
  rw [file?, List.find?_eq_none]
  simp [fileNames]

theorem addMissing_of_mem (h : name ∈ fresh.fileNames) : p.addMissing fresh name = fresh := by
  rw [addMissing]
  cases hfile : fresh.file? name with
  | some f => rfl
  | none => exact absurd h (file?_eq_none_iff.mp hfile)

theorem addMissing_of_not_mem {f : PoolFile} (hf : p.file? name = some f) (h : name ∉ fresh.fileNames) :
    p.addMissing fresh name = fresh.add f := by
  rw [addMissing, file?_eq_none_iff.mpr h, hf]
  rfl

theorem fileNames_add {f : PoolFile} : (fresh.add f).fileNames = fresh.fileNames ++ [f.name] := List.map_append

theorem Supplies.add {f : PoolFile} (h : p.Supplies fresh) (hf : p.file? name = some f) : p.Supplies (fresh.add f) := by
  intro x hx
  rcases List.mem_append.mp hx with hx | hx
  · exact h x hx
  · obtain rfl := List.mem_singleton.mp hx
    rw [name_of_file? hf, hf]

/-- The files of the pool that are not there yet are added one behind the other. -/
theorem foldl_addMissing (hnodup : names.Nodup) (hknown : ∀ x ∈ names, p.Knows x) (h : p.Supplies fresh) :
    p.Supplies (names.foldl p.addMissing fresh) ∧
      (names.foldl p.addMissing fresh).fileNames = fresh.fileNames ++ names.filter (· ∉ fresh.fileNames) := by
  induction names generalizing fresh with
  | nil => exact ⟨h, (List.append_nil _).symm⟩
  | cons name names ih =>
    obtain ⟨hname, hnames⟩ := List.nodup_cons.mp hnodup
    obtain ⟨hknows, hothers⟩ := List.forall_mem_cons.mp hknown
    rw [List.foldl_cons]
    by_cases hmem : name ∈ fresh.fileNames
    · rw [addMissing_of_mem hmem, List.filter_cons_of_neg (by simpa using hmem)]
      exact ih hnames hothers h
    · obtain ⟨f, hf⟩ := Option.isSome_iff_exists.mp hknows
      obtain ⟨hsupplies, hnew⟩ := ih hnames hothers (h.add hf)
      have hsame : (names.filter fun x => decide (x ∉ (fresh.add f).fileNames)) =
          names.filter fun x => decide (x ∉ fresh.fileNames) := by
        refine List.filter_congr fun x hx => ?_
        have hne : x ≠ name := fun heq => hname (heq ▸ hx)
        rw [fileNames_add, name_of_file? hf]
        simp [hne]
      rw [addMissing_of_not_mem hf hmem]
      refine ⟨hsupplies, ?_⟩
      rw [hnew, hsame, fileNames_add, name_of_file? hf, List.append_assoc,
        List.filter_cons_of_pos (by simpa using hmem), List.singleton_append]

theorem Reaches.knows (hclosed : p.Closed) (hname : p.Knows name) (h : p.Reaches name x) : p.Knows x := by
  induction h with
  | refl => exact hname
  | tail _ hstep _ => exact hclosed.knows hstep

/-- What is in the fresh pool before a file is added to it. -/
theorem exists_stock (hclosed : p.Closed) (hacyclic : p.Acyclic) (hknown : ∀ name ∈ names, p.Knows name) :
    ∃ fresh, p.stock names = .ok fresh ∧ p.Supplies fresh ∧ p.IsLoadOrder names fresh.fileNames := by
  induction names using List.reverseRecOn with
  | nil =>
    refine ⟨{ files := [] }, rfl, fun x hx => absurd hx List.not_mem_nil, List.nodup_nil, ?_, ?_⟩
    · simp [fileNames]
    · simp [fileNames, ImportsFirst]
  | append_singleton names name ih =>
    obtain ⟨fresh, hstock, hsupplies, horder⟩ := ih fun n hn => hknown n (List.mem_append_left _ hn)
    have hname : p.Knows name := hknown name (by simp)
    obtain ⟨w, hvisits, himports⟩ := exists_withImports hclosed hname
    have hw : p.IsLoadOrder [name] w.done := hvisits.isLoadOrder hacyclic
    have hreached : ∀ x ∈ w.done, p.Knows x := by
      intro x hx
      obtain ⟨y, hy, hreach⟩ := (hw.mem_iff x).mp hx
      obtain rfl := List.mem_singleton.mp hy
      exact hreach.knows hclosed hname
    obtain ⟨hmore, hnames⟩ := foldl_addMissing hw.nodup hreached hsupplies
    refine ⟨w.done.foldl p.addMissing fresh, ?_, hmore, ?_⟩
    · rw [stock] at hstock ⊢
      rw [List.foldlM_append, hstock]
      simp only [List.foldlM_cons, List.foldlM_nil, himports]
      rfl
    · rw [hnames]
      exact horder.append hw

/-- Where imports do not go in circles, the walk from a file ends with the file behind all others that it reaches. A
descriptor is added to a pool that was fresh and has been filled with the files that its imports reach. In both cases
each file is there once, after all that it imports. What is loaded is read off the pool with the descriptor in it. -/
theorem loaded_in_order (hclosed : p.Closed) (hacyclic : p.Acyclic) :
    (∀ name, p.Knows name →
      ∃ w, p.Visits [name] {} w ∧ p.withImports name = .ok w.done ∧ p.IsLoadOrder [name] w.done ∧
        w.done.getLast? = some name) ∧
    ∀ f : FileDescriptor, (∀ name ∈ f.imports, p.Knows name) →
      ∃ fresh : Pool, p.stock f.imports = .ok fresh ∧ (∀ x ∈ fresh.files, p.file? x.name = some x) ∧
        p.IsLoadOrder f.imports (fresh.files.map PoolFile.name) ∧ f.load p = f.loadInto fresh ∧
        (∀ pool, f.addTo fresh = .ok pool → pool.files = fresh.files ++ [f.poolFile]) ∧
        ∀ loaded, f.load p = .ok loaded → ∃ pool, f.addTo fresh = .ok pool ∧ loaded = f.view pool.files := by
  constructor
  · intro name hname
    obtain ⟨w, hvisits, himports⟩ := exists_withImports hclosed hname
    exact ⟨w, hvisits, himports, hvisits.isLoadOrder hacyclic, hvisits.getLast?⟩
  · intro f hknown
    obtain ⟨fresh, hstock, hsupplies, horder⟩ := exists_stock hclosed hacyclic hknown
    have hload : f.load p = f.loadInto fresh := by
      rw [FileDescriptor.load, hstock]
      rfl
    refine ⟨fresh, hstock, hsupplies, horder, hload, fun pool hpool => ?_, fun loaded hloaded => ?_⟩
    · rw [FileDescriptor.addTo] at hpool
      split at hpool
      · obtain rfl := Except.ok.inj hpool
        rfl
      · cases hpool
    · rw [hload, FileDescriptor.loadInto] at hloaded
      obtain ⟨pool, hpool, hview⟩ := Attempt.bind_eq_ok_iff.mp hloaded
      split_ifs at hview
      exact ⟨pool, hpool, (Except.ok.inj hview).symm⟩

/-- A file without a package that imports some files twice, and others after what they import. -/
def jobsFile : FileDescriptor where
  name := "jobs.proto"
  package := ""
  imports := ["google/api/annotations.proto", "google/longrunning/operations.proto", "google/protobuf/empty.proto",
    "google/api/annotations.proto"]
  messages := []
  service := { name := "Jobs", methods := [] }
  locations := []

theorem jobsFile_loaded_in_order :
    standard.Closed ∧ standard.Acyclic ∧ standard.Knows operationsFile.name ∧
      (∃ order, standard.withImports operationsFile.name = .ok order ∧ order.Nodup ∧
        order.getLast? = some operationsFile.name) ∧
      (∀ name ∈ jobsFile.imports, standard.Knows name) ∧
      ∃ fresh pool, standard.stock jobsFile.imports = .ok fresh ∧ jobsFile.load standard = jobsFile.loadInto fresh ∧
        fresh.files.map PoolFile.name =
          ["google/api/http.proto", "google/protobuf/descriptor.proto", "google/api/annotations.proto",
            "google/api/launch_stage.proto", "google/protobuf/duration.proto", "google/api/client.proto",
            "google/api/field_behavior.proto", "google/protobuf/any.proto", "google/protobuf/empty.proto",
            "google/rpc/status.proto", "google/longrunning/operations.proto"] ∧
        standard.IsLoadOrder jobsFile.imports (fresh.files.map PoolFile.name) ∧
        jobsFile.addTo fresh = .ok pool ∧ pool.files = fresh.files ++ [jobsFile.poolFile] := by
  have hclosed : standard.Closed := by decide
  have hacyclic : standard.Acyclic :=
    acyclic_of_rank (fun name => (standard.files.map PoolFile.name).idxOf name) (by decide)
  have hoperations : standard.Knows operationsFile.name := by decide
  have hknown : ∀ name ∈ jobsFile.imports, standard.Knows name := by decide
  have hnames : (standard.stock jobsFile.imports).map fileNames = .ok
      ["google/api/http.proto", "google/protobuf/descriptor.proto", "google/api/annotations.proto",
        "google/api/launch_stage.proto", "google/protobuf/duration.proto", "google/api/client.proto",
        "google/api/field_behavior.proto", "google/protobuf/any.proto", "google/protobuf/empty.proto",
        "google/rpc/status.proto", "google/longrunning/operations.proto"] := by decide +kernel
  obtain ⟨hwalk, hload⟩ := loaded_in_order hclosed hacyclic
  obtain ⟨w, _, himports, horder, hlast⟩ := hwalk _ hoperations
  obtain ⟨fresh, hstock, _, hfresh, heq, hadd, _⟩ := hload jobsFile hknown
  have haccepted : (standard.stock jobsFile.imports).map (fun fresh => jobsFile.refusals fresh.files) = .ok [] := by
    decide +kernel
  rw [hstock] at hnames haccepted
  have hadded : jobsFile.addTo fresh = .ok (fresh.add jobsFile.poolFile) := by
    rw [FileDescriptor.addTo, show jobsFile.refusals fresh.files = [] from Except.ok.inj haccepted]
  exact ⟨hclosed, hacyclic, hoperations, ⟨_, himports, horder.nodup, hlast⟩, hknown, fresh, _, hstock, heq,
    Except.ok.inj hnames, hfresh, hadded, hadd _ hadded⟩

end Pool

end ResourceApi
