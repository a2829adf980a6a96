import ResourceApi.Compile.Service
import ResourceApi.Proofs.Extension
import ResourceApi.Proofs.Plan

/-!
Runs of steps. Whether it fails or not, a run leaves a registry extended by the front part of a block, and a
compilation that succeeds has extended it by the blocks of all its resources. A run that fails stops at the first entry
whose step fails or whose name is taken.
-/

namespace ResourceApi

variable {steps : List Step} {es : List Entry}

/-- An element of joined lists stands in the list of some `x`, behind all lists before that one. -/
theorem exists_of_flatMap_eq_append_cons {α β : Type} {f : α → List β} {xs : List α} {front back : List β} {b : β}
    (h : xs.flatMap f = front ++ b :: back) :
    ∃ before x after inner rest, xs = before ++ x :: after ∧ f x = inner ++ b :: rest ∧
      front = before.flatMap f ++ inner := by
  induction xs generalizing front with
  | nil => simp at h
  | cons x xs ih =>
    rw [List.flatMap_cons] at h
    rcases List.append_eq_append_iff.mp h with ⟨front', rfl, htail⟩ | ⟨inner, hx, hrest⟩
    · obtain ⟨before, x', after, inner, rest, rfl, hx', rfl⟩ := ih htail
      exact ⟨x :: before, x', after, inner, rest, rfl, hx', by simp⟩
    · cases inner with
      | nil =>
        have htail : xs.flatMap f = [] ++ b :: back := hrest.symm
        obtain ⟨before, x', after, inner, rest, rfl, hx', hfront⟩ := ih htail
        refine ⟨x :: before, x', after, inner, rest, rfl, hx', ?_⟩
        rw [List.flatMap_cons, List.append_assoc, ← hfront, hx, List.append_nil, List.append_nil]
      | cons b' inner =>
        obtain ⟨rfl, _⟩ := List.cons.inj hrest
        exact ⟨[], x, xs, front, inner, rfl, hx, rfl⟩

namespace Registry

/-- Where a run stops short: the entries `made` are in, and the next one fails, because its step does or because its
name is taken. -/
structure StopsAt (reg : Registry) (kind : String) (steps : List Step) (es made : List Entry) (e : Entry)
    (why : ResourceError) : Prop where
  front : ∃ rest, es = made ++ e :: rest
  admits : reg.Admits made
  cause : (∃ more, steps = made.map .ok ++ .error why :: more) ∨
    (∃ more, steps = made.map .ok ++ .ok e :: more) ∧
      ∃ reason, (reg.extend made).enter e = .error reason ∧ why = ⟨kind, .rejected reason⟩

/-- A run makes every entry, or it stops short. Nothing that it made before is taken back. -/
theorem run_cases (reg : Registry) (kind : String) (h : List.Forall₂ Yields steps es) :
    (steps = es.map .ok ∧ reg.Admits es ∧
        reg.run kind steps = ⟨reg.extend es, es.flatMap Entry.logged, none⟩) ∨
      ∃ made e why, reg.StopsAt kind steps es made e why ∧
        reg.run kind steps = ⟨reg.extend made, made.flatMap Entry.logged, some why⟩ := by
  induction h generalizing reg with
  | nil => exact .inl ⟨rfl, trivial, rfl⟩
  | @cons step e steps es hstep _ ih =>
    cases step with
    | error why => exact .inr ⟨[], e, why, ⟨⟨es, rfl⟩, trivial, .inl ⟨steps, rfl⟩⟩, rfl⟩
    | ok made =>
      obtain rfl := hstep made rfl
      cases henter : reg.enter made with
      | error reason =>
        refine .inr ⟨[], made, ⟨kind, .rejected reason⟩, ⟨⟨es, rfl⟩, trivial, .inr ⟨⟨steps, rfl⟩, ?_⟩⟩, ?_⟩
        · exact ⟨reason, henter, rfl⟩
        · simp [run, henter]
      | ok next =>
        obtain ⟨hfree, rfl⟩ := enter_eq_ok_iff.mp henter
        rcases ih (reg.put made) with ⟨rfl, hadmits, hrun⟩ | ⟨front, e', why, ⟨⟨rest, rfl⟩, hadmits, hcause⟩, hrun⟩
        · refine .inl ⟨rfl, ⟨hfree, hadmits⟩, ?_⟩
          simp [run, henter, hrun]
        · refine .inr ⟨made :: front, e', why, ⟨⟨rest, rfl⟩, ⟨hfree, hadmits⟩, ?_⟩, by simp [run, henter, hrun]⟩
          rcases hcause with ⟨more, rfl⟩ | ⟨⟨more, rfl⟩, hcause⟩
          · exact .inl ⟨more, rfl⟩
          · exact .inr ⟨⟨more, rfl⟩, hcause⟩

/-- A run makes entries from the front of the list. It makes all of them unless it fails. -/
theorem run_of_yields (reg : Registry) (kind : String) (h : List.Forall₂ Yields steps es) :
    ∃ made rest, es = made ++ rest ∧ (reg.run kind steps).registry = reg.extend made ∧
      ((reg.run kind steps).error = none ↔ rest = []) := by
  rcases reg.run_cases kind h with ⟨_, _, hrun⟩ | ⟨made, e, why, ⟨⟨rest, rfl⟩, _, _⟩, hrun⟩
  · exact ⟨es, [], (List.append_nil es).symm, by rw [hrun], by rw [hrun]; simp⟩
  · exact ⟨made, e :: rest, rfl, by rw [hrun], by rw [hrun]; simp⟩

theorem run_error_eq_none_iff (reg : Registry) (kind : String) (h : List.Forall₂ Yields steps es) :
    (reg.run kind steps).error = none ↔ (∀ step ∈ steps, Succeeds step) ∧ reg.Admits es := by
  rcases reg.run_cases kind h with ⟨rfl, hadmits, hrun⟩ | ⟨made, e, why, ⟨⟨rest, rfl⟩, _, hcause⟩, hrun⟩
  · rw [hrun]
    exact iff_of_true rfl ⟨List.forall_mem_map.mpr fun e _ => ⟨e, rfl⟩, hadmits⟩
  · rw [hrun]
    simp only [reduceCtorEq, false_iff]
    intro ⟨hsteps, hadmits⟩
    rcases hcause with ⟨more, rfl⟩ | ⟨_, reason, henter, _⟩
    · obtain ⟨_, hmade⟩ := hsteps (.error why) (by simp)
      cases hmade
    · obtain ⟨hfree, _⟩ := (admits_append.mp hadmits).2
      rw [enter_eq_ok_iff.mpr ⟨hfree, rfl⟩] at henter
      cases henter

/-- A step that fails may stand for any entry. -/
private theorem exists_yields (steps : List Step) : ∃ es, List.Forall₂ Yields steps es := by
  induction steps with
  | nil => exact ⟨[], .nil⟩
  | cons step steps ih =>
    obtain ⟨es, hes⟩ := ih
    cases step with
    | error why => exact ⟨.importFile "" :: es, .cons (fun _ h => nomatch h) hes⟩
    | ok e => exact ⟨e :: es, .cons (fun _ h => (Except.ok.inj h).symm) hes⟩

/-- Any steps at all leave the registry extended by entries that it admits. -/
theorem run_registry (reg : Registry) (kind : String) (steps : List Step) :
    ∃ made, reg.Admits made ∧ (reg.run kind steps).registry = reg.extend made := by
  obtain ⟨es, hyield⟩ := exists_yields steps
  rcases reg.run_cases kind hyield with ⟨_, hadmits, hrun⟩ | ⟨made, e, why, hstop, hrun⟩
  · exact ⟨es, hadmits, by rw [hrun]⟩
  · exact ⟨made, hstop.admits, by rw [hrun]⟩

/-- What ends a run of any steps: the error of one of them, or an entry that is refused. -/
theorem error_of_run {reg : Registry} {kind : String} {why : ResourceError}
    (h : (reg.run kind steps).error = some why) :
    .error why ∈ steps ∨ ∃ (reg' : Registry) (e : Entry) (reason : Rejection),
      reg'.enter e = .error reason ∧ why = ⟨kind, .rejected reason⟩ := by
  obtain ⟨es, hyield⟩ := exists_yields steps
  rcases reg.run_cases kind hyield with ⟨_, _, hrun⟩ | ⟨made, e, why', hstop, hrun⟩
  · rw [hrun] at h
    cases h
  · rw [hrun] at h
    obtain rfl := Option.some.inj h
    rcases hstop.cause with ⟨more, rfl⟩ | ⟨_, reason, henter, rfl⟩
    · exact .inl (by simp)
    · exact .inr ⟨_, e, reason, henter, rfl⟩

end Registry

namespace Graph

variable {n : Nat} {g : Graph n} {pool : Pool} {i : Fin n} {reg reg' : Registry} {is : List (Fin n)}

theorem compileInto_run (g : Graph n) (pool : Pool) (i : Fin n) (reg : Registry) :
    (g.compileInto pool i reg).registry = (reg.run (g.kind i) (g.site pool i reg.package (g.kind i)).steps).registry ∧
      (g.compileInto pool i reg).error = (reg.run (g.kind i) (g.site pool i reg.package (g.kind i)).steps).error := by
  simp only [compileInto]
  split <;> exact ⟨rfl, rfl⟩

/-- What a call can do: bring in the whole block and say so in the log, or stop short. -/
theorem compileInto_cases (g : Graph n) (pool : Pool) (i : Fin n) (reg : Registry) :
    let steps := (g.site pool i reg.package (g.kind i)).steps
    let es := (g.blueprint reg.package i).entries pool
    (steps = es.map .ok ∧ reg.Admits es ∧ g.compileInto pool i reg = ⟨reg.extend es,
        es.flatMap Entry.logged ++ [.resource (g.kind i) (g.resource i).methods.size], none⟩) ∨
      ∃ made e why, reg.StopsAt (g.kind i) steps es made e why ∧
        g.compileInto pool i reg = ⟨reg.extend made, made.flatMap Entry.logged, some why⟩ := by
  intro steps es
  rcases reg.run_cases (g.kind i) (Site.steps_yield g pool i reg.package) with
    ⟨hsteps, hadmits, hrun⟩ | ⟨made, e, why, hstop, hrun⟩
  · refine .inl ⟨hsteps, hadmits, ?_⟩
    rw [kind] at hrun
    simp only [compileInto, hrun, kind]
    rfl
  · refine .inr ⟨made, e, why, hstop, ?_⟩
    rw [kind] at hrun
    simp only [compileInto, hrun]

/-- Whatever becomes of the call, the registry is extended by the front part of the resource's block. -/
theorem compileInto_registry (g : Graph n) (pool : Pool) (i : Fin n) (reg : Registry) :
    ∃ made rest, (g.blueprint reg.package i).entries pool = made ++ rest ∧
      (g.compileInto pool i reg).registry = reg.extend made ∧
      ((g.compileInto pool i reg).error = none ↔ rest = []) := by
  obtain ⟨hreg, herror⟩ := g.compileInto_run pool i reg
  rw [hreg, herror]
  exact reg.run_of_yields _ (Site.steps_yield g pool i reg.package)

theorem compileInto_error_eq_none_iff :
    (g.compileInto pool i reg).error = none ↔
      (∀ step ∈ (g.site pool i reg.package (g.kind i)).steps, Succeeds step) ∧
        reg.Admits ((g.blueprint reg.package i).entries pool) := by
  rw [(g.compileInto_run pool i reg).2]
  exact reg.run_error_eq_none_iff _ (Site.steps_yield g pool i reg.package)

/-- The entries of the blocks of several resources. -/
def blocks (g : Graph n) (pool : Pool) (package : String) (is : List (Fin n)) : List Entry :=
  is.flatMap fun i => (g.blueprint package i).entries pool

theorem compileAll_eq_ok_iff :
    g.compileAll pool reg is = .ok reg' ↔
      (∀ i ∈ is, ∀ step ∈ (g.site pool i reg.package (g.kind i)).steps, Succeeds step) ∧
        reg.Admits (g.blocks pool reg.package is) ∧ reg' = reg.extend (g.blocks pool reg.package is) := by
  induction is generalizing reg with
  | nil => simp [compileAll, blocks, Registry.Admits, eq_comm]
  | cons i is ih =>
    have hblocks : g.blocks pool reg.package (i :: is) =
        (g.blueprint reg.package i).entries pool ++ g.blocks pool reg.package is := List.flatMap_cons
    rw [compileAll, List.forall_mem_cons, hblocks, Registry.admits_append, Registry.extend_append]
    obtain ⟨made, rest, hsplit, hreg, hrest⟩ := g.compileInto_registry pool i reg
    cases herror : (g.compileInto pool i reg).error with
    | none =>
      obtain ⟨hsteps, hadmits⟩ := compileInto_error_eq_none_iff.mp herror
      have hnext : (g.compileInto pool i reg).registry = reg.extend ((g.blueprint reg.package i).entries pool) := by
        rw [hreg, hsplit, hrest.mp herror, List.append_nil]
      simp only [hnext, ih, Registry.package_extend]
      constructor
      · rintro ⟨hrestSteps, hrestAdmits, hend⟩
        exact ⟨⟨hsteps, hrestSteps⟩, ⟨hadmits, hrestAdmits⟩, hend⟩
      · rintro ⟨⟨_, hrestSteps⟩, ⟨_, hrestAdmits⟩, hend⟩
        exact ⟨hrestSteps, hrestAdmits, hend⟩
    | some why =>
      simp only [reduceCtorEq, false_iff]
      rintro ⟨⟨hsteps, _⟩, ⟨hadmits, _⟩, _⟩
      rw [compileInto_error_eq_none_iff.mpr ⟨hsteps, hadmits⟩] at herror
      cases herror

end Graph

namespace Blueprint

variable (b : Blueprint) (pool : Pool)

theorem filterMap_message_entries : (b.entries pool).filterMap Entry.message? = b.messages := by
  have hmethod (m : Method) : (b.methodEntries pool m).filterMap Entry.message? = b.methodMessages m := by
    simp [methodEntries, List.filterMap_map, Function.comp_def, Entry.message?]
  change b.resource.ownMessage :: (b.methods.flatMap (b.methodEntries pool)).filterMap Entry.message? = _
  rw [List.filterMap_flatMap]
  simp only [hmethod, messages]

theorem filterMap_rpc_entries : (b.entries pool).filterMap Entry.rpc? = b.rpcs := by
  have hmethod (m : Method) : (b.methodEntries pool m).filterMap Entry.rpc? = [b.rpc m] := by
    simp [methodEntries, List.filterMap_map, Function.comp_def, Entry.rpc?]
  rw [entries, List.filterMap_cons_none rfl, List.filterMap_flatMap]
  simp only [hmethod, rpcs, List.map_eq_flatMap]

theorem filterMap_file_entries : (b.entries pool).filterMap Entry.file? = b.imports pool := by
  have hmethod (m : Method) : (b.methodEntries pool m).filterMap Entry.file? = m.wellKnown.map pool.home := by
    simp [methodEntries, List.filterMap_map, Function.comp_def, Entry.file?]
  rw [entries, List.filterMap_cons_none rfl, List.filterMap_flatMap]
  simp only [hmethod, imports]

end Blueprint

end ResourceApi
