import TopicRelay.Bridge.Step

/-!
# What can be observed of a run

The slots of a run, its table and whether it still starts routes are what the turns of
calls read and change.  Each small change of a state is described here by what it does to
these observations, so that no later proof looks into the list of runs.
-/

namespace TopicRelay

set_option autoImplicit false

/-- What stands in a list that has grown by one item. -/
theorem getElem?_concat_eq_ite {α : Type} (items : List α) (last : α) (index : Nat) :
    (items ++ [last])[index]? = if index = items.length then some last else items[index]? := by
  rcases Nat.lt_trichotomy index items.length with old | rfl | beyond
  · rw [List.getElem?_append_left old, if_neg (Nat.ne_of_lt old)]
  · simp
  · have outside : (items ++ [last]).length ≤ index := by
      rw [List.length_append, List.length_singleton]
      omega
    rw [if_neg (Nat.ne_of_gt beyond), List.getElem?_eq_none outside,
      List.getElem?_eq_none (Nat.le_of_lt beyond)]

theorem getElem?_concat_eq_some {α : Type} {items : List α} {last found : α} {index : Nat} :
    (items ++ [last])[index]? = some found ↔
      items[index]? = some found ∨ (index = items.length ∧ last = found) := by
  rw [getElem?_concat_eq_ite]
  split
  · rename_i same
    simp [same]
  · rename_i different
    simp [different]

/-! ## Guards -/

namespace Guard

/-- Whoever holds a guard keeps it when another job asks for it. -/
theorem holder_request_of_some {guard : Guard} {holder : JobId} (job : JobId)
    (held : guard.holder = some holder) : (guard.request job).holder = some holder := by
  simp [request, held]

theorem heldBy_iff {guard : Guard} {job : JobId} :
    guard.heldBy job = true ↔ guard.holder = some job := by
  simp [heldBy]

end Guard

namespace State

variable {state : State} {run other : RunId} {place spot : Place}

/-! ## Observations -/

/-- Whether a run still starts routes. -/
def accepting? (state : State) (run : RunId) : Option Bool := (state.run? run).map (·.accepting)

/-- The routes of a run. -/
def table? (state : State) (run : RunId) : Option RouteTable := (state.run? run).map (·.table)

theorem slot?_eq_some_iff {slot : RouteSlot} :
    state.slot? run place = some slot ↔
      ∃ found, state.run? run = some found ∧ found.slots[place]? = some slot := by
  simp [slot?, Option.bind_eq_some_iff]

theorem route?_eq_some_iff {route : Route} :
    state.route? run place = some route ↔
      ∃ table, state.table? run = some table ∧ table.routes[place]? = some route := by
  simp only [route?, table?, Option.bind_eq_some_iff, Option.map_eq_some_iff]
  constructor
  · rintro ⟨found, present, atPlace⟩
    exact ⟨found.table, ⟨found, present, rfl⟩, atPlace⟩
  · rintro ⟨_, ⟨found, present, rfl⟩, atPlace⟩
    exact ⟨found, present, atPlace⟩

theorem run?_isSome_iff : (state.run? run).isSome ↔ run < state.runs.length := by
  simp [run?]

theorem accepting?_isSome_iff : (state.accepting? run).isSome ↔ run < state.runs.length := by
  simp [accepting?, run?]

theorem accepting?_eq_some_lt {accepting : Bool} (found : state.accepting? run = some accepting) :
    run < state.runs.length :=
  accepting?_isSome_iff.mp (by simp [found])

theorem slot?_eq_some_lt {slot : RouteSlot} (found : state.slot? run place = some slot) :
    run < state.runs.length := by
  obtain ⟨_, exists_run, _⟩ := slot?_eq_some_iff.mp found
  exact run?_isSome_iff.mp (by simp [exists_run])

/-- Two states with the same runs look the same. -/
theorem slot?_congr {next : State} (same : next.runs = state.runs) :
    next.slot? run place = state.slot? run place := by
  simp [slot?, run?, same]

theorem accepting?_congr {next : State} (same : next.runs = state.runs) :
    next.accepting? run = state.accepting? run := by
  simp [accepting?, run?, same]

theorem table?_congr {next : State} (same : next.runs = state.runs) :
    next.table? run = state.table? run := by
  simp [table?, run?, same]

/-! ## Changing a run -/

theorem run?_modifyRun (change : Run → Run) :
    (state.modifyRun run change).run? other =
      (state.run? other).map fun found => if run = other then change found else found := by
  simp [modifyRun, run?, List.getElem?_modify]

/-- A change of a run that leaves its slots alone. -/
theorem slot?_modifyRun {change : Run → Run} (keeps : ∀ found, (change found).slots = found.slots) :
    (state.modifyRun run change).slot? other place = state.slot? other place := by
  simp only [slot?, run?_modifyRun, Option.bind_map]
  congr 1
  funext found
  by_cases same : run = other <;> simp [same, keeps]

/-- A change of a run that leaves its routes alone. -/
theorem table?_modifyRun {change : Run → Run}
    (keeps : ∀ found, (change found).table = found.table) :
    (state.modifyRun run change).table? other = state.table? other := by
  simp only [table?, run?_modifyRun, Option.map_map]
  congr 1
  funext found
  by_cases same : run = other <;> simp [same, keeps]

/-- A run that does not start routes any more. -/
def refuse (state : State) (run : RunId) : State :=
  state.modifyRun run fun found => { found with accepting := false }

@[simp] theorem slot?_refuse : (state.refuse run).slot? other place = state.slot? other place :=
  slot?_modifyRun fun _ => rfl

@[simp] theorem table?_refuse : (state.refuse run).table? other = state.table? other :=
  table?_modifyRun fun _ => rfl

theorem accepting?_refuse :
    (state.refuse run).accepting? other =
      (state.accepting? other).map fun accepting => if run = other then false else accepting := by
  simp only [accepting?, refuse, run?_modifyRun, Option.map_map]
  congr 1
  funext found
  by_cases same : run = other <;> simp [same]

theorem accepting?_refuse_self {accepting : Bool} (found : state.accepting? run = some accepting) :
    (state.refuse run).accepting? run = some false := by
  simp [accepting?_refuse, found]

/-- A run that starts no routes does not begin to start them again. -/
theorem accepting?_refuse_of_false (refuses : state.accepting? other = some false) :
    (state.refuse run).accepting? other = some false := by
  simp [accepting?_refuse, refuses]

@[simp] theorem length_runs_refuse : (state.refuse run).runs.length = state.runs.length := by
  simp [refuse, modifyRun]

/-! ## Changing a slot -/

theorem slot?_modifySlot (change : RouteSlot → RouteSlot) :
    (state.modifySlot run place change).slot? other spot =
      (state.slot? other spot).map fun slot =>
        if run = other ∧ place = spot then change slot else slot := by
  simp only [modifySlot, slot?, run?_modifyRun, Option.bind_map]
  cases state.run? other with
  | none => rfl
  | some found =>
      by_cases same : run = other
      · simp [same, List.getElem?_modify]
      · simp [same]

theorem slot?_modifySlot_of_some {change : RouteSlot → RouteSlot} {slot : RouteSlot}
    (found : state.slot? run place = some slot) :
    (state.modifySlot run place change).slot? run place = some (change slot) := by
  simp [slot?_modifySlot, found]

theorem exists_of_slot?_modifySlot {change : RouteSlot → RouteSlot} {slot : RouteSlot}
    (found : (state.modifySlot run place change).slot? run place = some slot) :
    ∃ before, state.slot? run place = some before ∧ change before = slot := by
  simpa [slot?_modifySlot] using found

theorem slot?_modifySlot_of_ne {change : RouteSlot → RouteSlot}
    (different : (run, place) ≠ (other, spot)) :
    (state.modifySlot run place change).slot? other spot = state.slot? other spot := by
  have apart : ¬(run = other ∧ place = spot) := fun ⟨sameRun, samePlace⟩ =>
    different (by rw [sameRun, samePlace])
  simp [slot?_modifySlot, apart]

@[simp] theorem accepting?_modifySlot (change : RouteSlot → RouteSlot) :
    (state.modifySlot run place change).accepting? other = state.accepting? other := by
  simp only [accepting?, modifySlot, run?_modifyRun, Option.map_map]
  congr 1
  funext found
  by_cases same : run = other <;> simp [same]

@[simp] theorem table?_modifySlot (change : RouteSlot → RouteSlot) :
    (state.modifySlot run place change).table? other = state.table? other :=
  table?_modifyRun fun _ => rfl

@[simp] theorem length_runs_modifySlot (change : RouteSlot → RouteSlot) :
    (state.modifySlot run place change).runs.length = state.runs.length := by
  simp [modifySlot, modifyRun]

/-! ## Setting up a run -/

/-- A state with one more run. -/
def addRun (state : State) (added : Run) : State := { state with runs := state.runs ++ [added] }

theorem run?_addRun {added : Run} :
    (state.addRun added).run? other =
      if other = state.runs.length then some added else state.run? other :=
  getElem?_concat_eq_ite state.runs added other

theorem slot?_addRun_of_lt {added : Run} (old : other < state.runs.length) :
    (state.addRun added).slot? other place = state.slot? other place := by
  simp [slot?, run?_addRun, Nat.ne_of_lt old]

theorem accepting?_addRun_of_eq_some {added : Run} {accepting : Bool}
    (found : state.accepting? other = some accepting) :
    (state.addRun added).accepting? other = some accepting := by
  have old := Nat.ne_of_lt (accepting?_eq_some_lt found)
  simpa [accepting?, run?_addRun, old] using found

theorem accepting?_addRun_self {added : Run} :
    (state.addRun added).accepting? state.runs.length = some added.accepting := by
  simp [accepting?, run?_addRun]

theorem table?_addRun_of_lt {added : Run} (old : other < state.runs.length) :
    (state.addRun added).table? other = state.table? other := by
  simp [table?, run?_addRun, Nat.ne_of_lt old]

/-! ## Jobs -/

/-- The jobs after the phase of one of them has been replaced. -/
theorem jobs_setJob {job id : JobId} {next found : Job}
    (present : (state.setJob job next).jobs[id]? = some found) :
    (id = job ∧ found = next) ∨ (id ≠ job ∧ state.jobs[id]? = some found) := by
  simp only [setJob, List.getElem?_set] at present
  split at present
  · rename_i same
    split at present
    · exact .inl ⟨same.symm, (Option.some.inj present).symm⟩
    · cases present
  · rename_i different
    exact .inr ⟨Ne.symm different, present⟩

theorem jobs_setJob_self {job : JobId} {next found : Job}
    (present : state.jobs[job]? = some found) :
    (state.setJob job next).jobs[job]? = some next := by
  have bound := (List.getElem?_eq_some_iff.mp present).1
  simp [setJob, bound]

theorem jobs_setJob_of_ne {job id : JobId} {next : Job} (different : id ≠ job) :
    (state.setJob job next).jobs[id]? = state.jobs[id]? := by
  simp [setJob, Ne.symm different]

/-! ## Relays -/

/-- The relays after one of them has been changed. -/
theorem relays_modifyRelay {relay id : RelayId} {change : Relay → Relay} {found : Relay}
    (present : (state.modifyRelay relay change).relays[id]? = some found) :
    (id = relay ∧ ∃ before, state.relays[relay]? = some before ∧ found = change before) ∨
      (id ≠ relay ∧ state.relays[id]? = some found) := by
  simp only [modifyRelay, List.getElem?_modify, Option.map_eq_map,
    Option.map_eq_some_iff] at present
  obtain ⟨before, there, changed⟩ := present
  split at changed
  · rename_i same
    subst same
    exact .inl ⟨rfl, before, there, changed.symm⟩
  · rename_i different
    subst changed
    exact .inr ⟨Ne.symm different, there⟩

theorem relays_modifyRelay_self {relay : RelayId} {change : Relay → Relay} {found : Relay}
    (present : state.relays[relay]? = some found) :
    (state.modifyRelay relay change).relays[relay]? = some (change found) := by
  simp [modifyRelay, present]

theorem relays_modifyRelay_of_ne {relay id : RelayId} {change : Relay → Relay}
    (different : id ≠ relay) :
    (state.modifyRelay relay change).relays[id]? = state.relays[id]? := by
  simp [modifyRelay, Ne.symm different]

/-- The relays after all of a run have been told to stop. -/
theorem relays_tellRelays {relay : RelayId} {found : Relay}
    (present : (state.tellRelays run).relays[relay]? = some found) :
    (∃ before, state.relays[relay]? = some before ∧ before.run = run ∧
        found = { before with told := true }) ∨
      found.run ≠ run ∧ state.relays[relay]? = some found := by
  simp only [tellRelays, List.getElem?_map, Option.map_eq_some_iff] at present
  obtain ⟨before, there, same⟩ := present
  split at same
  · rename_i mine
    exact .inl ⟨before, there, mine, same.symm⟩
  · rename_i different
    subst same
    exact .inr ⟨different, there⟩

theorem relays_tellRelays_of_ne {relay : RelayId} {found : Relay}
    (present : state.relays[relay]? = some found) (different : found.run ≠ run) :
    (state.tellRelays run).relays[relay]? = some found := by
  simp [tellRelays, present, different]

theorem relays_tellRelays_self {relay : RelayId} {found : Relay}
    (present : state.relays[relay]? = some found) (mine : found.run = run) :
    (state.tellRelays run).relays[relay]? = some { found with told := true } := by
  simp [tellRelays, present, mine]

/-- What does not depend on whether a relay was told to stop is the same for all relays. -/
theorem map_tellRelays {α : Type} (view : Relay → α)
    (kept : ∀ found : Relay, view { found with told := true } = view found) :
    (state.tellRelays run).relays.map view = state.relays.map view := by
  simp only [tellRelays, List.map_map]
  refine List.map_congr_left fun found _ => ?_
  simp only [Function.comp_apply]
  split
  · exact kept found
  · rfl

/-! ## Runs that nobody has hold of -/

theorem holds_eq_false_iff : state.holds run = false ↔
    state.running ≠ some run ∧ (∀ hooks, state.broker.hooks = some hooks → hooks.run ≠ run) ∧
      ∀ job ∈ state.jobs, job.holds run = false := by
  simp [holds, and_assoc, Option.any_eq_false]

end State

end TopicRelay
