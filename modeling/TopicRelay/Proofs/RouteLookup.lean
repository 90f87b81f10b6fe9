import TopicRelay.Bridge.Session
import TopicRelay.Proofs.Relays
import TopicRelay.Proofs.RouteIndex

/-!
# Looking up the routes of a topic

A table is grown queue by queue, and a queue whose name is there already is passed over; so the
routes have the names of the queues in the order in which they first occur (`ids_addAll`) and each
leads from the first queue of its name (`first_addAll`).  Since the index is right
(`RouteTable.indexed_build`), going by way of it finds the same routes in the same order as looking
at all of them (`RouteTable.Indexed.routesFor_eq_scan`).

A run keeps its table and has a slot for every route, whatever is activated or stopped, so the
lookup stays right as long as the bridge lives (`index_agrees_with_scan`).
-/

namespace TopicRelay

set_option autoImplicit false

/-- Of the items of a list each is kept where it first occurs. -/
theorem eraseDups_concat {α : Type} [DecidableEq α] (items : List α) (last : α) :
    (items ++ [last]).eraseDups =
      if last ∈ items then items.eraseDups else items.eraseDups ++ [last] := by
  rw [List.eraseDups_append]
  by_cases old : last ∈ items <;> simp [List.removeAll, List.eraseDups_cons, old]

namespace RouteTable

/-! ## Growing a table -/

/-- The queues of a table are added one after the other. -/
theorem addAll_concat (scheme : TopicScheme) (table : RouteTable) (queues : List QueueName)
    (last : QueueName) :
    (table.addAll scheme (queues ++ [last])).1 =
      ((table.addAll scheme queues).1.add scheme last).1 := by
  induction queues generalizing table with
  | nil => rfl
  | cons queue queues ih => exact ih (table.add scheme queue).1

/-- A queue whose name has a route changes nothing, and nothing is reported of it. -/
theorem add_of_mem {scheme : TopicScheme} {table : RouteTable} {queue : QueueName}
    (known : queue.raw ∈ table.routes.map (·.id)) : table.add scheme queue = (table, []) := by
  obtain ⟨route, among, same⟩ := List.mem_map.mp known
  have found : (table.routes.any fun route => route.id == queue.raw) = true :=
    List.any_eq_true.mpr ⟨route, among, beq_iff_eq.mpr same⟩
  rw [add, if_pos found]

/-- A queue whose name has no route gets one at the end. -/
theorem routes_add_of_not_mem {scheme : TopicScheme} {table : RouteTable} {queue : QueueName}
    (new : queue.raw ∉ table.routes.map (·.id)) :
    (table.add scheme queue).1.routes = table.routes ++ [⟨queue, scheme.topics queue⟩] := by
  rw [add, if_neg]
  intro known
  obtain ⟨route, among, same⟩ := List.any_eq_true.mp known
  exact new (List.mem_map.mpr ⟨route, among, beq_iff_eq.mp same⟩)

/-- The routes have the names of the queues, in the order in which they first occur. -/
theorem ids_addAll (scheme : TopicScheme) (queues : List QueueName) :
    (addAll scheme {} queues).1.routes.map (·.id) = (queues.map (·.raw)).eraseDups := by
  induction queues using List.reverseRecOn with
  | nil => rfl
  | append_singleton queues last ih =>
      have known : last.raw ∈ (addAll scheme {} queues).1.routes.map (·.id) ↔
          last.raw ∈ queues.map (·.raw) := by
        rw [ih, List.mem_eraseDups]
      rw [addAll_concat, List.map_append, List.map_singleton, eraseDups_concat, ← ih]
      by_cases old : last.raw ∈ queues.map (·.raw)
      · rw [add_of_mem (known.mpr old), if_pos old]
      · rw [routes_add_of_not_mem (mt known.mp old), if_neg old, List.map_append]
        rfl

/-- A route leads from the first queue of its name to the topics of that queue. -/
theorem first_addAll (scheme : TopicScheme) (queues : List QueueName) :
    ∀ route ∈ (addAll scheme {} queues).1.routes,
      queues.find? (fun queue => queue.raw == route.id) = some route.queue ∧
        route.topics = scheme.topics route.queue := by
  induction queues using List.reverseRecOn with
  | nil => simp [addAll]
  | append_singleton queues last ih =>
      have before : ∀ route ∈ (addAll scheme {} queues).1.routes,
          (queues ++ [last]).find? (fun queue => queue.raw == route.id) = some route.queue ∧
            route.topics = scheme.topics route.queue := by
        intro route among
        obtain ⟨first, topics⟩ := ih route among
        exact ⟨by rw [List.find?_append, first, Option.some_or], topics⟩
      rw [addAll_concat]
      by_cases old : last.raw ∈ (addAll scheme {} queues).1.routes.map (·.id)
      · rwa [add_of_mem old]
      · rw [routes_add_of_not_mem old]
        intro route among
        rcases List.mem_append.mp among with there | new
        · exact before route there
        · cases List.mem_singleton.mp new
          have unknown : queues.find? (fun queue => queue.raw == last.raw) = none := by
            rw [ids_addAll, List.mem_eraseDups] at old
            simpa using old
          refine ⟨?_, rfl⟩
          change List.find? (fun queue : QueueName => queue.raw == last.raw) _ = _
          rw [List.find?_append, unknown]
          simp

/-! ## Looking up -/

variable {table : RouteTable}

/-- All places of a list hold the whole list. -/
theorem filterMap_getElem?_range {α : Type} (items : List α) :
    (List.range items.length).filterMap (fun place => items[place]?) = items := by
  induction items using List.reverseRecOn with
  | nil => rfl
  | append_singleton items last ih =>
      rw [List.length_append, List.length_singleton, List.range_succ, List.filterMap_append]
      have before : (List.range items.length).filterMap (fun place => (items ++ [last])[place]?) =
          (List.range items.length).filterMap fun place => items[place]? := by
        refine List.filterMap_congr fun place among => ?_
        rw [List.getElem?_append_left (List.mem_range.mp among)]
      rw [before, ih]
      simp

/-- The positions of a topic go up. -/
theorem Indexed.positions_increase (indexed : table.Indexed) (topic : String) :
    (table.positions topic).Pairwise (· < ·) := by
  rw [indexed topic]
  exact List.pairwise_lt_range.filter _

/-- **Going by way of the index finds what looking at every route finds.** -/
theorem Indexed.routesFor_eq_scan (indexed : table.Indexed) (topic : String) :
    table.routesFor topic = table.scan topic := by
  conv_rhs => rw [scan, ← filterMap_getElem?_range table.routes, List.filter_filterMap]
  rw [routesFor, indexed topic, List.filterMap_filter]
  refine List.filterMap_congr fun place _ => ?_
  cases table.routes[place]? with
  | none => rfl
  | some route => simp [Option.filter]

/-- A topic is among the topics of a table if looking at every route finds a route of it. -/
theorem mem_topics_iff_scan {topic : String} :
    topic ∈ table.topics none ↔ table.scan topic ≠ [] := by
  rw [topics, Names.mem_ofList, scan]
  simp [inScope, List.filter_eq_nil_iff]

/-- What a table of some queues must be like: its routes are those of the queues, each once, and
going by way of the index finds the same routes as looking at all of them. -/
structure Resolves (scheme : TopicScheme) (queues : List QueueName) (table : RouteTable) :
    Prop where
  /-- There is one route for each name, in the order in which the names first occur. -/
  ids : table.routes.map (·.id) = (queues.map (·.raw)).eraseDups
  /-- A route leads from the first queue of its name to the topics of that queue. -/
  first : ∀ route ∈ table.routes,
    queues.find? (fun queue => queue.raw == route.id) = some route.queue ∧
      route.topics = scheme.topics route.queue
  /-- The index never points beyond the routes, and goes up. -/
  bounded : ∀ topic, ∀ place ∈ table.positions topic, place < table.routes.length
  increasing : ∀ topic, (table.positions topic).Pairwise (· < ·)
  /-- The routes of a topic are those that publish it, in the order of the table and each once. -/
  scanned : ∀ topic, table.routesFor topic = table.scan topic
  distinct : ∀ topic, (table.routesFor topic).Nodup
  /-- The advertised topics are those that have routes. -/
  advertised : ∀ topic, topic ∈ table.topics none ↔ table.routesFor topic ≠ []

theorem resolves_build (scheme : TopicScheme) (queues : List QueueName) :
    (build scheme queues).1.Resolves scheme queues := by
  have indexed := indexed_build scheme queues
  have ids : ((build scheme queues).1.routes.map (·.id)).Nodup :=
    ids_nodup_addAll scheme (by simp) queues
  exact {
    ids := ids_addAll scheme queues
    first := first_addAll scheme queues
    bounded := fun topic place among => by
      obtain ⟨route, here, _⟩ := indexed.mem_positions.mp among
      exact (List.getElem?_eq_some_iff.mp here).1
    increasing := indexed.positions_increase
    scanned := indexed.routesFor_eq_scan
    distinct := fun topic => by
      rw [indexed.routesFor_eq_scan]
      exact ids.of_map.filter _
    advertised := fun topic => by rw [indexed.routesFor_eq_scan, mem_topics_iff_scan] }

end RouteTable

/-! ## The routes of a run -/

/-- A route of a run keeps its slot. -/
theorem Moves.slot?_isSome {state next : State} {move : Move} {effects : List Effect} {run : RunId}
    {place : Place} (moved : Moves state move next effects)
    (there : (state.slot? run place).isSome = true) : (next.slot? run place).isSome = true := by
  obtain ⟨slot, found⟩ := Option.isSome_iff_exists.mp there
  cases moved.routing with
  | kept keeps =>
      obtain ⟨after, now, _⟩ := keeps.forward found
      exact Option.isSome_of_eq_some now
  | spawned _ _ =>
      change ((state.modifySlot _ _ _).slot? run place).isSome = true
      simp [State.slot?_modifySlot, found]
  | withdrawn _ _ _ _ =>
      change ((state.modifySlot _ _ _).slot? run place).isSome = true
      simp [State.slot?_modifySlot, found]

theorem History.slot?_isSome {middle now : State} {later : List Occurrence} {run : RunId}
    {place : Place} (rest : History middle later now)
    (there : (middle.slot? run place).isSome = true) : (now.slot? run place).isSome = true := by
  induction rest with
  | start => exact there
  | move _ step ih => exact (step_cases step).slot?_isSome ih

/-- **The index agrees with a look at all routes**, in the table of any queues and in every state
that a bridge reaches once the table is that of a run: every place that the index names has a
route and a slot. -/
theorem index_agrees_with_scan (scheme : TopicScheme) (queues : List QueueName) :
    (RouteTable.build scheme queues).1.Resolves scheme queues ∧
      ∀ {middle now : State} {later : List Occurrence} {run : RunId} {principal : String},
        middle.run? run = some (Run.fresh principal (RouteTable.build scheme queues).1) →
        History middle later now →
        ∃ found, now.run? run = some found ∧ found.table.Resolves scheme queues ∧
          (∀ topic, ∀ place ∈ found.table.positions topic, ∃ route slot,
            now.activationAt run place = some (found, route, slot) ∧ topic ∈ route.topics) ∧
          (now.running = some run → ∀ topic,
            topic ∈ now.advertisedTopics none ↔ found.table.routesFor topic ≠ []) := by
  refine ⟨RouteTable.resolves_build scheme queues, ?_⟩
  intro middle now later run principal fresh rest
  have before : middle.table? run = some (RouteTable.build scheme queues).1 := by
    simp [State.table?, fresh, Run.fresh]
  obtain ⟨found, present, table⟩ := Option.map_eq_some_iff.mp (rest.table? before)
  have resolves : found.table.Resolves scheme queues :=
    table ▸ RouteTable.resolves_build scheme queues
  have indexed : found.table.Indexed := table ▸ RouteTable.indexed_build scheme queues
  refine ⟨found, present, resolves, fun topic place among => ?_, fun running topic => ?_⟩
  · obtain ⟨route, here, publishes⟩ := indexed.mem_positions.mp among
    have slotted : (middle.slot? run place).isSome = true := by
      rw [table] at here
      simpa [State.slot?, fresh, Run.fresh] using (List.getElem?_eq_some_iff.mp here).1
    obtain ⟨slot, kept⟩ := Option.isSome_iff_exists.mp (rest.slot?_isSome slotted)
    obtain ⟨same, whose, occupied⟩ := State.slot?_eq_some_iff.mp kept
    cases present.symm.trans whose
    exact ⟨route, slot, by simp [State.activationAt, present, here, occupied], publishes⟩
  · simp only [State.advertisedTopics, State.runningRun?, running, Option.bind_some, present]
    exact resolves.advertised topic

/-- The names of three queues, of which one is listed three times. -/
def repeatedNames : List String := ["Q", "CWMS_20.SPK_A", "Q", "CWMS_20.SPK_B", "Q"]

/-- The queues of these names. -/
def repeatedQueues : List QueueName := repeatedNames.map (State.scripted []).scheme.parse

/-- A queue that is listed three times has one route, and the topic of two queues is found at both
of them after one of them has been started. -/
theorem repeated_queue_has_one_route :
    ∃ past middle later now found, History (State.scripted repeatedNames) past middle ∧
      History middle later now ∧ now.run? 0 = some found ∧
        found.table.routes.map (·.id) = ["Q", "CWMS_20.SPK_A", "CWMS_20.SPK_B"] ∧
          found.isStarted 1 = true ∧
            (∃ route slot, now.activationAt 0 2 = some (found, route, slot) ∧
              "CDA.SPK.ALL" ∈ route.topics) ∧
                found.table.routesFor "CDA.SPK.ALL" ≠ [] := by
  obtain ⟨past, middle, history, checked⟩ :=
    History.exists_of_record (State.scripted repeatedNames) (startMoves 0)
      (fun _ middle => middle.run? 0 ==
          some (.fresh "SERVICE" (RouteTable.build (State.scripted []).scheme repeatedQueues).1) &&
        (middle.record (.arrive (.attach "CDA.SPK.A") :: List.replicate 9 (.job 1))).any
          fun reached => reached.2.running == some 0 &&
            reached.2.advertisedTopics none == ["CDA.SPK.A", "CDA.SPK.ALL", "CDA.SPK.B", "Q"] &&
              (reached.2.run? 0).any fun found =>
                found.isStarted 1 && found.table.positions "CDA.SPK.ALL" == [1, 2]) rfl
  simp only [Bool.and_eq_true, beq_iff_eq, Option.any_eq_true] at checked
  obtain ⟨fresh, ⟨later, now⟩, recorded, ⟨running, topics⟩, found, present, started, positions⟩ :=
    checked
  obtain ⟨same, there, resolves, slotted, advertised⟩ :=
    (index_agrees_with_scan (State.scripted []).scheme repeatedQueues).2 fresh (.of_record recorded)
  cases present.symm.trans there
  refine ⟨past, middle, later, now, found, history, .of_record recorded, present, ?_, started,
    slotted "CDA.SPK.ALL" 2 (by simp [positions]),
    (advertised running "CDA.SPK.ALL").mp (by simp [topics])⟩
  rw [resolves.ids]
  decide

end TopicRelay
