import Mathlib.Data.List.Nodup
import TopicRelay.Route.RouteTable

/-!
# The index of a route table

A table finds the routes of a topic by way of an index that grows with it.  For every topic
the index lists the positions of the routes that publish the topic, in the order of the table
and without repetition (`RouteTable.Indexed`), so it finds what a look at all routes finds.
This holds of every table that was built (`RouteTable.indexed_build`).
-/

namespace TopicRelay

set_option autoImplicit false

/-! ## Growing an index -/

namespace TopicIndex

/-- A position is added to its topic, and to no other. -/
theorem positions_add (index : TopicIndex) (topic other : String) (position : Nat) :
    (index.add topic position).positions other =
      if other = topic then index.positions other ++ [position] else index.positions other := by
  induction index with
  | nil =>
      by_cases same : other = topic
      · simp [add, positions, same]
      · simp [add, positions, same, List.lookup_cons, beq_false_of_ne same]
  | cons entry index ih =>
      obtain ⟨label, found⟩ := entry
      rw [add]
      split
      · rename_i here
        subst here
        by_cases same : other = label
        · simp [positions, same]
        · simp [positions, same, List.lookup_cons, beq_false_of_ne same]
      · rename_i elsewhere
        by_cases same : other = label
        · subst same
          simp [positions, elsewhere]
        · simpa [positions, List.lookup_cons, beq_false_of_ne same] using ih

/-- A position is added to each of several topics. -/
theorem positions_addAll (index : TopicIndex) {topics : List String} (distinct : topics.Nodup)
    (other : String) (position : Nat) :
    (topics.foldl (fun index topic => index.add topic position) index).positions other =
      if other ∈ topics then index.positions other ++ [position] else index.positions other := by
  induction topics generalizing index with
  | nil => simp
  | cons topic topics ih =>
      obtain ⟨apart, rest⟩ := List.nodup_cons.mp distinct
      rw [List.foldl_cons, ih _ rest, positions_add]
      by_cases same : other = topic
      · subst same
        simp [apart]
      · simp [same]

end TopicIndex

/-- A queue has no topic twice. -/
theorem TopicScheme.topics_nodup (scheme : TopicScheme) (queue : QueueName) :
    (scheme.topics queue).Nodup := by
  unfold topics
  split
  · rename_i parts _
    by_cases same : scheme.topic parts.scope parts.group = scheme.topic parts.scope broadcastGroup
    · simp [List.eraseDups_cons, same]
    · simp [List.eraseDups_cons, beq_false_of_ne same, Ne.symm same]
  · simp

/-! ## Tables -/

namespace RouteTable

/-- A table gets the route of a queue at its end, if the queue has none yet. -/
theorem routes_add (scheme : TopicScheme) (table : RouteTable) (queue : QueueName) :
    (table.add scheme queue).1.routes = table.routes ∨
      (table.add scheme queue).1.routes = table.routes ++ [⟨queue, scheme.topics queue⟩] := by
  unfold RouteTable.add
  split
  · exact .inl rfl
  · exact .inr rfl

/-- The index lists the positions of the routes of each topic, in order. -/
def Indexed (table : RouteTable) : Prop :=
  ∀ topic, table.positions topic = (List.range table.routes.length).filter fun position =>
    table.routes[position]?.any fun route => route.topics.contains topic

/-- The route of a queue is added to the index as well. -/
theorem Indexed.add {table : RouteTable} (indexed : table.Indexed) (scheme : TopicScheme)
    (queue : QueueName) : (table.add scheme queue).1.Indexed := by
  unfold RouteTable.add
  split
  · exact indexed
  · intro topic
    let added : Route := ⟨queue, scheme.topics queue⟩
    let publishes : Option Route → Bool := (·.any fun route => route.topics.contains topic)
    have before : (List.range table.routes.length).filter
        (fun position => publishes (table.routes ++ [added])[position]?) =
          table.positions topic := by
      rw [indexed topic]
      refine List.filter_congr fun position among => ?_
      rw [List.getElem?_append_left (List.mem_range.mp among)]
    change TopicIndex.positions _ topic = (List.range (table.routes ++ [added]).length).filter
      fun position => publishes (table.routes ++ [added])[position]?
    rw [TopicIndex.positions_addAll _ (scheme.topics_nodup queue), List.length_append,
      List.length_singleton, List.range_succ, List.filter_append, before]
    by_cases among : topic ∈ scheme.topics queue
    · simp [publishes, added, among, positions]
    · simp [publishes, added, among, positions]

theorem Indexed.addAll {table : RouteTable} (indexed : table.Indexed) (scheme : TopicScheme)
    (queues : List QueueName) : (table.addAll scheme queues).1.Indexed := by
  induction queues generalizing table with
  | nil => exact indexed
  | cons queue queues ih => exact ih (indexed.add scheme queue)

/-- **The index of a table that was built is right.** -/
theorem indexed_build (scheme : TopicScheme) (queues : List QueueName) :
    (build scheme queues).1.Indexed :=
  Indexed.addAll (fun _ => rfl) scheme queues

/-- A position is one of a topic if the route there publishes the topic. -/
theorem Indexed.mem_positions {table : RouteTable} (indexed : table.Indexed) {topic : String}
    {position : Nat} :
    position ∈ table.positions topic ↔
      ∃ route, table.routes[position]? = some route ∧ topic ∈ route.topics := by
  rw [indexed, List.mem_filter, List.mem_range, Option.any_eq_true]
  simp only [List.contains_iff_mem, and_iff_right_iff_imp]
  rintro ⟨route, present, _⟩
  exact (List.getElem?_eq_some_iff.mp present).1

/-- No route of a table that was built has a topic twice. -/
theorem topics_nodup_addAll {table : RouteTable} (scheme : TopicScheme)
    (distinct : ∀ route ∈ table.routes, route.topics.Nodup) (queues : List QueueName) :
    ∀ route ∈ (table.addAll scheme queues).1.routes, route.topics.Nodup := by
  induction queues generalizing table with
  | nil => exact distinct
  | cons queue queues ih =>
      have added : ∀ route ∈ (table.add scheme queue).1.routes, route.topics.Nodup := by
        intro route among
        rcases routes_add scheme table queue with same | grown
        · exact distinct route (same ▸ among)
        · rw [grown] at among
          rcases List.mem_append.mp among with before | new
          · exact distinct route before
          · cases List.mem_singleton.mp new
            exact scheme.topics_nodup queue
      exact ih added

/-- A route of a table that was built publishes each of its topics once. -/
theorem count_topics_build (scheme : TopicScheme) (queues : List QueueName) {route : Route}
    {topic : String} (among : route ∈ (build scheme queues).1.routes)
    (publishes : topic ∈ route.topics) : route.topics.count topic = 1 :=
  List.nodup_iff_count_eq_one.mp (topics_nodup_addAll scheme (by simp) queues route among) topic
    publishes

/-- No two routes of a table that was built are routes of the same queue. -/
theorem ids_nodup_addAll {table : RouteTable} (scheme : TopicScheme)
    (distinct : (table.routes.map (·.id)).Nodup) (queues : List QueueName) :
    ((table.addAll scheme queues).1.routes.map (·.id)).Nodup := by
  induction queues generalizing table with
  | nil => exact distinct
  | cons queue queues ih =>
      have added : ((table.add scheme queue).1.routes.map (·.id)).Nodup := by
        unfold RouteTable.add
        split
        · exact distinct
        · rename_i unknown
          have new : queue.raw ∉ table.routes.map (·.id) := by
            intro among
            obtain ⟨route, there, same⟩ := List.mem_map.mp among
            exact unknown (List.any_eq_true.mpr ⟨route, there, by simp [same]⟩)
          rw [List.map_append, List.map_singleton, ← List.concat_eq_append]
          exact List.Nodup.concat new distinct
      exact ih added

/-- A queue has one place in a table that was built. -/
theorem place_unique (scheme : TopicScheme) (queues : List QueueName) {place spot : Nat}
    {route other : Route} (here : (build scheme queues).1.routes[place]? = some route)
    (there : (build scheme queues).1.routes[spot]? = some other) (same : route.id = other.id) :
    place = spot := by
  have distinct : ((build scheme queues).1.routes.map (·.id)).Nodup :=
    ids_nodup_addAll scheme (by simp) queues
  refine (List.getElem?_inj ?_ distinct).mp ?_
  · rw [List.length_map]
    exact (List.getElem?_eq_some_iff.mp here).1
  · rw [List.getElem?_map, List.getElem?_map, here, there, Option.map_some, Option.map_some, same]

end RouteTable

end TopicRelay
