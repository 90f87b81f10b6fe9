import TopicRelay.Proofs.Discoveries
import TopicRelay.Proofs.NameGrammar

/-!
# Which queues share a topic

A topic of a queue with a scope is the prefix of the application, the scope and a group, with
points between them.  The prefix may have points in it, and so may the group, but the prefix is the
same for all queues and a scope consists of capitals.  So the scope and the group can be read off
the topic (`TopicScheme.topic_inj`), and two such queues have a topic in common only if they have
their scope in common; then they share the topic of the whole scope and no other, since the name of
a queue is written from its scope and its group (`Route.Derives.shared_iff`).

`TopicScheme.topics_within_scope` says what follows for the table of any list of names: the topic of
a scope is published by all queues of the scope, and any other topic by one queue with a scope at
the most.
-/

namespace TopicRelay

set_option autoImplicit false

/-! ## Topics as texts -/

/-- The text of a scope: capitals, at least one. -/
structure IsScope (text : String) : Prop where
  filled : text ≠ ""
  capitals : ∀ char ∈ text.toList, 'A' ≤ char ∧ char ≤ 'Z'

theorem IsScope.pointless {scope : String} (isScope : IsScope scope) : '.' ∉ scope.toList := by
  intro among
  exact absurd (isScope.capitals '.' among).1 (by decide)

theorem Spelled.isScope {owner raw scope group : String}
    (spelled : Spelled owner raw scope group) : IsScope scope :=
  ⟨spelled.filled, spelled.capitals⟩

/-- A text is known by what stands before its first point and what stands after it. -/
theorem append_point_inj {front other back rest : List Char} (pointless : '.' ∉ front)
    (also : '.' ∉ other) :
    front ++ '.' :: back = other ++ '.' :: rest ↔ front = other ∧ back = rest := by
  have before : ∀ {text : List Char}, '.' ∉ text → ∀ char ∈ text, (char != '.') = true := by
    intro text absent char among
    exact bne_iff_ne.mpr fun same => absent (same ▸ among)
  constructor
  · intro same
    obtain ⟨taken, dropped⟩ := takeWhile_dropWhile_append_cons back '.' (before pointless) rfl
    obtain ⟨takenToo, droppedToo⟩ := takeWhile_dropWhile_append_cons rest '.' (before also) rfl
    rw [same] at taken dropped
    exact ⟨taken.symm.trans takenToo, (List.cons.inj (dropped.symm.trans droppedToo)).2⟩
  · rintro ⟨rfl, rfl⟩
    rfl

namespace TopicScheme

variable {scheme : TopicScheme} {scope other group rest raw : String}

/-- **A topic says of which scope and which group it is.** -/
theorem topic_inj (pointless : '.' ∉ scope.toList) (also : '.' ∉ other.toList) :
    scheme.topic scope group = scheme.topic other rest ↔ scope = other ∧ group = rest := by
  have written : ∀ scope group : String, (scheme.topic scope group).toList =
      (scheme.appPrefix.toList ++ ['.']) ++ (scope.toList ++ '.' :: group.toList) := by
    intro scope group
    simp [topic]
  rw [← String.toList_inj, written, written, List.append_cancel_left_eq,
    append_point_inj pointless also, String.toList_inj, String.toList_inj]

/-- A queue with a scope and a group publishes to the topics of these. -/
theorem mem_topics_of_parts {queue : QueueName} (parts : queue.parts = some ⟨scope, group⟩)
    (topic : String) : topic ∈ scheme.topics queue ↔
      topic = scheme.topic scope broadcastGroup ∨ topic = scheme.topic scope group := by
  rw [topics_of_parts parts]
  split
  · rename_i broadcast
    simp [broadcast]
  · simp

end TopicScheme

/-! ## Routes of queues with a scope -/

/-- The route of a queue that has a scope and a group. -/
structure Route.Derives (scheme : TopicScheme) (route : Route) (scope group : String) : Prop where
  parts : route.queue.parts = some ⟨scope, group⟩
  spelled : Spelled scheme.owner route.id scope group
  publishes : ∀ topic, topic ∈ route.topics ↔
    topic = scheme.topic scope TopicScheme.broadcastGroup ∨ topic = scheme.topic scope group

theorem QueueName.scope?_eq_some_iff {queue : QueueName} {scope : String} :
    queue.scope? = some scope ↔ ∃ group, queue.parts = some ⟨scope, group⟩ := by
  rw [scope?, Option.map_eq_some_iff]
  constructor
  · rintro ⟨⟨_, group⟩, parts, rfl⟩
    exact ⟨group, parts⟩
  · rintro ⟨group, parts⟩
    exact ⟨_, parts, rfl⟩

theorem QueueName.scope?_eq_none_iff {queue : QueueName} :
    queue.scope? = none ↔ queue.parts = none :=
  Option.map_eq_none_iff

namespace TopicScheme

variable {scheme : TopicScheme} {scope group raw : String} {names : List String} {route : Route}

theorem derives_routeOf (parts : (scheme.parse raw).parts = some ⟨scope, group⟩) :
    (scheme.routeOf scheme raw).Derives scheme scope group where
  parts := parts
  spelled := by
    rw [Route.id, routeOf, scheme.raw_parse]
    exact parts_parse_eq_some_iff.mp parts
  publishes := mem_topics_of_parts parts

/-- The routes of a table with a scope. -/
theorem exists_derives (among : route ∈ (scheme.tableOf names).routes)
    (has : route.queue.scope? = some scope) : ∃ group, route.Derives scheme scope group := by
  obtain ⟨name, _, rfl⟩ := mem_routes_tableOf.mp among
  obtain ⟨group, parts⟩ := QueueName.scope?_eq_some_iff.mp has
  exact ⟨group, derives_routeOf parts⟩

/-- A route of a table without a scope publishes to the topic with the name of its queue. -/
theorem topics_eq_of_scope?_eq_none (among : route ∈ (scheme.tableOf names).routes)
    (hasNone : route.queue.scope? = none) : route.topics = [route.id] := by
  obtain ⟨name, _, rfl⟩ := mem_routes_tableOf.mp among
  exact topics_of_parts_eq_none (QueueName.scope?_eq_none_iff.mp hasNone)

theorem indexed_tableOf (scheme : TopicScheme) (names : List String) :
    (scheme.tableOf names).Indexed :=
  RouteTable.indexed_build scheme _

/-- The routes of a topic are those of the table that publish it. -/
theorem mem_routesFor_tableOf {topic : String} : route ∈ (scheme.tableOf names).routesFor topic ↔
    route ∈ (scheme.tableOf names).routes ∧ topic ∈ route.topics := by
  rw [(scheme.indexed_tableOf names).routesFor_eq_scan, RouteTable.scan, List.mem_filter,
    List.contains_iff_mem]

theorem nodup_routes_tableOf (scheme : TopicScheme) (names : List String) :
    (scheme.tableOf names).routes.Nodup :=
  (RouteTable.ids_nodup_addAll scheme (by simp) _).of_map

/-- No two routes of a table are routes of the same queue. -/
theorem eq_of_id_eq {other : Route} (among : route ∈ (scheme.tableOf names).routes)
    (amongToo : other ∈ (scheme.tableOf names).routes) (same : route.id = other.id) :
    route = other := by
  obtain ⟨name, _, rfl⟩ := mem_routes_tableOf.mp among
  obtain ⟨name', _, rfl⟩ := mem_routes_tableOf.mp amongToo
  rw [Route.id, Route.id, routeOf, routeOf, scheme.raw_parse, scheme.raw_parse] at same
  rw [same]

end TopicScheme

namespace Route.Derives

variable {scheme : TopicScheme} {one other : Route} {scope group scope' group' : String}

/-- A topic that is published is one of the scope. -/
theorem exists_group (derives : one.Derives scheme scope group) {topic : String}
    (publishes : topic ∈ one.topics) : ∃ group, topic = scheme.topic scope group := by
  rcases (derives.publishes topic).mp publishes with broadcast | own
  · exact ⟨_, broadcast⟩
  · exact ⟨_, own⟩

/-- Routes with a topic in common have their scope in common. -/
theorem scope_eq (derives : one.Derives scheme scope group)
    (also : other.Derives scheme scope' group') {topic : String} (here : topic ∈ one.topics)
    (there : topic ∈ other.topics) : scope = scope' := by
  obtain ⟨_, rfl⟩ := derives.exists_group here
  obtain ⟨_, same⟩ := also.exists_group there
  exact ((TopicScheme.topic_inj derives.spelled.isScope.pointless
    also.spelled.isScope.pointless).mp same).1

/-- The queues of a scope have different groups. -/
theorem group_ne (derives : one.Derives scheme scope group)
    (also : other.Derives scheme scope group') (apart : one.id ≠ other.id) : group ≠ group' := by
  rintro rfl
  exact apart (derives.spelled.written.trans also.spelled.written.symm)

/-- **Two routes share the topic of a scope that both have, and nothing else.** -/
theorem shared_iff (derives : one.Derives scheme scope group)
    (also : other.Derives scheme scope' group') (apart : one.id ≠ other.id) (topic : String) :
    topic ∈ one.topics ∧ topic ∈ other.topics ↔
      scope = scope' ∧ topic = scheme.topic scope TopicScheme.broadcastGroup := by
  constructor
  · rintro ⟨here, there⟩
    obtain rfl := derives.scope_eq also here there
    refine ⟨rfl, ?_⟩
    rcases (derives.publishes topic).mp here with broadcast | own
    · exact broadcast
    · rcases (also.publishes topic).mp there with broadcast | theirs
      · exact broadcast
      -- Both publish the topic of their own group, so they would have the same name.
      · have pointless := derives.spelled.isScope.pointless
        have same := ((TopicScheme.topic_inj pointless pointless).mp (own.symm.trans theirs)).2
        exact absurd same (derives.group_ne also apart)
  · rintro ⟨rfl, rfl⟩
    exact ⟨(derives.publishes _).mpr (.inl rfl), (also.publishes _).mpr (.inl rfl)⟩

/-- A route publishes the topic of a scope if it has the scope. -/
theorem broadcast_iff (derives : one.Derives scheme scope group) (isScope : IsScope scope') :
    scheme.topic scope' TopicScheme.broadcastGroup ∈ one.topics ↔ scope = scope' := by
  constructor
  · intro publishes
    obtain ⟨_, same⟩ := derives.exists_group publishes
    exact ((TopicScheme.topic_inj isScope.pointless
      derives.spelled.isScope.pointless).mp same).1.symm
  · rintro rfl
    exact (derives.publishes _).mpr (.inl rfl)

end Route.Derives

/-! ## Topics of tables -/

/-- The routes of a topic whose queues have a scope. -/
def RouteTable.derivedFor (table : RouteTable) (topic : String) : List Route :=
  (table.routesFor topic).filter fun route => route.queue.scope?.isSome

/-- A list without repetition in which all items are equal has at most one. -/
theorem length_le_one_of_nodup {α : Type} {items : List α} (distinct : items.Nodup)
    (equal : ∀ one ∈ items, ∀ other ∈ items, one = other) : items.length ≤ 1 := by
  match items with
  | [] | [_] => simp
  | one :: other :: rest =>
      have same := equal one (by simp) other (by simp)
      simp [same] at distinct

namespace TopicScheme

variable {scheme : TopicScheme} {names : List String} {topic scope : String} {route : Route}

theorem mem_derivedFor : route ∈ (scheme.tableOf names).derivedFor topic ↔
    route ∈ (scheme.tableOf names).routes ∧ topic ∈ route.topics ∧
      ∃ scope group, route.Derives scheme scope group := by
  rw [RouteTable.derivedFor, List.mem_filter, mem_routesFor_tableOf, and_assoc,
    Option.isSome_iff_exists]
  constructor
  · rintro ⟨among, publishes, scope, has⟩
    exact ⟨among, publishes, scope, exists_derives among has⟩
  · rintro ⟨among, publishes, scope, group, derives⟩
    exact ⟨among, publishes, scope, QueueName.scope?_eq_some_iff.mpr ⟨group, derives.parts⟩⟩

/-- A topic that is not the one of a whole scope has at most one queue with a scope. -/
theorem length_derivedFor_le_one
    (own : ¬∃ scope, IsScope scope ∧ topic = scheme.topic scope broadcastGroup) :
    ((scheme.tableOf names).derivedFor topic).length ≤ 1 := by
  have distinct : ((scheme.tableOf names).derivedFor topic).Nodup := by
    rw [RouteTable.derivedFor, (scheme.indexed_tableOf names).routesFor_eq_scan]
    exact ((scheme.nodup_routes_tableOf names).filter _).filter _
  apply length_le_one_of_nodup distinct
  intro one here other there
  obtain ⟨among, publishes, scope, group, derives⟩ := mem_derivedFor.mp here
  obtain ⟨amongToo, publishesToo, _, _, also⟩ := mem_derivedFor.mp there
  by_cases same : one.id = other.id
  · exact eq_of_id_eq among amongToo same
  · have shared := (derives.shared_iff also same topic).mp ⟨publishes, publishesToo⟩
    exact absurd ⟨scope, derives.spelled.isScope, shared.2⟩ own

/-- The topic of a scope has the queues of the scope. -/
theorem derivedFor_broadcast (names : List String) (isScope : IsScope scope) :
    (scheme.tableOf names).derivedFor (scheme.topic scope broadcastGroup) =
      (scheme.tableOf names).routes.filter fun route => route.queue.scope? == some scope := by
  rw [RouteTable.derivedFor, (scheme.indexed_tableOf names).routesFor_eq_scan, RouteTable.scan,
    List.filter_filter]
  apply List.filter_congr
  intro route among
  cases has : route.queue.scope? with
  | none => rfl
  | some found =>
      obtain ⟨group, derives⟩ := exists_derives among has
      have publishes := derives.broadcast_iff isScope
      by_cases same : found = scope <;> simp [same, publishes]

/-- **Topics tell queues apart within a scope, and scopes from one another.**  Two queues with a
scope and a group share a topic exactly if they have the same scope, and then the topic of the scope
is the only one that they share.  So whatever names a catalog lists, the topic of a scope is
published by all queues of the scope and by no queue of another one, and any other topic by at most
one queue that has a scope. -/
theorem topics_within_scope (scheme : TopicScheme) :
    (∀ {raw other scope group scope' group'}, raw ≠ other →
      (scheme.parse raw).parts = some ⟨scope, group⟩ →
      (scheme.parse other).parts = some ⟨scope', group'⟩ →
        ((∃ topic ∈ scheme.topics (scheme.parse raw), topic ∈ scheme.topics (scheme.parse other)) ↔
          scope = scope') ∧
        ∀ topic ∈ scheme.topics (scheme.parse raw), topic ∈ scheme.topics (scheme.parse other) →
          topic = scheme.appPrefix ++ "." ++ scope ++ "." ++ "ALL") ∧
      ∀ names,
        (∀ topic, (¬∃ scope, IsScope scope ∧
            topic = scheme.appPrefix ++ "." ++ scope ++ "." ++ "ALL") →
          ((scheme.tableOf names).derivedFor topic).length ≤ 1) ∧
        ∀ scope, IsScope scope →
          (scheme.tableOf names).derivedFor (scheme.appPrefix ++ "." ++ scope ++ "." ++ "ALL") =
            (scheme.tableOf names).routes.filter fun route => route.queue.scope? == some scope := by
  refine ⟨?_, fun names => ⟨?_, ?_⟩⟩
  · intro raw other scope group scope' group' apart parts partsToo
    have ids : (scheme.routeOf scheme raw).id ≠ (scheme.routeOf scheme other).id := by
      simpa [Route.id, routeOf, scheme.raw_parse] using apart
    have shared := (derives_routeOf parts).shared_iff (derives_routeOf partsToo) ids
    constructor
    · constructor
      · rintro ⟨topic, here, there⟩
        exact ((shared topic).mp ⟨here, there⟩).1
      · intro same
        obtain ⟨here, there⟩ := (shared _).mpr ⟨same, rfl⟩
        exact ⟨_, here, there⟩
    · intro topic here there
      exact ((shared topic).mp ⟨here, there⟩).2
  · intro topic own
    exact length_derivedFor_le_one own
  · intro scope isScope
    exact derivedFor_broadcast names isScope

/-- A scheme whose prefix has a point in it. -/
def pointed : TopicScheme := ⟨"X.Y", "OWNER"⟩

/-- The group of the second queue looks like a scope with its group, but its topic is not that of a
whole scope. -/
theorem pointed_group_is_apart :
    let names := ["OWNER.SPK_A", "OWNER.SPK_B.ALL", "OWNER.LRL_A"]
    (pointed.parse "OWNER.SPK_A").parts = some ⟨"SPK", "A"⟩ ∧
      (pointed.parse "OWNER.SPK_B.ALL").parts = some ⟨"SPK", "B.ALL"⟩ ∧
      (∃ topic ∈ pointed.topics (pointed.parse "OWNER.SPK_A"),
        topic ∈ pointed.topics (pointed.parse "OWNER.SPK_B.ALL")) ∧
      (∀ topic ∈ pointed.topics (pointed.parse "OWNER.SPK_A"),
        topic ∈ pointed.topics (pointed.parse "OWNER.SPK_B.ALL") → topic = "X.Y.SPK.ALL") ∧
      ((pointed.tableOf names).derivedFor "X.Y.SPK.B.ALL").length ≤ 1 ∧
        ((pointed.tableOf names).derivedFor "X.Y.SPK.ALL").map (·.id) =
          ["OWNER.SPK_A", "OWNER.SPK_B.ALL"] := by
  intro names
  obtain ⟨pairs, tables⟩ := topics_within_scope pointed
  obtain ⟨owned, broadcast⟩ := tables names
  have capitals : IsScope "SPK" := ⟨by decide, by simp⟩
  have parts : (pointed.parse "OWNER.SPK_A").parts = some ⟨"SPK", "A"⟩ := by decide +kernel
  have partsToo : (pointed.parse "OWNER.SPK_B.ALL").parts = some ⟨"SPK", "B.ALL"⟩ := by
    decide +kernel
  have shared := pairs (by decide) parts partsToo
  refine ⟨parts, partsToo, shared.1.mpr rfl, shared.2, ?_, ?_⟩
  · apply owned
    rintro ⟨scope, isScope, same⟩
    have written : pointed.topic "SPK" "B.ALL" = pointed.topic scope "ALL" := same
    have groups := ((topic_inj capitals.pointless isScope.pointless).mp written).2
    exact absurd groups (by decide)
  · have found := broadcast "SPK" capitals
    change (pointed.tableOf names).derivedFor "X.Y.SPK.ALL" = _ at found
    rw [found]
    decide +kernel

end TopicScheme

end TopicRelay
