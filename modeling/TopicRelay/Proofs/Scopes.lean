import Mathlib
import TopicRelay.Proofs.Forecast
import TopicRelay.Proofs.SharedTopics

/-!
# The topics of a scope

The topics of a table can be asked for by scope, in whatever case.  A scope consists of capitals,
so what matters about a filter is what it is in capitals (`IsScope.equalsIgnoringCase_iff`), and a
filter that is not a word is the scope of no queue.  The topics of a queue with a scope begin with
the prefix and the scope; hence the topics of a scope can be told by their text
(`TopicScheme.topics_by_text`).

A queue without a scope publishes to the topic with its own name, whatever the name looks like, and
it may look like the topic of a scope.  So a topic that is listed for a scope has queues of the
scope and, if such a name is listed, the queue of that name, but no others
(`TopicScheme.isOfScope_or_isNamesake`).  A call that attaches a subscriber to the topic starts
routes of the topic only, and therefore none but these (`listed_topics_start_scope`).
-/

namespace TopicRelay

set_option autoImplicit false

/-! ## Scopes in any case -/

/-- A non-empty text of letters. -/
structure IsWord (text : String) : Prop where
  filled : text ≠ ""
  letters : ∀ char ∈ text.toList, char.isAlpha = true

theorem toList_toUpper (text : String) : text.toUpper.toList = text.toList.map Char.toUpper :=
  String.toList_map

/-- Texts are equal up to case if they are equal in capitals. -/
theorem Text.equalsIgnoringCase_iff_toUpper {left right : String} :
    equalsIgnoringCase left right = true ↔ left.toUpper = right.toUpper := by
  have raised : ∀ text : String, text.toUpper.toList = (foldCase text).map Char.toUpper := by
    intro text
    simp [toList_toUpper, foldCase]
  have lowered : ∀ text : String, foldCase text = text.toUpper.toList.map Char.toLower := by
    intro text
    simp [toList_toUpper, foldCase]
  rw [equalsIgnoringCase_iff]
  constructor
  · intro same
    rw [← String.toList_inj, raised, raised, same]
  · intro same
    rw [lowered, lowered, same]

theorem isUpper_iff {char : Char} : char.isUpper = true ↔ 'A' ≤ char ∧ char ≤ 'Z' := by
  simp [Char.isUpper, Char.le_def]

/-- A scope is its own text in capitals. -/
theorem IsScope.toUpper {scope : String} (isScope : IsScope scope) : scope.toUpper = scope := by
  have capital : ∀ char ∈ scope.toList, char.toUpper = char := by
    intro char among
    have upper : char.isUpper = true := isUpper_iff.mpr (isScope.capitals char among)
    exact Char.toUpper_eq_of_not_isLower (Char.not_isLower_of_isUpper upper)
  rw [← String.toList_inj, toList_toUpper]
  exact (List.map_congr_left capital).trans (List.map_id _)

/-- The words are the texts that are a scope in capitals. -/
theorem isScope_toUpper_iff {text : String} : IsScope text.toUpper ↔ IsWord text := by
  have filled : text.toUpper ≠ "" ↔ text ≠ "" := by
    rw [← toList_ne_nil_iff, ← toList_ne_nil_iff, toList_toUpper, ne_eq, List.map_eq_nil_iff]
  have letter : ∀ char : Char, 'A' ≤ char.toUpper ∧ char.toUpper ≤ 'Z' ↔ char.isAlpha = true := by
    intro char
    rw [← isUpper_iff, Char.isUpper_toUpper_eq_isAlpha]
  have capitals : (∀ char ∈ text.toUpper.toList, 'A' ≤ char ∧ char ≤ 'Z') ↔
      ∀ char ∈ text.toList, char.isAlpha = true := by
    rw [toList_toUpper, List.forall_mem_map]
    exact forall₂_congr fun char _ => letter char
  constructor
  · rintro ⟨notEmpty, all⟩
    exact ⟨filled.mp notEmpty, capitals.mp all⟩
  · rintro ⟨notEmpty, all⟩
    exact ⟨filled.mpr notEmpty, capitals.mpr all⟩

/-- A filter names the scope that it is in capitals. -/
theorem IsScope.equalsIgnoringCase_iff {scope : String} (isScope : IsScope scope)
    (filter : String) : Text.equalsIgnoringCase scope filter = true ↔ scope = filter.toUpper := by
  rw [Text.equalsIgnoringCase_iff_toUpper, isScope.toUpper]

/-! ## Topics by scope -/

/-- A route of a queue whose scope a filter names, in whatever case. -/
def Route.IsOfScope (filter : String) (route : Route) : Prop :=
  ∃ scope, route.queue.scope? = some scope ∧ Text.equalsIgnoringCase scope filter = true

/-- The route of a queue without a scope that has the name of a topic. -/
def Route.IsNamesake (topic : String) (route : Route) : Prop :=
  route.queue.scope? = none ∧ route.id = topic

theorem RouteTable.inScope_iff {filter : String} {route : Route} :
    inScope (some filter) route = true ↔ route.IsOfScope filter := by
  unfold inScope Route.IsOfScope
  cases route.queue.scope? with
  | none => simp
  | some scope => simp

theorem Route.Derives.isOfScope_iff {scheme : TopicScheme} {route : Route} {scope group : String}
    (derives : route.Derives scheme scope group) (filter : String) :
    route.IsOfScope filter ↔ scope = filter.toUpper := by
  have has : route.queue.scope? = some scope :=
    QueueName.scope?_eq_some_iff.mpr ⟨group, derives.parts⟩
  rw [IsOfScope, has, ← derives.spelled.isScope.equalsIgnoringCase_iff]
  simp

namespace TopicScheme

variable {scheme : TopicScheme} {names : List String} {filter other topic : String} {route : Route}

theorem mem_topics_some : topic ∈ (scheme.tableOf names).topics (some filter) ↔
    ∃ route ∈ (scheme.tableOf names).routes, route.IsOfScope filter ∧ topic ∈ route.topics := by
  rw [RouteTable.topics, Names.mem_ofList, List.mem_flatMap]
  constructor
  · rintro ⟨route, kept, publishes⟩
    obtain ⟨among, passes⟩ := List.mem_filter.mp kept
    exact ⟨route, among, RouteTable.inScope_iff.mp passes, publishes⟩
  · rintro ⟨route, among, isOfScope, publishes⟩
    exact ⟨route, List.mem_filter.mpr ⟨among, RouteTable.inScope_iff.mpr isOfScope⟩, publishes⟩

theorem mem_topics_none : topic ∈ (scheme.tableOf names).topics none ↔
    ∃ route ∈ (scheme.tableOf names).routes, topic ∈ route.topics := by
  simp [RouteTable.topics, Names.mem_ofList, RouteTable.inScope]

/-- What is listed for a filter is published by a queue whose scope the filter is in capitals. -/
theorem exists_derives_of_listed (listed : topic ∈ (scheme.tableOf names).topics (some filter)) :
    ∃ route ∈ (scheme.tableOf names).routes, topic ∈ route.topics ∧
      ∃ group, route.Derives scheme filter.toUpper group := by
  obtain ⟨route, among, ⟨scope, has, folded⟩, publishes⟩ := mem_topics_some.mp listed
  obtain ⟨group, derives⟩ := exists_derives among has
  obtain rfl := (derives.spelled.isScope.equalsIgnoringCase_iff filter).mp folded
  exact ⟨route, among, publishes, group, derives⟩

/-- A topic is listed for a word exactly if a queue with a scope publishes it and it begins with the
prefix and the word in capitals. -/
theorem mem_topics_iff_text (isWord : IsWord filter) :
    topic ∈ (scheme.tableOf names).topics (some filter) ↔
      (∃ route ∈ (scheme.tableOf names).routes, route.queue.scope?.isSome = true ∧
        topic ∈ route.topics) ∧ ∃ rest, topic = scheme.topic filter.toUpper rest := by
  constructor
  · intro listed
    obtain ⟨route, among, publishes, group, derives⟩ := exists_derives_of_listed listed
    have has : route.queue.scope? = some filter.toUpper :=
      QueueName.scope?_eq_some_iff.mpr ⟨group, derives.parts⟩
    exact ⟨⟨route, among, by rw [has, Option.isSome_some], publishes⟩,
      derives.exists_group publishes⟩
  · rintro ⟨⟨route, among, hasScope, publishes⟩, rest, begins⟩
    obtain ⟨scope, has⟩ := Option.isSome_iff_exists.mp hasScope
    obtain ⟨group, derives⟩ := exists_derives among has
    obtain ⟨behind, written⟩ := derives.exists_group publishes
    -- The topic says of which scope it is, so the queue has the scope that the filter names.
    have same := (topic_inj derives.spelled.isScope.pointless
      (isScope_toUpper_iff.mpr isWord).pointless).mp (written.symm.trans begins)
    exact mem_topics_some.mpr ⟨route, among, (derives.isOfScope_iff filter).mpr same.1, publishes⟩

theorem isWord_of_listed (listed : topic ∈ (scheme.tableOf names).topics (some filter)) :
    IsWord filter := by
  obtain ⟨_, _, _, _, derives⟩ := exists_derives_of_listed listed
  exact isScope_toUpper_iff.mp derives.spelled.isScope

/-- A topic is listed for one scope only. -/
theorem toUpper_eq_of_listed (listed : topic ∈ (scheme.tableOf names).topics (some filter))
    (also : topic ∈ (scheme.tableOf names).topics (some other)) :
    filter.toUpper = other.toUpper := by
  obtain ⟨_, _, here, _, derives⟩ := exists_derives_of_listed listed
  obtain ⟨_, _, there, _, derivesToo⟩ := exists_derives_of_listed also
  exact derives.scope_eq derivesToo here there

/-- Filters that are equal up to case name the same scope. -/
theorem topics_congr (scheme : TopicScheme) (names : List String)
    (same : Text.equalsIgnoringCase filter other = true) :
    (scheme.tableOf names).topics (some filter) = (scheme.tableOf names).topics (some other) := by
  have passes : RouteTable.inScope (some filter) = RouteTable.inScope (some other) := by
    funext route
    apply Bool.eq_iff_iff.mpr
    rw [RouteTable.inScope_iff, RouteTable.inScope_iff]
    unfold Route.IsOfScope
    simp only [Text.equalsIgnoringCase_iff_toUpper] at same ⊢
    rw [same]
  rw [RouteTable.topics, RouteTable.topics, passes]

/-- A queue without a scope publishes to its own name and to nothing else. -/
theorem publishes_iff_of_scope?_eq_none (among : route ∈ (scheme.tableOf names).routes)
    (hasNone : route.queue.scope? = none) : topic ∈ route.topics ↔ route.id = topic := by
  rw [topics_eq_of_scope?_eq_none among hasNone, List.mem_singleton, eq_comm]

/-- A table has the namesake of a topic if the topic is the name of a queue without a scope. -/
theorem exists_namesake_iff :
    (∃ route ∈ (scheme.tableOf names).routes, route.IsNamesake topic) ↔
      topic ∈ names ∧ (scheme.parse topic).scope? = none := by
  constructor
  · rintro ⟨route, among, hasNone, rfl⟩
    obtain ⟨name, listed, rfl⟩ := mem_routes_tableOf.mp among
    rw [Route.id, routeOf, scheme.raw_parse]
    exact ⟨listed, hasNone⟩
  · rintro ⟨listed, hasNone⟩
    exact ⟨_, mem_routes_tableOf.mpr ⟨topic, listed, rfl⟩, hasNone, scheme.raw_parse topic⟩

/-- The topics of a table are those of the scopes, and the names of the queues without a scope. -/
theorem mem_topics_none_iff : topic ∈ (scheme.tableOf names).topics none ↔
    (∃ scope, IsScope scope ∧ topic ∈ (scheme.tableOf names).topics (some scope)) ∨
      topic ∈ names ∧ (scheme.parse topic).scope? = none := by
  rw [mem_topics_none, ← exists_namesake_iff]
  constructor
  · rintro ⟨route, among, publishes⟩
    cases has : route.queue.scope? with
    | some scope =>
        obtain ⟨group, derives⟩ := exists_derives among has
        have isScope := derives.spelled.isScope
        have isOfScope := (derives.isOfScope_iff scope).mpr isScope.toUpper.symm
        exact .inl ⟨scope, isScope, mem_topics_some.mpr ⟨route, among, isOfScope, publishes⟩⟩
    | none =>
        exact .inr ⟨route, among, has, (publishes_iff_of_scope?_eq_none among has).mp publishes⟩
  · rintro (⟨scope, _, listed⟩ | ⟨route, among, hasNone, named⟩)
    · obtain ⟨route, among, _, publishes⟩ := mem_topics_some.mp listed
      exact ⟨route, among, publishes⟩
    · exact ⟨route, among, (publishes_iff_of_scope?_eq_none among hasNone).mpr named⟩

/-- **The topics of a scope can be told by their text.**  For a word, in whatever case, those of the
topics of queues with a scope are listed that begin with the prefix and the word in capitals; for
any other filter none is.  Filters that are equal up to case have the same topics, others have none
in common, and all topics are those of the scopes and the names of the queues without a scope. -/
theorem topics_by_text (scheme : TopicScheme) (names : List String) :
    (∀ {filter}, IsWord filter → ∀ topic, topic ∈ (scheme.tableOf names).topics (some filter) ↔
        (∃ route ∈ (scheme.tableOf names).routes, route.queue.scope?.isSome = true ∧
          topic ∈ route.topics) ∧
        ∃ rest, topic = scheme.appPrefix ++ "." ++ filter.toUpper ++ "." ++ rest) ∧
      (∀ {filter}, ¬IsWord filter → (scheme.tableOf names).topics (some filter) = []) ∧
      (∀ {filter other}, Text.equalsIgnoringCase filter other = true →
        (scheme.tableOf names).topics (some filter) =
          (scheme.tableOf names).topics (some other)) ∧
      (∀ {filter other}, Text.equalsIgnoringCase filter other = false →
        ((scheme.tableOf names).topics (some filter)).Disjoint
          ((scheme.tableOf names).topics (some other))) ∧
      ∀ topic, topic ∈ (scheme.tableOf names).topics none ↔
        (∃ scope, IsScope scope ∧ topic ∈ (scheme.tableOf names).topics (some scope)) ∨
          topic ∈ names ∧ (scheme.parse topic).scope? = none := by
  refine ⟨?_, ?_, ?_, ?_, ?_⟩
  · intro filter isWord topic
    exact mem_topics_iff_text isWord
  · intro filter noWord
    apply List.eq_nil_iff_forall_not_mem.mpr
    intro topic listed
    exact noWord (isWord_of_listed listed)
  · intro filter other same
    exact topics_congr scheme names same
  · intro filter other apart topic listed also
    have same := Text.equalsIgnoringCase_iff_toUpper.mpr (toUpper_eq_of_listed listed also)
    exact absurd same (by simp [apart])
  · intro topic
    exact mem_topics_none_iff

/-- The last two names have no scope, though one of them begins like a topic of the scope "SPK". -/
def spkNames : List String := ["OWNER.SPK_X", "OWNER.SP_K", "CDA.SPK.Z", "Q"]

/-- The filter is a word in mixed case. -/
theorem mixed_case_filter_lists_scope :
    let table := TopicScheme.tableOf ⟨"CDA", "OWNER"⟩ spkNames
    IsWord "sPk" ∧ ¬IsWord "SPK.X" ∧ table.topics (some "SPK.X") = [] ∧
      table.topics (some "sPk") = table.topics (some "SPK") ∧
        (table.topics (some "sPk")).Disjoint (table.topics (some "SP")) ∧
          "CDA.SPK.X" ∈ table.topics (some "sPk") ∧ "CDA.SPK.Z" ∉ table.topics (some "sPk") := by
  intro table
  obtain ⟨text, others, same, apart, _⟩ := topics_by_text ⟨"CDA", "OWNER"⟩ spkNames
  have word : IsWord "sPk" := ⟨by decide, by simp⟩
  have noWord : ¬IsWord "SPK.X" := by
    intro isWord
    exact absurd (isWord.letters '.' (by decide)) (by decide)
  refine ⟨word, noWord, others noWord, same (by decide +kernel), apart (by decide +kernel), ?_, ?_⟩
  · apply (text word "CDA.SPK.X").mpr
    refine ⟨by decide +kernel, "X", ?_⟩
    rw [← String.toList_inj]
    simp [toList_toUpper]
  · intro listed
    obtain ⟨published, _⟩ := (text word "CDA.SPK.Z").mp listed
    exact absurd published (by decide +kernel)

/-! ## Routes of listed topics -/

/-- **A topic that is listed for a scope has queues of the scope**, and of the others only the one
whose name it is. -/
theorem isOfScope_or_isNamesake (listed : topic ∈ (scheme.tableOf names).topics (some filter))
    (among : route ∈ (scheme.tableOf names).routes) (publishes : topic ∈ route.topics) :
    route.IsOfScope filter ∨ route.IsNamesake topic := by
  cases has : route.queue.scope? with
  | none => exact .inr ⟨has, (publishes_iff_of_scope?_eq_none among has).mp publishes⟩
  | some scope =>
      obtain ⟨_, _, here, _, named⟩ := exists_derives_of_listed listed
      obtain ⟨group, derives⟩ := exists_derives among has
      exact .inl ((derives.isOfScope_iff filter).mpr (derives.scope_eq named publishes here))

/-- The second queue fails to conform, and its name is the topic of the scope of the first. -/
theorem namesake_is_of_no_scope :
    ¬∀ (scheme : TopicScheme) (names : List String) (filter topic : String),
      topic ∈ (scheme.tableOf names).topics (some filter) →
        ∀ route ∈ (scheme.tableOf names).routesFor topic, ∃ scope,
          route.queue.scope? = some scope ∧ Text.equalsIgnoringCase scope filter = true := by
  intro isolated
  have all := isolated ⟨"CDA", "OWNER"⟩ ["OWNER.SPK_X", "CDA.SPK.ALL"] "SPK" "CDA.SPK.ALL"
    (by decide +kernel) ⟨⟨"CDA.SPK.ALL", none⟩, ["CDA.SPK.ALL"]⟩ (by decide +kernel)
  obtain ⟨scope, has, _⟩ := all
  cases has

end TopicScheme

/-! ## Calls for listed topics -/

/-- Every run has the table of some names under the scheme of its bridge. -/
theorem History.exists_tableOf {first now : State} {past : List Occurrence} {run : RunId}
    {table : RouteTable} (history : History first past now) (unused : first.Unused)
    (found : now.table? run = some table) : ∃ names, table = now.scheme.tableOf names := by
  have all : ∀ run table, now.table? run = some table →
      ∃ names, table = now.scheme.tableOf names := by
    apply history.preserves
      (P := fun state => ∀ run table, state.table? run = some table →
        ∃ names, table = state.scheme.tableOf names)
    · intro run table found
      simp [State.table?, State.run?, unused.runs] at found
    · intro before after move effects tables step run table found
      have moved := step_cases step
      rw [State.scheme_congr moved.settings]
      rcases moved.table?_origin found with was | ⟨names, _, built⟩
      · exact tables run table was
      · exact ⟨names, built⟩
  exact all run table found

/-- Whether a move has started a route in the turn of a call that attaches a subscriber to a
topic. -/
def Occurrence.startsFor (run : RunId) (place : Place) (topic : String) (occurrence : Occurrence) :
    Bool :=
  occurrence.starts run place &&
    match occurrence.move with
    | .job job => occurrence.before.jobs[job]?.any (Job.isAttaching run topic)
    | _ => false

theorem Occurrence.of_startsFor {run : RunId} {place : Place} {topic : String}
    {occurrence : Occurrence} (starts : occurrence.startsFor run place topic = true) :
    ∃ (job : JobId) (phase : ActivationPhase),
      occurrence.before.jobs[job]? = some (.attach topic (.activating run phase)) ∧
        phase.place? = some place := by
  rw [startsFor, Bool.and_eq_true] at starts
  obtain ⟨starts, attaching⟩ := starts
  split at attaching
  · rename_i job mine
    obtain ⟨found, present, attaching⟩ := (Option.any_eq_true ..).mp attaching
    obtain ⟨phase, rfl⟩ := Job.isAttaching_iff.mp attaching
    refine ⟨job, phase, present, ?_⟩
    simp only [Occurrence.starts, site?, mine, State.site?, present, Option.bind_some, Job.site?,
      Bool.and_eq_true, beq_iff_eq, Option.map_eq_some_iff, Prod.mk.injEq] at starts
    obtain ⟨⟨_, here, _, rfl⟩, _⟩ := starts
    exact here
  · cases attaching

/-- A call starts routes of its topic only. -/
theorem History.publishes_of_startsFor {first now : State} {past : List Occurrence} {run : RunId}
    {place : Place} {topic : String} {table : RouteTable} {occurrence : Occurrence}
    (history : History first past now) (unused : first.Unused)
    (found : now.table? run = some table) (among : occurrence ∈ past)
    (starts : occurrence.startsFor run place topic = true) :
    ∃ route, table.routes[place]? = some route ∧ topic ∈ route.topics := by
  obtain ⟨earlier, later, rfl⟩ := List.mem_iff_append.mp among
  obtain ⟨before, step, rest⟩ := history.occurrence
  obtain ⟨job, phase, present, here⟩ := Occurrence.of_startsFor starts
  have routed : place ∈ occurrence.before.positions run topic :=
    (before.places_sublist unused present).mem (ActivationPhase.mem_places here)
  -- A topic without a table has no routes, so the run had its table already, and has kept it.
  cases was : occurrence.before.table? run with
  | none => simp [State.positions, was] at routed
  | some earlierTable =>
      have kept := rest.table? ((step_cases step).table? was)
      cases kept.symm.trans found
      obtain ⟨scheme, queues, rfl⟩ := before.tabled unused was
      rw [State.positions_of_some was] at routed
      exact (RouteTable.indexed_build scheme queues).mem_positions.mp routed

/-- **A topic that is listed for a scope leads to the scope**, and to the queue that has the topic
as its name if such a queue is listed and has no scope.  A call that attaches a subscriber to the
topic starts no other routes, in whatever state of the bridge it is made. -/
theorem listed_topics_start_scope :
    (∀ (scheme : TopicScheme) (names : List String) (filter topic : String),
      topic ∈ (scheme.tableOf names).topics (some filter) →
        (∀ route ∈ (scheme.tableOf names).routesFor topic,
          route.IsOfScope filter ∨ route.IsNamesake topic) ∧
        ((∃ route ∈ (scheme.tableOf names).routesFor topic, route.IsNamesake topic) ↔
          topic ∈ names ∧ (scheme.parse topic).scope? = none)) ∧
      ∀ {first now : State} {past : List Occurrence} {run : RunId} {table : RouteTable},
        first.Unused → History first past now → now.table? run = some table →
          (∃ names, table = now.scheme.tableOf names) ∧
          ∀ filter topic, topic ∈ table.topics (some filter) → ∀ occurrence ∈ past, ∀ place,
            occurrence.startsFor run place topic = true →
              ∃ route, table.routes[place]? = some route ∧
                (route.IsOfScope filter ∨ route.IsNamesake topic) := by
  constructor
  · intro scheme names filter topic listed
    constructor
    · intro route found
      obtain ⟨among, publishes⟩ := TopicScheme.mem_routesFor_tableOf.mp found
      exact TopicScheme.isOfScope_or_isNamesake listed among publishes
    · rw [← TopicScheme.exists_namesake_iff]
      constructor
      · rintro ⟨route, found, namesake⟩
        exact ⟨route, (TopicScheme.mem_routesFor_tableOf.mp found).1, namesake⟩
      · rintro ⟨route, among, namesake⟩
        have publishes :=
          (TopicScheme.publishes_iff_of_scope?_eq_none among namesake.1).mpr namesake.2
        exact ⟨route, TopicScheme.mem_routesFor_tableOf.mpr ⟨among, publishes⟩, namesake⟩
  · intro first now past run table unused history found
    obtain ⟨names, rfl⟩ := history.exists_tableOf unused found
    refine ⟨⟨names, rfl⟩, ?_⟩
    intro filter topic listed occurrence happened place starts
    obtain ⟨route, here, publishes⟩ := history.publishes_of_startsFor unused found happened starts
    exact ⟨route, here, TopicScheme.isOfScope_or_isNamesake listed
      (List.mem_of_getElem? here) publishes⟩

/-- The names of two queues, of which the second has no scope. -/
def namesakeNames : List String := ["CWMS_20.SPK_X", "CDA.SPK.ALL"]

/-- A subscriber asks for a topic of the scope "SPK", and the queue that has the topic as its name
is started with the queue of the scope. -/
theorem namesake_is_started :
    ∃ past now table, History (State.scripted namesakeNames) past now ∧
      now.table? 0 = some table ∧ "CDA.SPK.ALL" ∈ table.topics (some "spk") ∧
        (∃ occurrence ∈ past, occurrence.startsFor 0 0 "CDA.SPK.ALL" = true) ∧
          ∃ occurrence ∈ past, occurrence.startsFor 0 1 "CDA.SPK.ALL" = true ∧
            ∃ route, table.routes[1]? = some route ∧
              (route.IsOfScope "spk" ∨ route.IsNamesake "CDA.SPK.ALL") := by
  obtain ⟨past, now, history, checked⟩ :=
    History.exists_of_record (State.scripted namesakeNames)
      (startMoves 0 ++ .arrive (.attach "CDA.SPK.ALL") :: List.replicate 14 (.job 1))
      (fun past now => (now.table? 0).any (fun table =>
          (table.topics (some "spk")).contains "CDA.SPK.ALL") &&
        (past.any (Occurrence.startsFor 0 0 "CDA.SPK.ALL") &&
          past.any (Occurrence.startsFor 0 1 "CDA.SPK.ALL"))) (by decide +kernel)
  simp only [Bool.and_eq_true, List.any_eq_true, Option.any_eq_true, List.contains_iff_mem]
    at checked
  obtain ⟨⟨table, found, listed⟩, first, second, happened, starts⟩ := checked
  have only := (listed_topics_start_scope.2 (State.scripted_unused _) history found).2
  exact ⟨past, now, table, history, found, listed, first, second, happened, starts,
    only "spk" "CDA.SPK.ALL" listed second happened 1 starts⟩

end TopicRelay
