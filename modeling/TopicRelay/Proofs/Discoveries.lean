import Mathlib.Data.List.Sort
import Mathlib.Data.String.Basic
import TopicRelay.Proofs.Setup

/-!
# What a list of names leads to

A catalog lists the names of queues in some order, and some of them more than once.  Discovery
passes over a name that it has seen, and a table over a queue that has its route, and each of the
two would do without the other: the table of the names is the same if nobody has sifted them before
(`RouteTable.build_gather`).  So a table has the route of every listed name, in the order in which
the names first occur (`RouteTable.routes_build_parse`), and no more of the list matters to it than
which names are listed.  What is reported on the way does depend on the list: how often a name is
repeated, and whether it conforms (`Discovery.count_gather`).

The routes of a table decide what it leads to.  A set of topics is an increasing list, hence the
same for tables with the same routes in any order, and a topic leads to the same routes
(`RouteTable.Matches`).

`discovery_by_names` puts this together for the answers of any catalog, and says of a directory that
only its rows of the owner and the kind in question count.
-/

namespace TopicRelay

set_option autoImplicit false

/-! ## Sets of names -/

namespace Names

theorem pairwise_insert {names : Names} (increasing : names.Pairwise (· < ·)) (name : String) :
    (insert name names).Pairwise (· < ·) := by
  induction names with
  | nil => exact List.pairwise_singleton _ _
  | cons other names ih =>
      obtain ⟨least, rest⟩ := List.pairwise_cons.mp increasing
      rw [insert]
      split
      · rename_i smaller
        refine List.pairwise_cons.mpr ⟨fun later among => ?_, increasing⟩
        rcases List.mem_cons.mp among with rfl | after
        · exact smaller
        · exact lt_trans smaller (least later after)
      · split
        · exact increasing
        · rename_i notSmaller different
          refine List.pairwise_cons.mpr ⟨fun later among => ?_, ih rest⟩
          rcases mem_insert.mp among with rfl | old
          · exact lt_of_le_of_ne (not_lt.mp notSmaller) (Ne.symm different)
          · exact least later old

/-- A set of names is an increasing list. -/
theorem pairwise_ofList (names : List String) : (ofList names).Pairwise (· < ·) := by
  induction names with
  | nil => exact List.Pairwise.nil
  | cons name names ih => exact pairwise_insert ih name

/-- A set of names is known by its members. -/
theorem ofList_congr {names others : List String} (same : ∀ name, name ∈ names ↔ name ∈ others) :
    ofList names = ofList others := by
  apply (pairwise_ofList names).eq_of_mem_iff (pairwise_ofList others)
  intro name
  rw [mem_ofList, mem_ofList, same]

end Names

/-! ## First occurrences -/

/-- What is left of a list is in the order of first occurrences. -/
theorem pairwise_eraseDups {α : Type} [DecidableEq α] (items : List α) :
    items.eraseDups.Pairwise fun one other => items.idxOf one < items.idxOf other := by
  induction items using List.reverseRecOn with
  | nil => exact List.Pairwise.nil
  | append_singleton items last ih =>
      have places : ∀ {item}, item ∈ items.eraseDups →
          (items ++ [last]).idxOf item = items.idxOf item := by
        intro item among
        exact List.idxOf_append_of_mem (List.mem_eraseDups.mp among)
      have before : items.eraseDups.Pairwise fun one other =>
          (items ++ [last]).idxOf one < (items ++ [last]).idxOf other := by
        apply ih.imp_of_mem
        intro one other here there earlier
        rwa [places here, places there]
      rw [eraseDups_concat]
      split
      · exact before
      · rename_i new
        -- What is kept was there before, hence ahead of the last item, which was not.
        refine List.pairwise_append.mpr ⟨before, List.pairwise_singleton _ _, ?_⟩
        intro item among final isLast
        rw [List.mem_singleton.mp isLast, places among, List.idxOf_append_of_notMem new]
        have present : items.idxOf item < items.length :=
          List.idxOf_lt_length_iff.mpr (List.mem_eraseDups.mp among)
        omega

theorem nodup_eraseDups {α : Type} [DecidableEq α] (items : List α) : items.eraseDups.Nodup := by
  apply (pairwise_eraseDups items).imp
  rintro item other earlier rfl
  exact Nat.lt_irrefl _ earlier

/-! ## Discovery -/

namespace Discovery

/-- The queues are those of the names that were not seen before, each once. -/
theorem queues_gather (scheme : TopicScheme) (seen names : List String) :
    (gather scheme seen names).1 =
      (names.filter fun name => !seen.contains name).eraseDups.map scheme.parse := by
  induction names generalizing seen with
  | nil => rfl
  | cons name names ih =>
      rw [gather]
      by_cases known : seen.contains name = true
      · rw [if_pos known, List.filter_cons_of_neg (by simpa using known)]
        exact ih seen
      · rw [if_neg known, List.filter_cons_of_pos (by simpa using known), List.eraseDups_cons,
          List.map_cons, List.filter_filter]
        have onward : (names.filter fun other => !(name :: seen).contains other) =
            names.filter fun other => !(other == name) && !seen.contains other := by
          apply List.filter_congr
          intro other _
          rw [List.contains_cons, Bool.not_or]
        rw [← onward, ← ih]

/-- How often something is reported of the names that a catalog lists. -/
def timesReported (scheme : TopicScheme) (names : List String) : Event → Nat
  | .queueRepeated name => names.count name - 1
  | .nameTakenVerbatim name => if name ∈ names ∧ (scheme.parse name).parts = none then 1 else 0
  | _ => 0

/-- On a name that has a scope and a group nothing is reported, and on any other name once. -/
theorem count_parseEvents (scheme : TopicScheme) (name : String) (event : Event) :
    (scheme.parseEvents name).count event =
      if event = .nameTakenVerbatim name ∧ (scheme.parse name).parts = none then 1 else 0 := by
  unfold TopicScheme.parseEvents
  cases (scheme.parse name).parts with
  | none =>
      by_cases same : event = .nameTakenVerbatim name
      · simp [same]
      · simp [same, Ne.symm same]
  | some parts => simp

/-- Every repetition of a name is reported, those of the names seen before included. -/
theorem count_repeated_gather (scheme : TopicScheme) (seen names : List String) (name : String) :
    (gather scheme seen names).2.count (.queueRepeated name) =
      names.count name - if name ∈ seen then 0 else 1 := by
  induction names generalizing seen with
  | nil => simp [gather]
  | cons other names ih =>
      rw [gather]
      by_cases known : seen.contains other = true
      · have among : other ∈ seen := by simpa using known
        rw [if_pos known]
        by_cases same : other = name
        · subst same
          simp [ih, among]
        · have apart : Event.queueRepeated other ≠ .queueRepeated name := by simpa using same
          simp [ih, same, apart]
      · have new : other ∉ seen := by simpa using known
        rw [if_neg known]
        by_cases same : other = name
        · subst same
          simp [ih, count_parseEvents, new]
        · have apart : name ≠ other := Ne.symm same
          simp [ih, count_parseEvents, same, apart]

/-- A name that does not conform is reported when it is met for the first time. -/
theorem count_verbatim_gather (scheme : TopicScheme) (seen names : List String) (name : String) :
    (gather scheme seen names).2.count (.nameTakenVerbatim name) =
      if name ∈ names ∧ name ∉ seen ∧ (scheme.parse name).parts = none then 1 else 0 := by
  induction names generalizing seen with
  | nil => simp [gather]
  | cons other names ih =>
      rw [gather]
      by_cases known : seen.contains other = true
      · have among : other ∈ seen := by simpa using known
        rw [if_pos known]
        by_cases same : name = other
        · subst same
          simp [ih, among]
        · simp [ih, same]
      · have new : other ∉ seen := by simpa using known
        rw [if_neg known]
        by_cases same : name = other
        · subst same
          simp [ih, count_parseEvents, new]
        · simp [ih, count_parseEvents, same]

/-- Nothing else is reported of names. -/
theorem eq_of_mem_gather {scheme : TopicScheme} {seen names : List String} {event : Event}
    (among : event ∈ (gather scheme seen names).2) :
    ∃ name, event = .queueRepeated name ∨ event = .nameTakenVerbatim name := by
  induction names generalizing seen with
  | nil => cases among
  | cons name names ih =>
      rw [gather] at among
      split at among
      · rcases List.mem_cons.mp among with rfl | later
        · exact ⟨name, .inl rfl⟩
        · exact ih later
      · rcases List.mem_append.mp among with here | later
        · rw [← List.count_pos_iff, count_parseEvents] at here
          split at here
          · rename_i verbatim
            exact ⟨name, .inr verbatim.1⟩
          · cases here
        · exact ih later

/-- How often something is reported of a list of names. -/
theorem count_gather (scheme : TopicScheme) (names : List String) (event : Event) :
    (gather scheme [] names).2.count event = timesReported scheme names event := by
  cases event with
  | queueRepeated name => simp [count_repeated_gather, timesReported]
  | nameTakenVerbatim name => simp [count_verbatim_gather, timesReported]
  | _ =>
      apply List.count_eq_zero.mpr
      intro among
      obtain ⟨name, repeated | verbatim⟩ := eq_of_mem_gather among
      · cases repeated
      · cases verbatim

end Discovery

/-! ## Tables of names -/

/-- The route of the queue that one scheme finds in a name, to the topics that another gives it. -/
def TopicScheme.routeOf (labels parser : TopicScheme) (name : String) : Route :=
  ⟨parser.parse name, labels.topics (parser.parse name)⟩

namespace RouteTable

variable {left right table : RouteTable} (labels parser : TopicScheme)

theorem addAll_cons (table : RouteTable) (queue : QueueName) (queues : List QueueName) :
    table.addAll labels (queue :: queues) =
      (((table.add labels queue).1.addAll labels queues).1,
        (table.add labels queue).2 ++ ((table.add labels queue).1.addAll labels queues).2) := rfl

/-- A name whose queue has a route need not be passed on to the table. -/
theorem addAll_gather {seen : List String} (known : ∀ name ∈ seen, name ∈ table.routes.map (·.id))
    (names : List String) :
    table.addAll labels (Discovery.gather parser seen names).1 =
      table.addAll labels (names.map parser.parse) := by
  induction names generalizing seen table with
  | nil => rfl
  | cons name names ih =>
      rw [Discovery.gather, List.map_cons, addAll_cons]
      by_cases old : seen.contains name = true
      · have has : (parser.parse name).raw ∈ table.routes.map (·.id) := by
          rw [parser.raw_parse]
          exact known name (by simpa using old)
        rw [if_pos old, add_of_mem has, List.nil_append]
        exact ih known
      · rw [if_neg old, addAll_cons]
        -- With the queue of the new name the table knows all that was seen, the new name included.
        have has : ∀ other ∈ name :: seen,
            other ∈ (table.add labels (parser.parse name)).1.routes.map (·.id) := by
          intro other among
          by_cases there : other ∈ table.routes.map (·.id)
          · rcases routes_add labels table (parser.parse name) with same | grown
            · rwa [same]
            · rw [grown, List.map_append]
              exact List.mem_append_left _ there
          · have fresh : other = name := by
              rcases List.mem_cons.mp among with same | before
              · exact same
              · exact absurd (known other before) there
            subst fresh
            rw [routes_add_of_not_mem (by rwa [parser.raw_parse]), List.map_append]
            exact List.mem_append_right _ (by simp [Route.id, parser.raw_parse])
        rw [ih has]

/-- **A table is the same whether its names have been sifted before or not.** -/
theorem build_gather (names : List String) :
    build labels (Discovery.gather parser [] names).1 = build labels (names.map parser.parse) := by
  rw [build, build, addAll_gather labels parser (by simp) names]

/-- **A table has the route of every name, in the order in which the names first occur.** -/
theorem routes_build_parse (names : List String) :
    (build labels (names.map parser.parse)).1.routes =
      names.eraseDups.map (labels.routeOf parser) := by
  have raws : (names.map parser.parse).map (·.raw) = names := by
    rw [List.map_map]
    exact (List.map_congr_left fun name _ => parser.raw_parse name).trans (List.map_id names)
  have ids : (build labels (names.map parser.parse)).1.routes.map (·.id) = names.eraseDups := by
    calc
      _ = ((names.map parser.parse).map (·.raw)).eraseDups := ids_addAll labels _
      _ = names.eraseDups := by rw [raws]
  have own : ∀ route ∈ (build labels (names.map parser.parse)).1.routes,
      labels.routeOf parser route.id = route := by
    intro route among
    obtain ⟨found, topics⟩ := first_addAll labels (names.map parser.parse) route among
    obtain ⟨name, _, queue⟩ := List.mem_map.mp (List.mem_of_find?_eq_some found)
    have named : parser.parse route.id = route.queue := by
      rw [Route.id, ← queue, parser.raw_parse]
    rw [TopicScheme.routeOf, named, ← topics]
  rw [← ids, List.map_map]
  exact ((List.map_congr_left own).trans (List.map_id _)).symm

/-- Two tables have the same routes and lead to the same ones. -/
structure Matches (left right : RouteTable) : Prop where
  routes : left.routes.Perm right.routes
  topics : ∀ filter, left.topics filter = right.topics filter
  routesFor : ∀ topic, (left.routesFor topic).Perm (right.routesFor topic)

/-- The routes of a table decide what it leads to. -/
theorem Indexed.matches (indexed : left.Indexed) (also : right.Indexed)
    (routes : left.routes.Perm right.routes) : left.Matches right where
  routes := routes
  topics := fun filter => by
    apply Names.ofList_congr
    intro topic
    exact ((routes.filter _).flatMap_right _).mem_iff
  routesFor := fun topic => by
    rw [indexed.routesFor_eq_scan, also.routesFor_eq_scan]
    exact routes.filter _

/-- A list of names matters to a table only as the set of these names. -/
theorem matches_of_same_names {names others : List String}
    (same : ∀ name, name ∈ others ↔ name ∈ names) :
    (build labels (others.map parser.parse)).1.Matches
      (build labels (names.map parser.parse)).1 := by
  apply (indexed_build labels _).matches (indexed_build labels _)
  rw [routes_build_parse, routes_build_parse]
  apply List.Perm.map
  apply (List.perm_ext_iff_of_nodup (nodup_eraseDups others) (nodup_eraseDups names)).mpr
  intro name
  rw [List.mem_eraseDups, List.mem_eraseDups, same]

end RouteTable

namespace TopicScheme

/-- The table that a bridge sets up is that of all listed names, repeated ones included. -/
theorem tableOf_eq (scheme : TopicScheme) (names : List String) :
    scheme.tableOf names = (RouteTable.build scheme (names.map scheme.parse)).1 := by
  rw [tableOf, RouteTable.build_gather]

theorem routes_tableOf (scheme : TopicScheme) (names : List String) :
    (scheme.tableOf names).routes = names.eraseDups.map (scheme.routeOf scheme) := by
  rw [tableOf_eq, RouteTable.routes_build_parse]

theorem mem_routes_tableOf {scheme : TopicScheme} {names : List String} {route : Route} :
    route ∈ (scheme.tableOf names).routes ↔ ∃ name ∈ names, scheme.routeOf scheme name = route := by
  simp only [routes_tableOf, List.mem_map, List.mem_eraseDups]

end TopicScheme

/-! ## Answers of catalogs -/

/-- The rows of an owner and a kind. -/
def DirectoryDocument.rowsOf (document : DirectoryDocument) (owner kind : String) : List QueueRow :=
  document.queues.filter fun row => row.owner == owner && row.kind == kind

/-- A directory lists what is in the rows of the owner and the kind that it is asked for. -/
theorem Directory.listQueues_congr {directory other : Directory} {owner kind : String}
    (available : other.unavailable = directory.unavailable)
    (rows : other.document.rowsOf owner kind = directory.document.rowsOf owner kind) :
    other.listQueues owner kind = directory.listQueues owner kind := by
  unfold DirectoryDocument.rowsOf at rows
  simp only [listQueues, available, rows]

/-- What comes of an answer: the queues that discovery finds in the names, and what it reports. -/
structure Discovery.Finds (labels parser : TopicScheme) (owner kind : String) (names : List String)
    (queues : List QueueName) (events : List Event) : Prop where
  /-- Every name has its queue, once and in the order in which the names first occur. -/
  sifted : queues = names.eraseDups.map parser.parse
  /-- Each repetition of a name is reported, and each name that does not conform, and no more. -/
  reported : ∃ reports, events = .discoveryStarted owner kind :: reports ++
      [.discoveryDone owner queues.length] ∧
    ∀ event, reports.count event = timesReported parser names event
  /-- The table, and what is reported of it, is that of the names as they were listed. -/
  unsifted : RouteTable.build labels queues = RouteTable.build labels (names.map parser.parse)
  /-- There is the route of every name. -/
  routes : (RouteTable.build labels queues).1.routes = names.eraseDups.map (labels.routeOf parser)
  /-- The routes are in the order in which their names first occur. -/
  ordered : ((RouteTable.build labels queues).1.routes.map (·.id)).Pairwise fun one other =>
    names.idxOf one < names.idxOf other

theorem Discovery.finds (labels parser : TopicScheme) (owner kind : String) (names : List String) :
    Finds labels parser owner kind names (gather parser [] names).1
      (.discoveryStarted owner kind :: (gather parser [] names).2 ++
        [.discoveryDone owner (gather parser [] names).1.length]) where
  sifted := by simp [queues_gather]
  reported := ⟨_, rfl, count_gather parser names⟩
  unsifted := RouteTable.build_gather labels parser names
  routes := by rw [RouteTable.build_gather, RouteTable.routes_build_parse]
  ordered := by
    have ids : (names.eraseDups.map (labels.routeOf parser)).map (·.id) = names.eraseDups := by
      rw [List.map_map]
      exact (List.map_congr_left fun name _ => parser.raw_parse name).trans (List.map_id _)
    rw [RouteTable.build_gather, RouteTable.routes_build_parse, ids]
    exact pairwise_eraseDups names

/-- **What is discovered depends on which names are listed**, and neither on their order nor on how
often they are listed.  Whatever a catalog answers, there is one route for each name, in the order
of first occurrences, and the table would be the same if every listed name had been passed on to it.
Answers with the same names lead to the same routes, to the same topics under every filter, and from
every topic to the same routes.  Of the rows of a directory only those of the owner and the kind
that are asked for have a part in this. -/
theorem discovery_by_names (labels parser : TopicScheme) (owner kind : String) :
    (∀ names, ∃ queues events,
      Discovery.run parser owner kind (.ok names) = (.ok queues, events) ∧
        Discovery.Finds labels parser owner kind names queues events) ∧
      (∀ {names others queues found events more}, (∀ name, name ∈ others ↔ name ∈ names) →
        Discovery.run parser owner kind (.ok names) = (.ok queues, events) →
        Discovery.run parser owner kind (.ok others) = (.ok found, more) →
          (RouteTable.build labels found).1.Matches (RouteTable.build labels queues).1) ∧
      ∀ {directory other : Directory}, other.unavailable = directory.unavailable →
        other.document.rowsOf owner kind = directory.document.rowsOf owner kind →
          Discovery.run parser owner kind (other.listQueues owner kind) =
            Discovery.run parser owner kind (directory.listQueues owner kind) := by
  refine ⟨fun names => ?_, ?_, ?_⟩
  · exact ⟨_, _, rfl, Discovery.finds labels parser owner kind names⟩
  · intro names others queues found events more same finds findsToo
    cases finds
    cases findsToo
    rw [RouteTable.build_gather, RouteTable.build_gather]
    exact RouteTable.matches_of_same_names labels parser same
  · intro directory other available rows
    rw [Directory.listQueues_congr available rows]

/-- The rows of a directory, of which only the second is of the owner and the kind that are asked
for. -/
def mixedRows : List QueueRow :=
  [⟨"OTHER", "SPK_B", "NORMAL_QUEUE"⟩, ⟨"OWNER", "SPK_A", "NORMAL_QUEUE"⟩,
    ⟨"OWNER", "SPK_C", "EXCEPTION_QUEUE"⟩]

/-- It does not matter that a name is listed twice, nor that it is the first one, and a directory
may have further rows. -/
theorem rearranged_names_match :
    let scheme : TopicScheme := ⟨"CDA", "OWNER"⟩
    let answer := Discovery.run scheme "OWNER" "NORMAL_QUEUE"
    (∃ queues events found more, answer (.ok ["Q", "OWNER.SPK_A", "Q"]) = (.ok queues, events) ∧
      answer (.ok ["OWNER.SPK_A", "Q"]) = (.ok found, more) ∧ queues ≠ found ∧
        (RouteTable.build scheme found).1.Matches (RouteTable.build scheme queues).1) ∧
      answer (Directory.listQueues ⟨{ queues := mixedRows }, [], false⟩ "OWNER" "NORMAL_QUEUE") =
        answer (.ok ["OWNER.SPK_A"]) := by
  intro scheme answer
  obtain ⟨answered, sameNames, sameRows⟩ := discovery_by_names scheme scheme "OWNER" "NORMAL_QUEUE"
  constructor
  · obtain ⟨queues, events, listed, finds⟩ := answered ["Q", "OWNER.SPK_A", "Q"]
    obtain ⟨found, more, rearranged, findsToo⟩ := answered ["OWNER.SPK_A", "Q"]
    refine ⟨queues, events, found, more, listed, rearranged, ?_, ?_⟩
    · rw [finds.sifted, findsToo.sifted]
      decide +kernel
    · apply sameNames _ listed rearranged
      intro name
      simp only [List.mem_cons, List.not_mem_nil, or_false]
      tauto
  · let directory : Directory := ⟨{ queues := [⟨"OWNER", "SPK_A", "NORMAL_QUEUE"⟩] }, [], false⟩
    have rows : DirectoryDocument.rowsOf { queues := mixedRows } "OWNER" "NORMAL_QUEUE" =
        directory.document.rowsOf "OWNER" "NORMAL_QUEUE" := by decide +kernel
    exact sameRows rfl rows

end TopicRelay
