import Mathlib.Data.List.TakeWhile
import TopicRelay.Proofs.RouteIndex
import TopicRelay.Proofs.Setup

/-!
# The grammar of queue names

A name of the form `owner.SCOPE_group` can be taken apart in one way only: the owner ends at the
first point, and the scope, which consists of capitals, ends at the underscore after it.  So it does
no harm that underscores and points may occur in the group again, and underscores in the owner.
`splitName?_eq_some_iff` says that the reader finds exactly the parts that a name is written
from.

`TopicScheme.name_grammar` says when a queue has a scope and a group under a scheme, which they
are, and which topics the queue gets.
-/

namespace TopicRelay

set_option autoImplicit false

/-! ## Taking names apart -/

/-- How a name is written from an owner, a scope and a group. -/
structure WrittenFrom (name owner scope group : List Char) : Prop where
  joined : name = joinName owner scope group
  owned : owner ≠ []
  pointless : '.' ∉ owner
  filled : scope ≠ []
  capitals : ∀ char ∈ scope, isCapital char = true
  oneLine : '\n' ∉ group

/-- What stands before the first character that does not pass, and what stands from it on. -/
theorem takeWhile_dropWhile_append_cons {passes : Char → Bool} {front : List Char}
    (back : List Char) (stop : Char) (pass : ∀ char ∈ front, passes char = true)
    (fails : passes stop = false) :
    (front ++ stop :: back).takeWhile passes = front ∧
      (front ++ stop :: back).dropWhile passes = stop :: back := by
  rw [List.takeWhile_append_of_pos pass, List.dropWhile_append_of_pos pass]
  simp [fails]

/-- A name that was written is taken apart again. -/
theorem splitName?_of_writtenFrom {name owner scope group : List Char}
    (written : WrittenFrom name owner scope group) :
    splitName? name = some (owner, scope, group) := by
  obtain ⟨rfl, owned, pointless, filled, capitals, oneLine⟩ := written
  have beforePoint : ∀ char ∈ owner, (char != '.') = true := fun char among =>
    bne_iff_ne.mpr fun same => pointless (same ▸ among)
  obtain ⟨ownerTaken, atPoint⟩ := takeWhile_dropWhile_append_cons
    (scope ++ '_' :: group) '.' beforePoint rfl
  obtain ⟨scopeTaken, atUnderscore⟩ := takeWhile_dropWhile_append_cons
    group '_' capitals (by decide)
  have shape : joinName owner scope group = owner ++ '.' :: (scope ++ '_' :: group) := by
    simp [joinName]
  simp only [splitName?, shape, ownerTaken, atPoint, scopeTaken, atUnderscore]
  simp [owned, filled, oneLine]

/-- What a name is taken apart into is what it is written from. -/
theorem writtenFrom_of_splitName? {name owner scope group : List Char}
    (split : splitName? name = some (owner, scope, group)) :
    WrittenFrom name owner scope group := by
  have whole := List.takeWhile_append_dropWhile (p := (· != '.')) (l := name)
  simp only [splitName?] at split
  split at split
  · cases split
  · rename_i point rest atPoint
    have inner := List.takeWhile_append_dropWhile (p := isCapital) (l := rest)
    split at split
    · rename_i grouped atUnderscore
      simp only [Option.ite_none_left_eq_some, Bool.or_eq_true, List.isEmpty_iff, not_or,
        List.contains_iff_mem, Option.some.injEq, Prod.mk.injEq] at split
      obtain ⟨⟨⟨owned, filled⟩, oneLine⟩, rfl, rfl, rfl⟩ := split
      have pointIs : point = '.' := by
        have fails := List.head?_dropWhile_not (· != '.') name
        simpa [atPoint] using fails
      refine ⟨?_, owned, fun among => ?_, filled, fun char => List.mem_takeWhile_imp, oneLine⟩
      · rw [atUnderscore] at inner
        rw [atPoint, ← inner, pointIs] at whole
        simpa [joinName] using whole.symm
      · simpa using List.mem_takeWhile_imp among
    · cases split

/-- **A name is taken apart into what it is written from**, and into nothing else. -/
theorem splitName?_eq_some_iff {name owner scope group : List Char} :
    splitName? name = some (owner, scope, group) ↔ WrittenFrom name owner scope group :=
  ⟨writtenFrom_of_splitName?, splitName?_of_writtenFrom⟩

/-- Points and underscores may occur in the group, and underscores in the owner. -/
example : splitName? "CWMS_20.SPK_TS.ALL_X".toList =
    some ("CWMS_20".toList, "SPK".toList, "TS.ALL_X".toList) := by
  decide +kernel

/-! ## Scopes and groups of queues -/

/-- How the name of a queue of an owner is written from its scope and its group. -/
structure Spelled (owner raw scope group : String) : Prop where
  written : raw = owner ++ "." ++ scope ++ "_" ++ group
  owned : owner ≠ ""
  pointless : '.' ∉ owner.toList
  filled : scope ≠ ""
  capitals : ∀ char ∈ scope.toList, 'A' ≤ char ∧ char ≤ 'Z'
  oneLine : '\n' ∉ group.toList

theorem toList_ne_nil_iff {text : String} : text.toList ≠ [] ↔ text ≠ "" := by
  rw [ne_eq, ne_eq, ← String.toList_inj, String.toList_empty]

/-- Names as texts and as lists of characters are written alike. -/
theorem spelled_iff_writtenFrom {owner raw scope group : String} :
    Spelled owner raw scope group ↔
      WrittenFrom raw.toList owner.toList scope.toList group.toList := by
  have joined : raw = owner ++ "." ++ scope ++ "_" ++ group ↔
      raw.toList = joinName owner.toList scope.toList group.toList := by
    rw [← String.toList_inj]
    simp [joinName]
  have capital : ∀ char, isCapital char = true ↔ 'A' ≤ char ∧ char ≤ 'Z' := fun char => by
    simp [isCapital]
  constructor
  · rintro ⟨written, owned, pointless, filled, capitals, oneLine⟩
    exact ⟨joined.mp written, toList_ne_nil_iff.mpr owned, pointless, toList_ne_nil_iff.mpr filled,
      fun char among => (capital char).mpr (capitals char among), oneLine⟩
  · rintro ⟨written, owned, pointless, filled, capitals, oneLine⟩
    exact ⟨joined.mpr written, toList_ne_nil_iff.mp owned, pointless, toList_ne_nil_iff.mp filled,
      fun char among => (capital char).mp (capitals char among), oneLine⟩

namespace TopicScheme

variable {scheme : TopicScheme} {raw scope group : String}

/-- A queue has the scope and the group that its name is written from. -/
theorem parts_parse_eq_some_iff :
    (scheme.parse raw).parts = some ⟨scope, group⟩ ↔ Spelled scheme.owner raw scope group := by
  rw [spelled_iff_writtenFrom, ← splitName?_eq_some_iff]
  unfold TopicScheme.parse
  cases split : splitName? raw.toList with
  | none => simp
  | some parts =>
      obtain ⟨owner, capitals, rest⟩ := parts
      by_cases same : owner = scheme.owner.toList
      · simp only [same, if_true, Option.some.injEq, NameParts.mk.injEq, Prod.mk.injEq, true_and]
        rw [← String.toList_inj, ← String.toList_inj, String.toList_ofList, String.toList_ofList]
      · simp [same]

/-- A queue with a scope and a group gets the topic of its scope and then that of its group, which
may be the same. -/
theorem topics_of_parts {queue : QueueName} (parts : queue.parts = some ⟨scope, group⟩) :
    scheme.topics queue =
      if group = broadcastGroup then [scheme.topic scope broadcastGroup]
      else [scheme.topic scope broadcastGroup, scheme.topic scope group] := by
  have same : scheme.topic scope group = scheme.topic scope broadcastGroup ↔
      group = broadcastGroup := by
    rw [topic, topic, String.append_right_inj]
  simp only [topics, parts]
  by_cases broadcast : group = broadcastGroup
  · simp [List.eraseDups_cons, broadcast]
  · simp [List.eraseDups_cons, broadcast, beq_false_of_ne (same.not.mpr broadcast)]

theorem topics_of_parts_eq_none {queue : QueueName} (parts : queue.parts = none) :
    scheme.topics queue = [queue.raw] := by
  simp only [topics, parts]

/-- A queue has at least one topic. -/
theorem topics_ne_nil (queue : QueueName) : scheme.topics queue ≠ [] := by
  cases parts : queue.parts with
  | none => simp [topics_of_parts_eq_none parts]
  | some parts' =>
      obtain ⟨scope, group⟩ := parts'
      rw [topics_of_parts parts]
      split <;> simp

/-- **The grammar of queue names.**  Under every scheme a queue has a scope and a group exactly if
its name is written from the owner of the scheme, the scope and the group; it is then written from
no other scope and group.  Otherwise the queue has neither.  It gets the topics of its scope and of
its group, one topic if these are the same, or else the topic with its own name; in any case it gets
a topic, and none twice. -/
theorem name_grammar (scheme : TopicScheme) (raw : String) :
    (scheme.parse raw).raw = raw ∧
      (∀ scope group, (scheme.parse raw).scope? = some scope ∧
          (scheme.parse raw).group? = some group ↔ Spelled scheme.owner raw scope group) ∧
      (∀ {scope group other rest}, Spelled scheme.owner raw scope group →
        Spelled scheme.owner raw other rest → scope = other ∧ group = rest) ∧
      (∀ {scope group}, Spelled scheme.owner raw scope group →
        scheme.topics (scheme.parse raw) =
          if group = "ALL" then [scheme.appPrefix ++ "." ++ scope ++ "." ++ "ALL"]
          else [scheme.appPrefix ++ "." ++ scope ++ "." ++ "ALL",
            scheme.appPrefix ++ "." ++ scope ++ "." ++ group]) ∧
      ((¬∃ scope group, Spelled scheme.owner raw scope group) →
        (scheme.parse raw).scope? = none ∧ (scheme.parse raw).group? = none ∧
          scheme.topics (scheme.parse raw) = [raw]) ∧
      scheme.topics (scheme.parse raw) ≠ [] ∧ (scheme.topics (scheme.parse raw)).Nodup := by
  refine ⟨scheme.raw_parse raw, fun scope group => ?_, ?_, ?_, ?_, topics_ne_nil _,
    scheme.topics_nodup _⟩
  · rw [← parts_parse_eq_some_iff, QueueName.scope?, QueueName.group?]
    cases (scheme.parse raw).parts with
    | none => simp
    | some parts =>
        obtain ⟨scope, group⟩ := parts
        simp
  · intro scope group other rest spelled also
    have same := (parts_parse_eq_some_iff.mpr spelled).symm.trans (parts_parse_eq_some_iff.mpr also)
    simpa using same
  · intro scope group spelled
    exact topics_of_parts (parts_parse_eq_some_iff.mpr spelled)
  · intro unspelled
    have absent : (scheme.parse raw).parts = none := by
      cases parts : (scheme.parse raw).parts with
      | none => rfl
      | some found => exact absurd ⟨_, _, parts_parse_eq_some_iff.mp parts⟩ unspelled
    refine ⟨by simp [QueueName.scope?, absent], by simp [QueueName.group?, absent], ?_⟩
    rw [topics_of_parts_eq_none absent, scheme.raw_parse]

end TopicScheme

end TopicRelay
