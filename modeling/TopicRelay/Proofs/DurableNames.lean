import Mathlib.Data.List.Forall2
import TopicRelay.Proofs.Setup

/-!
# Which routes contend for a durable subscription

The name of a durable subscription is the title of the application and the name of the queue, with
an underscore in place of every blank and every point.  The title is the same for all queues of a
bridge, so two queues get one name exactly if their own names look alike: they have the same length,
and where they differ both have a blank, a point or an underscore (`durableName_eq_iff`).

Whoever starts a route presents the subscription of the route to the queue side, whenever that is
(`History.presented_eq`).  So it depends on nothing but the names of two queues whether their routes
contend for one durable subscription (`History.contend_iff_lookAlike`).
-/

namespace TopicRelay

set_option autoImplicit false

/-! ## Names that look alike -/

/-- The characters that the name of a durable subscription does not tell apart. -/
def separators : List Char := [' ', '.', '_']

/-- The same character, or two separators. -/
def Interchangeable (one other : Char) : Prop :=
  one = other ∨ one ∈ separators ∧ other ∈ separators

instance (one other : Char) : Decidable (Interchangeable one other) :=
  inferInstanceAs (Decidable (_ ∨ _ ∧ _))

/-- Two names have the same length, and at every position the same character or two separators. -/
structure LookAlike (left right : String) : Prop where
  length : left.length = right.length
  characters : ∀ {position : Nat} {one other : Char}, left.toList[position]? = some one →
    right.toList[position]? = some other → Interchangeable one other

theorem lookAlike_iff_forall₂ {left right : String} :
    LookAlike left right ↔ List.Forall₂ Interchangeable left.toList right.toList := by
  rw [List.forall₂_iff_get]
  constructor
  · rintro ⟨length, characters⟩
    refine ⟨by simpa only [String.length_toList] using length,
      fun position here there => @characters position _ _ ?_ ?_⟩
    · exact List.getElem?_eq_getElem here
    · exact List.getElem?_eq_getElem there
  · rintro ⟨length, characters⟩
    refine ⟨by simpa only [String.length_toList] using length,
      fun {position one other} here there => ?_⟩
    obtain ⟨inLeft, rfl⟩ := List.getElem?_eq_some_iff.mp here
    obtain ⟨inRight, rfl⟩ := List.getElem?_eq_some_iff.mp there
    exact characters position inLeft inRight

instance (left right : String) : Decidable (LookAlike left right) :=
  decidable_of_iff _ lookAlike_iff_forall₂.symm

/-! ## Names of durable subscriptions -/

namespace Text

theorem underscored_append (isSeparator : Char → Bool) (left right : String) :
    underscored isSeparator (left ++ right) =
      underscored isSeparator left ++ underscored isSeparator right := by
  simp [underscored]

/-- Underscores make two texts equal if they make them equal character by character. -/
theorem underscored_eq_iff (isSeparator : Char → Bool) (left right : String) :
    underscored isSeparator left = underscored isSeparator right ↔
      List.Forall₂ (fun one other =>
          (if isSeparator one then '_' else one) = if isSeparator other then '_' else other)
        left.toList right.toList := by
  rw [← String.toList_inj, toList_underscored, toList_underscored, ← List.forall₂_eq_eq_eq,
    List.forall₂_map_left_iff, List.forall₂_map_right_iff]

end Text

/-- An underscore is put in for a blank and for a point, and stays where it is. -/
theorem interchangeable_iff (one other : Char) :
    ((if (one == ' ' || one == '.') = true then '_' else one) =
        if (other == ' ' || other == '.') = true then '_' else other) ↔
      Interchangeable one other := by
  simp only [Interchangeable, separators, Bool.or_eq_true, beq_iff_eq, List.mem_cons,
    List.not_mem_nil, or_false]
  grind

/-- **Two queues get one name exactly if their own names look alike**, whatever the title. -/
theorem durableName_eq_iff (title left right : String) :
    durableName title left = durableName title right ↔ LookAlike left right := by
  rw [durableName, durableName, Text.underscored_append _ (title ++ "_") left,
    Text.underscored_append _ (title ++ "_") right, String.append_right_inj,
    Text.underscored_eq_iff, lookAlike_iff_forall₂]
  simp only [interchangeable_iff]

/-! ## What activations present -/

/-- The route that a call is about to connect to its queue. -/
def Job.connecting? : Job → Option (RunId × Place)
  | .attach _ (.activating run (.connecting place _ _)) => some (run, place)
  | _ => none

/-- The subscription that a call presents to the queue side in a move, and the route for which it
does so. -/
def Occurrence.presented? (occurrence : Occurrence) : Option ((RunId × Place) × Subscription) :=
  match occurrence.move with
  | .job job => do
    let site ← occurrence.before.jobs[job]?.bind Job.connecting?
    let route ← occurrence.before.route? site.1 site.2
    return (site, occurrence.before.subscription route)
  | _ => none

/-- The queue side is asked with the subscription that is presented. -/
theorem Moves.upstream_of_presented {state next : State} {move : Move} {effects : List Effect}
    {run : RunId} {place : Place} {presented : Subscription}
    (moved : Moves state move next effects)
    (presents : Occurrence.presented? ⟨state, move, next, effects⟩ =
      some ((run, place), presented)) :
    ∃ route, state.route? run place = some route ∧ presented = state.subscription route ∧
      next.upstream = (state.upstream.consume presented).2 := by
  cases move with
  | job job =>
      simp only [Occurrence.presented?, Option.bind_eq_bind, Option.bind_eq_some_iff,
        Option.pure_def, Option.some.injEq, Prod.mk.injEq] at presents
      obtain ⟨_, ⟨found, present, connects⟩, route, here, rfl, rfl⟩ := presents
      refine ⟨route, here, rfl, ?_⟩
      unfold Job.connecting? at connects
      split at connects
      · cases connects
        obtain ⟨_, _, turn, rfl⟩ := moved.of_attach present
        cases turn with
        | activated turn =>
            cases turn with
            | connected there consumed =>
                cases here.symm.trans there
                exact (congrArg Prod.snd consumed).symm
            | unconnected there refused =>
                cases here.symm.trans there
                exact (congrArg Prod.snd refused).symm
      · cases connects
  | _ => cases presents

/-- **Whoever starts a route presents the subscription of the route.** -/
theorem History.presented_eq {first now : State} {past : List Occurrence} {run : RunId}
    {place : Place} {route : Route} {presented : Subscription} {occurrence : Occurrence}
    (history : History first past now) (here : now.route? run place = some route)
    (among : occurrence ∈ past)
    (presents : occurrence.presented? = some ((run, place), presented)) :
    presented = now.subscription route ∧
      occurrence.after.upstream = (occurrence.before.upstream.consume presented).2 := by
  obtain ⟨earlier, later, rfl⟩ := List.append_of_mem among
  obtain ⟨_, step, rest⟩ := history.occurrence
  have moved := step_cases step
  obtain ⟨found, there, rfl, asked⟩ := moved.upstream_of_presented presents
  have kept := rest.route? (moved.route? there)
  cases kept.symm.trans here
  have settings : now.settings = occurrence.before.settings := rest.settings.trans moved.settings
  exact ⟨by simp only [State.subscription, settings], asked⟩

/-! ## Routes that contend -/

/-- The subscriptions of two queues that are one to the queue side, which knows a durable
subscription by the client that makes it and by its name. -/
structure Subscription.Contends (one other : Subscription) : Prop where
  queue : one.queue ≠ other.queue
  clientId : one.clientId = other.clientId
  durableName : one.durableName = other.durableName

/-- No two places of a run lead from one queue. -/
theorem History.place_unique {first now : State} {past : List Occurrence} {run : RunId}
    {place spot : Place} {route other : Route} (history : History first past now)
    (unused : first.Unused) (here : now.route? run place = some route)
    (there : now.route? run spot = some other) (same : route.id = other.id) : place = spot := by
  obtain ⟨table, found, atPlace⟩ := State.route?_eq_some_iff.mp here
  obtain ⟨again, present, atSpot⟩ := State.route?_eq_some_iff.mp there
  cases found.symm.trans present
  obtain ⟨scheme, queues, rfl⟩ := history.tabled unused found
  exact RouteTable.place_unique scheme queues atPlace atSpot same

/-- **Which routes contend for a durable subscription.**  Whatever the title of the application:
whenever a route of a run is started, it is the subscription of the route that is presented to the
queue side.  The subscriptions of two routes of the run have one name exactly if the names of their
queues look alike, and two different routes contend for one durable subscription exactly in that
case. -/
theorem History.contend_iff_lookAlike {first now : State} {past : List Occurrence} {run : RunId}
    {place spot : Place} {route other : Route} (history : History first past now)
    (unused : first.Unused) (here : now.route? run place = some route)
    (there : now.route? run spot = some other) :
    (∀ occurrence ∈ past, ∀ site started presented, now.route? run site = some started →
        occurrence.presented? = some ((run, site), presented) →
          presented = now.subscription started ∧
            occurrence.after.upstream = (occurrence.before.upstream.consume presented).2) ∧
      ((now.subscription route).durableName = (now.subscription other).durableName ↔
        LookAlike route.id other.id) ∧
      ((now.subscription route).Contends (now.subscription other) ↔
        place ≠ spot ∧ LookAlike route.id other.id) := by
  have names : (now.subscription route).durableName = (now.subscription other).durableName ↔
      LookAlike route.id other.id :=
    durableName_eq_iff now.settings.applicationTitle route.id other.id
  refine ⟨fun _ among _ _ _ found presents => history.presented_eq found among presents, names,
    ?_, ?_⟩
  · rintro ⟨queue, _, name⟩
    refine ⟨?_, names.mp name⟩
    rintro rfl
    cases here.symm.trans there
    exact queue rfl
  · rintro ⟨apart, alike⟩
    exact ⟨fun same => apart (history.place_unique unused here there same), rfl, names.mpr alike⟩

/-- The queues "Q.A" and "Q A" are two queues, and have one durable subscription once both of their
routes are started. -/
theorem pointed_queue_contends_with_blank :
    ∃ past now route other, History (State.scripted ["Q.A", "Q A"]) past now ∧
      now.route? 0 0 = some route ∧ now.route? 0 1 = some other ∧
        route.id = "Q.A" ∧ other.id = "Q A" ∧
          past.filterMap Occurrence.presented? =
            [((0, 0), now.subscription route), ((0, 1), now.subscription other)] ∧
            now.upstream.subscriptions = [now.subscription route, now.subscription other] ∧
              (now.subscription route).Contends (now.subscription other) := by
  obtain ⟨past, now, history, checked⟩ :=
    History.exists_of_record (State.scripted ["Q.A", "Q A"])
      (startMoves 0 ++ .arrive (.attach "Q.A") :: List.replicate 8 (.job 1) ++
        .arrive (.attach "Q A") :: List.replicate 8 (.job 2))
      (fun past now => (now.route? 0 0).any fun route => (now.route? 0 1).any fun other =>
        route.id == "Q.A" && other.id == "Q A" &&
          past.filterMap Occurrence.presented? ==
            [((0, 0), now.subscription route), ((0, 1), now.subscription other)] &&
            now.upstream.subscriptions == [now.subscription route, now.subscription other]) rfl
  simp only [Option.any_eq_true, Bool.and_eq_true, beq_iff_eq] at checked
  obtain ⟨route, here, other, there, ⟨⟨first, second⟩, presented⟩, subscriptions⟩ := checked
  obtain ⟨_, _, contends⟩ :=
    history.contend_iff_lookAlike (State.scripted_unused _) here there
  have alike : LookAlike route.id other.id := by
    rw [first, second]
    decide
  exact ⟨past, now, route, other, history, here, there, first, second, presented, subscriptions,
    contends.mpr ⟨by decide, alike⟩⟩

end TopicRelay
