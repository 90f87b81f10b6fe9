import TopicRelay.Proofs.Ownership

/-!
# What a move does to the routes

A move leaves the relays of all slots where they are, unless it gives a route its relay or
takes the relay of a route out (`Moves.routing`).  Besides that, a route is claimed only by
a call that waits for it while its run starts routes (`Moves.claims`), and a relay changes in
its own turns and when it is told to stop, by a stop or because its run is forgotten, and in no
other way (`Moves.origin`).
-/

namespace TopicRelay

set_option autoImplicit false

/-- What a move does to the relays of the slots. -/
inductive Routing (state : State) : State → Prop where
  | kept {next : State} (keeps : KeepsRoutes state next) : Routing state next
  | spawned {job : JobId} {topic : String} {run : RunId} {place : Place} {ahead : List Place}
      {mailbox : MailboxId} {opened : List String} {route : Route}
      (present : state.jobs[job]? =
        some (.attach topic (.activating run (.producing place ahead mailbox opened []))))
      (here : state.route? run place = some route) :
      Routing state ((state.spawn run place route mailbox).setJob job
        (.attach topic (.activating run (.approaching ahead))))
  | withdrawn {job : JobId} {run : RunId} {place : Place} {ahead : List Place} {slot : RouteSlot}
      {relay : RelayId} (present : state.jobs[job]? = some (.stop (.claiming run place ahead)))
      (found : state.slot? run place = some slot) (held : slot.guard.holder = some job)
      (occupied : slot.relay = some relay) :
      Routing state ((state.withdraw run place relay).setJob job
        (.stop (.joining run place relay ahead)))

/-- The guard of a route is given up. -/
theorem KeepsRoutes.of_releaseSlot {state middle : State} {run : RunId} {place : Place}
    (runs : middle.runs = state.runs) (relays : middle.relays = state.relays) :
    KeepsRoutes state (middle.releaseSlot run place) :=
  KeepsRoutes.congr (.of_modifySlot (fun _ => rfl) fun _ => id) runs relays

theorem Forwards.not_ended {state next : State} {relay : RelayId} {found : Relay}
    {effects : List Effect} (turn : Forwards state relay found next effects) :
    found.phase ≠ .ended := by
  intro finished
  cases turn with
  | heeded _ phase => rcases phase with phase | ⟨due, phase⟩ <;> simp [finished] at phase
  | sourceEnded phase _ => simp [finished] at phase
  | received phase _ => simp [finished] at phase
  | failed phase _ => simp [finished] at phase
  | sentAll phase => simp [finished] at phase
  | sent phase _ => simp [finished] at phase
  | notSent phase _ => simp [finished] at phase
  | resumed phase _ => simp [finished] at phase
  | consumerClosed phase => simp [finished] at phase
  | producerClosed phase => simp [finished] at phase
  | ended phase => simp [finished] at phase

theorem Forwards.relays_of_ne {state next : State} {relay id : RelayId} {found : Relay}
    {effects : List Effect} (turn : Forwards state relay found next effects)
    (different : id ≠ relay) : next.relays[id]? = state.relays[id]? := by
  cases turn <;> exact State.relays_modifyRelay_of_ne different

/-- Besides its phase and how long it waits next, nothing about a relay changes in its turn. -/
theorem Forwards.relay_eq {state next : State} {relay : RelayId} {found after : Relay}
    {effects : List Effect} (turn : Forwards state relay found next effects)
    (present : state.relays[relay]? = some found) (now : next.relays[relay]? = some after) :
    after = { found with backoff := after.backoff, phase := after.phase } := by
  cases turn <;> (cases (State.relays_modifyRelay_self present).symm.trans now; rfl)

/-- Why a relay is told to stop: a stop takes it out of its slot, or its run is forgotten. -/
inductive Dismissal (state : State) (move : Move) (relay : RelayId) (found : Relay) : Prop where
  | stopped {job : JobId} {run : RunId} {place : Place} {ahead : List Place} {slot : RouteSlot}
      (stops : state.jobs[job]? = some (.stop (.claiming run place ahead)))
      (there : state.slot? run place = some slot) (occupied : slot.relay = some relay)
  | forgotten (mine : move = .forget found.run) (free : state.holds found.run = false)

/-- Where a relay comes from: it was there before, or a job has just set it up. -/
inductive Origin (state : State) (move : Move) (next : State) (effects : List Effect)
    (relay : RelayId) (found : Relay) : Prop where
  | kept (present : state.relays[relay]? = some found)
  | told {before : Relay} (present : state.relays[relay]? = some before)
      (same : found = { before with told := true }) (why : Dismissal state move relay before)
  | moved {before : Relay} {heed : Bool} (present : state.relays[relay]? = some before)
      (mine : move = .relay relay heed) (turn : Forwards state relay before next effects)
      (same : found = { before with backoff := found.backoff, phase := found.phase })
  | spawned {job : JobId} {topic : String} {run : RunId} {place : Place} {ahead : List Place}
      {mailbox : MailboxId} {opened : List String} {route : Route}
      (new : relay = state.relays.length)
      (claimed : state.jobs[job]? =
        some (.attach topic (.activating run (.producing place ahead mailbox opened []))))
      (here : state.route? run place = some route)
      (same : found = State.newRelay run place route mailbox)

namespace Moves

variable {state next : State} {move : Move} {effects : List Effect} {run : RunId} {place : Place}

/-- **Every move.** -/
theorem routing (moved : Moves state move next effects) : Routing state next := by
  have onward : ∀ {next : State} {job : JobId} {found : Job}, KeepsSlots state next →
      Routing state (next.setJob job found) :=
    fun keeps => .kept keeps.toKeepsRoutes.setJob
  have still : ∀ {next : State}, KeepsSlots state next → Routing state next :=
    fun keeps => .kept keeps.toKeepsRoutes
  have released : ∀ {next : State} {job : JobId} {found : Job}, KeepsRoutes state next →
      Routing state (next.setJob job found) :=
    fun keeps => .kept keeps.setJob
  cases moved with
  | start _ turn => exact onward turn.keepsSlots
  | stop present turn =>
      cases turn with
      | entered _ _ => exact onward (KeepsSlots.of_refuse.congr rfl rfl)
      | routeAsked => exact onward .of_requestSlot
      | routeIdle _ _ _ => exact released (.of_releaseSlot rfl rfl)
      | routeClaimed found held occupied => exact .withdrawn present found held occupied
      | routeStopped _ => exact onward .of_unmark
      | _ => exact onward (.of_runs rfl rfl)
  | attach present turn =>
      cases turn with
      | activated turn =>
          cases turn with
          | asked _ _ => exact onward .of_requestSlot
          | needless _ _ _ _ => exact released (.of_releaseSlot rfl rfl)
          | refused _ _ _ _ _ => exact released (.of_releaseSlot rfl rfl)
          | unconnected _ _ => exact released (.of_releaseSlot rfl rfl)
          | consumerUndone _ => exact released (.of_releaseSlot rfl rfl)
          | spawned here => exact .spawned present here
          | _ => exact onward (.of_runs rfl rfl)
      | _ => exact onward (.of_runs rfl rfl)
  | relay _ turn => exact still turn.keepsSlots
  | forget _ => exact still .of_tellRelays
  | change => exact still (change_keepsSlots state _)
  | _ => exact still (.of_runs rfl rfl)

/-- A relay goes on serving its route. -/
theorem serves {relay : RelayId} (moved : Moves state move next effects)
    (serves : state.Serves relay run place) : next.Serves relay run place := by
  cases moved.routing with
  | kept keeps => exact keeps.serves.mpr serves
  | spawned _ _ => exact State.serves_spawn.mpr (.inl serves)
  | withdrawn _ _ _ _ => exact State.serves_withdraw.mpr serves

/-- A run that starts no routes does not begin to start them again. -/
theorem refusing (moved : Moves state move next effects)
    (refuses : state.accepting? run = some false) : next.accepting? run = some false := by
  cases moved.routing with
  | kept keeps => exact keeps.refusing refuses
  | spawned _ _ => exact (State.accepting?_modifySlot _).trans refuses
  | withdrawn _ _ _ _ => exact (State.accepting?_modifySlot _).trans refuses

/-- A route is claimed by the job that has its turn at it while its run starts routes. -/
theorem claims {id : JobId} (moved : Moves state move next effects)
    (claims : next.Claims id run place) :
    state.Claims id run place ∨
      move = .job id ∧ state.accepting? run = some true ∧ ∃ topic ahead,
        state.jobs[id]? = some (.attach topic (.activating run (.queued place ahead))) := by
  cases moved with
  | start _ turn =>
      have before := (State.claims_setJob_of_none rfl claims).2
      exact .inl ((State.claims_congr turn.jobs).mp before)
  | stop _ turn =>
      have before := (State.claims_setJob_of_none rfl claims).2
      exact .inl ((State.claims_congr turn.jobs).mp before)
  | attach present turn =>
      rcases State.claims_setJob claims with ⟨rfl, now⟩ | ⟨_, before⟩
      · cases turn with
        | activated turn =>
            cases turn with
            | claimed _ _ _ _ accepts =>
                cases now
                exact .inr ⟨rfl, accepts, _, _, present⟩
            | connected _ _ => exact .inl ⟨_, present, now⟩
            | produced _ => exact .inl ⟨_, present, now⟩
            | unproduced _ => exact .inl ⟨_, present, now⟩
            | producerUndone => exact .inl ⟨_, present, now⟩
            | _ => cases now
        | _ => cases now
      · exact .inl ((State.claims_congr turn.leavesBridge.jobs).mp before)
  | relay _ turn => exact .inl ((State.claims_congr turn.leavesBridge.jobs).mp claims)
  | @arrive request =>
      obtain ⟨found, present, now⟩ := claims
      rcases getElem?_concat_eq_some.mp present with before | ⟨_, rfl⟩
      · exact .inl ⟨found, before, now⟩
      · cases request <;> cases now
  | change => exact .inl ((State.claims_congr (change_leavesBridge state _).jobs).mp claims)
  | _ => exact .inl claims

/-- A slot that nobody has claimed stays without a relay. -/
theorem stays_empty (moved : Moves state move next effects)
    (empty : ∀ {slot}, state.slot? run place = some slot → slot.relay = none)
    (unclaimed : ∀ {job}, ¬state.Claims job run place) {slot : RouteSlot}
    (found : next.slot? run place = some slot) : slot.relay = none := by
  cases moved.routing with
  | kept keeps =>
      rcases keeps.backward found with ⟨still, _⟩ | ⟨before, present, same, _⟩
      · exact still
      · exact same.trans (empty present)
  | @spawned job topic there spot ahead mailbox opened route present here =>
      have apart : (there, spot) ≠ (run, place) := by
        rintro ⟨⟩
        exact unclaimed ⟨_, present, rfl⟩
      exact empty ((State.slot?_modifySlot_of_ne apart).symm.trans found)
  | @withdrawn job there spot ahead before relay present was held occupied =>
      have apart : (there, spot) ≠ (run, place) := by
        rintro ⟨⟩
        simp [empty was] at occupied
      exact empty ((State.slot?_modifySlot_of_ne apart).symm.trans found)

/-- **Every relay after a move.** -/
theorem origin {relay : RelayId} {found : Relay} (moved : Moves state move next effects)
    (present : next.relays[relay]? = some found) :
    Origin state move next effects relay found := by
  have kept : next.relays = state.relays → Origin state move next effects relay found :=
    fun same => .kept (same ▸ present)
  cases moved with
  | start _ turn => exact kept (by cases turn <;> rfl)
  | stop stops turn =>
      cases turn with
      | routeClaimed there held occupied =>
          rcases State.relays_modifyRelay present with ⟨rfl, before, was, rfl⟩ | ⟨_, before⟩
          · exact .told was rfl (.stopped stops there occupied)
          · exact .kept before
      | _ => exact kept rfl
  | attach there turn =>
      cases turn with
      | activated turn =>
          cases turn with
          | spawned here =>
              rcases getElem?_concat_eq_some.mp present with before | ⟨new, rfl⟩
              · exact .kept before
              · exact .spawned new there here rfl
          | _ => exact kept rfl
      | _ => exact kept rfl
  | @relay moving heed before next effects there turn =>
      by_cases mine : relay = moving
      · subst mine
        exact .moved there rfl turn (turn.relay_eq there present)
      · exact .kept ((turn.relays_of_ne mine).symm.trans present)
  | forget free =>
      rcases State.relays_tellRelays present with ⟨before, was, rfl, rfl⟩ | ⟨_, was⟩
      · exact .told was rfl (.forgotten rfl free)
      · exact .kept was
  | change => exact kept (change_fromOutside state _).relays
  | _ => exact kept rfl

/-- A relay was there before, and has ended if it had ended, or a job that had claimed its route
has set it up. -/
theorem relay_origin {relay : RelayId} {found : Relay} (moved : Moves state move next effects)
    (present : next.relays[relay]? = some found) :
    (∃ before, state.relays[relay]? = some before ∧ found.run = before.run ∧
        found.place = before.place ∧ (before.phase = .ended → found.phase = .ended)) ∨
      relay = state.relays.length ∧ ∃ job, state.Claims job found.run found.place := by
  cases moved.origin present with
  | kept was => exact .inl ⟨found, was, rfl, rfl, id⟩
  | told was same _ => exact .inl ⟨_, was, by rw [same], by rw [same], by rw [same]; exact id⟩
  | moved was _ turn same =>
      exact .inl ⟨_, was, by rw [same], by rw [same],
        fun finished => absurd finished turn.not_ended⟩
  | spawned new claimed _ same => exact .inr ⟨new, _, _, claimed, by rw [same]; rfl⟩

end Moves

end TopicRelay
