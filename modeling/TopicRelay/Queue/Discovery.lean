import TopicRelay.Event
import TopicRelay.Queue.Name

/-!
# Discovery of queues

Turns the names that a catalog lists into queues: every name once, in the order in which
the names are first listed.
-/

namespace TopicRelay

set_option autoImplicit false

/-- What is reported when a queue's name is taken apart. -/
def TopicScheme.parseEvents (scheme : TopicScheme) (raw : String) : List Event :=
  match (scheme.parse raw).parts with
  | some _ => []
  | none => [.nameTakenVerbatim raw]

namespace Discovery

/-- The queues of the names that are not in `seen`, each once, and the reports on them. -/
def gather (scheme : TopicScheme) (seen : List String) : List String →
    List QueueName × List Event
  | [] => ([], [])
  | name :: names =>
    if seen.contains name then
      let (queues, events) := gather scheme seen names
      (queues, .queueRepeated name :: events)
    else
      let (queues, events) := gather scheme (name :: seen) names
      (scheme.parse name :: queues, scheme.parseEvents name ++ events)

/-- The queues of an owner and a kind, from the catalog's answer. -/
def run (scheme : TopicScheme) (owner kind : String)
    (answer : Except CatalogFailure (List String)) :
    Except DiscoveryFailure (List QueueName) × List Event :=
  match answer with
  | .error failure =>
    (.error ⟨owner, kind, failure⟩,
      [.discoveryStarted owner kind, .discoveryFailed owner kind failure])
  | .ok names =>
    let (queues, events) := gather scheme [] names
    (.ok queues,
      .discoveryStarted owner kind :: events ++ [.discoveryDone owner queues.length])

end Discovery

end TopicRelay
