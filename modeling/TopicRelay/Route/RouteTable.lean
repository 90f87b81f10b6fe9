import TopicRelay.Event
import TopicRelay.Queue.Name

/-!
# Routes

A route leads from one queue to the topics of that queue.  A `RouteTable` holds one route
for each queue, in the order in which the queues were given, and an index from topics to
the positions of the routes that publish them.  The index grows while the table is built;
`RouteTable.scan` finds the same routes by looking at all of them.
-/

namespace TopicRelay

set_option autoImplicit false

/-- The way from a queue to its topics. -/
structure Route where
  queue : QueueName
  topics : List String
  deriving DecidableEq, Repr

/-- A route is identified by the name of its queue. -/
def Route.id (route : Route) : String := route.queue.raw

/-- The positions of the routes of each topic, in the order in which topics first occur. -/
abbrev TopicIndex : Type := List (String × List Nat)

namespace TopicIndex

/-- Adds a position to a topic. -/
def add (topic : String) (position : Nat) : TopicIndex → TopicIndex
  | [] => [(topic, [position])]
  | (other, positions) :: index =>
    if other = topic then (other, positions ++ [position]) :: index
    else (other, positions) :: add topic position index

/-- The positions of a topic. -/
def positions (index : TopicIndex) (topic : String) : List Nat :=
  (List.lookup topic index).getD []

end TopicIndex

/-- Routes in a fixed order, and where to find the routes of a topic. -/
structure RouteTable where
  routes : List Route := []
  index : TopicIndex := []
  deriving DecidableEq, Repr

namespace RouteTable

/-! ## Building -/

/-- Adds the route of a queue unless the queue has one. -/
def add (scheme : TopicScheme) (table : RouteTable) (queue : QueueName) :
    RouteTable × List Event :=
  if table.routes.any fun route => route.id == queue.raw then (table, [])
  else
    let topics := scheme.topics queue
    let position := table.routes.length
    let index := topics.foldl (fun index topic => index.add topic position) table.index
    (⟨table.routes ++ [⟨queue, topics⟩], index⟩, [.routeRegistered queue.raw topics])

/-- Adds the routes of several queues. -/
def addAll (scheme : TopicScheme) (table : RouteTable) : List QueueName →
    RouteTable × List Event
  | [] => (table, [])
  | queue :: queues =>
    let (table, events) := table.add scheme queue
    let (table, more) := table.addAll scheme queues
    (table, events ++ more)

/-- The table of the routes of some queues, and the reports on it. -/
def build (scheme : TopicScheme) (queues : List QueueName) : RouteTable × List Event :=
  let (table, events) := addAll scheme {} queues
  (table, events ++ [.routesRegistered table.routes.length table.index.length])

/-! ## Looking up -/

/-- The positions of the routes that publish a topic, by way of the index. -/
def positions (table : RouteTable) (topic : String) : List Nat := table.index.positions topic

/-- The routes that publish a topic, by way of the index. -/
def routesFor (table : RouteTable) (topic : String) : List Route :=
  (table.positions topic).filterMap fun position => table.routes[position]?

/-- The routes that publish a topic, found by looking at every route. -/
def scan (table : RouteTable) (topic : String) : List Route :=
  table.routes.filter fun route => route.topics.contains topic

/-- The route of a queue. -/
def route? (table : RouteTable) (id : String) : Option Route :=
  table.routes.find? fun route => route.id == id

/-- Whether a route is one of a scope; every route is if no scope is given. -/
def inScope (filter : Option String) (route : Route) : Bool :=
  match filter with
  | none => true
  | some wanted =>
    match route.queue.scope? with
    | some scope => Text.equalsIgnoringCase scope wanted
    | none => false

/-- The topics of all routes, or of the routes of one scope. -/
def topics (table : RouteTable) (filter : Option String) : Names :=
  Names.ofList ((table.routes.filter (inScope filter)).flatMap (·.topics))

end RouteTable

end TopicRelay
