import TopicRelay.Text.Ascii

/-!
# Queue names and the topics they publish to

A catalog names a queue `owner.SCOPE_group`: an owner without a point, capitals, an
underscore, and a group on one line.  `splitName?` takes such a name apart, and
`joinName` writes one.  A queue of the configured owner publishes to the topic of its
whole scope and to the topic of its group; a queue with any other name publishes to one
topic, which has the queue's name.

The names under which a bridge is known to the queue side are formed here as well.
-/

namespace TopicRelay

set_option autoImplicit false

/-! ## The grammar of names -/

/-- The letters A to Z. -/
def isCapital (char : Char) : Bool := 'A' ≤ char && char ≤ 'Z'

/-- Owner, scope and group of a name of the form `owner.SCOPE_group`. -/
def splitName? (name : List Char) : Option (List Char × List Char × List Char) :=
  let owner := name.takeWhile (· != '.')
  match name.dropWhile (· != '.') with
  | [] => none
  | _ :: rest =>
    let scope := rest.takeWhile isCapital
    match rest.dropWhile isCapital with
    | '_' :: group =>
      if owner.isEmpty || scope.isEmpty || group.contains '\n' then none
      else some (owner, scope, group)
    | _ => none

/-- The name `owner.SCOPE_group`. -/
def joinName (owner scope group : List Char) : List Char :=
  owner ++ '.' :: scope ++ '_' :: group

/-! ## Queues -/

/-- What the name of a conforming queue says about it. -/
structure NameParts where
  scope : String
  group : String
  deriving DecidableEq, Repr

/-- A queue, identified by the name that the catalog gives it. -/
structure QueueName where
  raw : String
  /-- Scope and group, if the name conforms. -/
  parts : Option NameParts
  deriving DecidableEq, Repr

namespace QueueName

/-- The scope of a conforming queue. -/
def scope? (queue : QueueName) : Option String := queue.parts.map (·.scope)

/-- The group of a conforming queue. -/
def group? (queue : QueueName) : Option String := queue.parts.map (·.group)

end QueueName

/-! ## Topics -/

/-- How queues are turned into topics: whose queues have scopes, and what their topics
begin with. -/
structure TopicScheme where
  appPrefix : String
  owner : String
  deriving DecidableEq, Repr

namespace TopicScheme

/-- The group that stands for a whole scope. -/
def broadcastGroup : String := "ALL"

/-- The topic of a group of a scope. -/
def topic (scheme : TopicScheme) (scope group : String) : String :=
  scheme.appPrefix ++ "." ++ scope ++ "." ++ group

/-- The queue of a catalog name. -/
def parse (scheme : TopicScheme) (raw : String) : QueueName :=
  match splitName? raw.toList with
  | some (owner, scope, group) =>
    if owner = scheme.owner.toList then
      ⟨raw, some ⟨String.ofList scope, String.ofList group⟩⟩
    else ⟨raw, none⟩
  | none => ⟨raw, none⟩

/-- The topics of a queue, without repetition, the topic of the whole scope first. -/
def topics (scheme : TopicScheme) (queue : QueueName) : List String :=
  match queue.parts with
  | some parts =>
    [scheme.topic parts.scope broadcastGroup, scheme.topic parts.scope parts.group].eraseDups
  | none => [queue.raw]

end TopicScheme

/-! ## Names on the queue side -/

/-- The name of the durable subscription that an application holds on a queue. -/
def durableName (title raw : String) : String :=
  Text.underscored (fun char => char == ' ' || char == '.') (title ++ "_" ++ raw)

/-- The name under which all subscriptions of a host are made. -/
def clientId (host : String) : String :=
  "CDA_" ++ Text.underscored (fun char => char == '.' || char == ':' || char == '/') host

end TopicRelay
