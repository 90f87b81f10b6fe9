import TopicRelay.Access.DirectoryDocument
import TopicRelay.Bridge.Description
import TopicRelay.Json.Pretty
import TopicRelay.Server.Config

/-!
# Launching a server

A server reads its configuration and its directory, starts a bridge with them, and shows the
document that clients are given.  What goes wrong on the way is reported with everything
behind it.
-/

namespace TopicRelay

set_option autoImplicit false

/-- The text of a flaw of a JSON text. -/
def Flaw.message : Flaw → String
  | .unfinished => "the text ends where more of it is needed"
  | .malformed => "the text is not well formed"

instance : Reported DirectoryFailure where
  describe failure := Reported.describe (CatalogFailure.mk failure.message (causes failure))
  causes failure := causes failure
where
  /-- What is behind the failure. -/
  causes : DirectoryFailure → List String
    | .mismatch mismatch => [mismatch.message Flaw.message]
    | failure => failure.fileMessage?.toList

namespace Launch

/-- What was attempted, and the texts of what stood in the way, the nearest first. -/
structure Failure where
  attempt : String
  causes : List String
  deriving DecidableEq, Repr

/-- The causes of a failure on lines of their own, numbered if there are several. -/
def causeLines : List String → List String
  | [] => []
  | [cause] => ["", "Caused by:", "    " ++ cause]
  | causes =>
    "" :: "Caused by:" :: causes.mapIdx fun number cause =>
      "    " ++ toString number ++ ": " ++ cause

/-- The report of a failure. -/
def Failure.report (failure : Failure) : String :=
  String.intercalate "\n" (("Error: " ++ failure.attempt) :: causeLines failure.causes)

/-- What is missing where a configuration cannot be read. -/
def configCauses : Json5.Failure → List String
  | .ungrammatical => ["the text is not well formed"]
  | .mismatch mismatch => [mismatch.message Json5.Misreading.message]

/-- The configuration in the text of a file. -/
def readConfig (text : String) : Except Failure ServerConfig :=
  match ServerConfig.ofJson5Text text with
  | .ok config => .ok config
  | .error failure => .error ⟨"Unable to parse config file", configCauses failure⟩

/-- The directory in the bytes of a file, if there is one. -/
def readDirectory (bytes : Option ByteArray) : Except Failure Directory :=
  match Directory.ofFile bytes with
  | .ok directory => .ok directory
  | .error failure => .error ⟨"Unable to load static catalog", Reported.chain failure⟩

/-- A session with the bridge of a server. -/
def session (config : ServerConfig) (directory : Directory) (now : Instant) : Session :=
  Session.create config.settings ⟨.directory, false⟩ directory config.broker now

/-! ## Running the bridge -/

/-- The word for a level in the log. -/
def levelWord : Level → String
  | .debug => "DEBUG"
  | .info => "INFO"
  | .warn => "WARN"
  | .error => "ERROR"

/-- The value of a field in the log. -/
def fieldText : FieldValue → String
  | .text value => value
  | .count value => toString value
  | .key name => name.toText

/-- The line of an event in the log. -/
def logLine (event : Event) : String :=
  let record := event.record
  let fields := record.fields.map fun (name, value) => " " ++ name ++ "=" ++ fieldText value
  levelWord record.level ++ " " ++ record.component ++ ": " ++ record.name ++ String.join fields

/-- The log of what could be seen; events that only matter for debugging stay out. -/
def log (outcome : Outcome) : List String :=
  outcome.effects.filterMap fun
    | .report event => if event.record.level = .debug then none else some (logLine event)
    | _ => none

/-- Starts the bridge: the log, and the session with the document that clients are given. -/
def start (session : Session) : List String × Except Failure (Session × Description) :=
  let (session, outcome) := session.perform [.start]
  match outcome.replies with
  | [.start (.error failure)] =>
    (log outcome, .error ⟨"Unable to start queue bridge", Reported.chain failure⟩)
  | _ => (log outcome, .ok (session, session.state.description none))

/-- Stops the bridge: the log. -/
def stop (session : Session) : List String := log (session.perform [.stop]).2

end Launch

end TopicRelay
