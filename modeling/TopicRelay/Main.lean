import TopicRelay.Server.Launch

/-!
# The command line

`--config FILE` names the configuration of the server.  The server starts its bridge, shows
the document that clients are given, and runs until standard input ends.  What happens
meanwhile is logged on standard error.
-/

namespace TopicRelay

set_option autoImplicit false

namespace Main

/-- The file that the arguments name. -/
def configFile? : List String → Option String
  | ["--config", file] | ["-c", file] => some file
  | _ => none

/-- The bytes of a file, or what stands in the way of reading it. -/
def readBytes (file : String) : IO (Except String ByteArray) := do
  try
    return .ok (← IO.FS.readBinFile file)
  catch failure => return .error (toString failure)

/-- The text of the configuration file. -/
def readText (file : String) : IO (Except Launch.Failure String) := do
  let attempt := "Unable to read config file " ++ file
  match ← readBytes file with
  | .error cause => return .error ⟨attempt, [cause]⟩
  | .ok bytes =>
    match String.fromUTF8? bytes with
    | some text => return .ok text
    | none => return .error ⟨attempt, ["stream did not contain valid UTF-8"]⟩

/-- The moment on the machine's steady clock. -/
def moment : IO Instant := do
  let milliseconds ← IO.monoMsNow
  return ⟨(milliseconds / 1000 : Nat), milliseconds % 1000 * 1000000⟩

/-- Runs a server until standard input ends. -/
def serve (file : String) : ExceptT Launch.Failure IO Unit := do
  let text ← ExceptT.mk (readText file)
  let config ← ExceptT.mk (pure (Launch.readConfig text))
  let bytes ← readBytes config.directoryFile
  let directory ← ExceptT.mk (pure (Launch.readDirectory bytes.toOption))
  let session := Launch.session config directory (← moment)
  let (log, started) := Launch.start session
  log.forM fun line => IO.eprintln line
  let (session, description) ← ExceptT.mk (pure started)
  IO.println description.toJson.pretty
  let _ ← (← IO.getStdin).readToEnd
  (Launch.stop session).forM fun line => IO.eprintln line

end Main

end TopicRelay

/-- Runs the server that the arguments describe. -/
def main (arguments : List String) : IO UInt32 := do
  match TopicRelay.Main.configFile? arguments with
  | none =>
    IO.eprintln "Usage: topic-relay --config <FILE>"
    return 2
  | some file =>
    match ← (TopicRelay.Main.serve file).run with
    | .ok _ => return 0
    | .error failure =>
      IO.eprintln failure.report
      return 1
