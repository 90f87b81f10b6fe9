import TopicRelay.Json5.Reader
import TopicRelay.Settings.Document
import TopicRelay.Transport.Broker

/-!
# The configuration of a server

What a server that runs a bridge is configured with: the settings of the bridge, the file of
its directory, and the listeners of its broker.  A configuration is written in JSON5.
-/

namespace TopicRelay

set_option autoImplicit false

/-- A configured listener. -/
structure AcceptorConfig where
  name : String
  host : Option String := none
  port : Option UInt16 := none
  protocols : List String := []
  deriving DecidableEq, Repr

/-- The configuration of a server. -/
structure ServerConfig where
  settings : Settings := {}
  /-- The file that the directory is read from. -/
  directoryFile : String
  acceptors : List AcceptorConfig
  deriving DecidableEq, Repr

/-- The listener that a configuration describes. -/
def AcceptorConfig.acceptor (config : AcceptorConfig) : Acceptor :=
  let bare : Acceptor := { name := config.name }
  let named :=
    match config.host with
    | some host => bare.withParameter Acceptor.hostParameter host
    | none => bare
  let numbered :=
    match config.port with
    | some port => named.withParameter "port" (toString port.toNat)
    | none => named
  if config.protocols.isEmpty then numbered
  else numbered.withParameter "protocols" (String.intercalate "," config.protocols)

/-- The broker that a configuration describes. -/
def ServerConfig.broker (config : ServerConfig) : Broker where
  acceptors := config.acceptors.map (·.acceptor)
  protocols := Names.ofList (config.acceptors.flatMap (·.protocols))

/-! ## Reading configurations -/

section Readers

variable {ν φ : Type}

/-- Reads a listener. -/
def AcceptorConfig.reader (dialect : Dialect ν φ) : Reads ν φ AcceptorConfig :=
  dialect.record "AcceptorConfig" [
    Field.of "name" true dialect.text fun value config => { config with name := value },
    Field.of "host" false (dialect.optional dialect.text) fun value config =>
      { config with host := value },
    Field.of "port" false (dialect.optional (dialect.count 16)) fun value config =>
      { config with port := value.map UInt16.ofNat },
    Field.of "protocols" false (dialect.sequence dialect.text) fun value config =>
      { config with protocols := value }]
    { name := "" }

/-- Reads the section about the directory. -/
def ServerConfig.directoryReader (dialect : Dialect ν φ) : Reads ν φ String :=
  dialect.record "CatalogConfig" [Field.of "file_path" true dialect.text fun value _ => value] ""

/-- Reads the section about the broker. -/
def ServerConfig.acceptorsReader (dialect : Dialect ν φ) : Reads ν φ (List AcceptorConfig) :=
  dialect.record "BrokerConfig" [
    Field.of "acceptors" true (dialect.sequence (AcceptorConfig.reader dialect)) fun value _ =>
      value] []

/-- Reads a configuration. -/
def ServerConfig.reader (dialect : Dialect ν φ) : Reads ν φ ServerConfig :=
  dialect.record "Config" [
    Field.of "bridge" false (Settings.reader dialect) fun value config =>
      { config with settings := value },
    Field.of "catalog" true (ServerConfig.directoryReader dialect) fun value config =>
      { config with directoryFile := value },
    Field.of "broker" true (ServerConfig.acceptorsReader dialect) fun value config =>
      { config with acceptors := value }]
    { directoryFile := "", acceptors := [] }

end Readers

/-- The configuration that a JSON5 text denotes. -/
def ServerConfig.ofJson5Text (text : String) : Except Json5.Failure ServerConfig :=
  Json5.read (ServerConfig.reader Json5.dialect) text.toList

end TopicRelay
