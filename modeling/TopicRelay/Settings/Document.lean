import TopicRelay.Json.Dialect
import TopicRelay.Settings

/-!
# Settings as a document

The names under which settings are written down.  Whatever a document leaves out keeps its
default.  `Settings.toJson` writes all of them, and `Settings.reader` reads them from an
outline of any dialect.
-/

namespace TopicRelay

set_option autoImplicit false

namespace Settings

/-- The settings as a JSON value. -/
def toJson (settings : Settings) : Json :=
  Json.record [
    ("app_prefix", .text settings.appPrefix),
    ("application_title", .text settings.applicationTitle),
    ("queue_owner", .text settings.queueOwner),
    ("queue_kind", .text settings.queueKind),
    ("consume_role", .text settings.consumeRole),
    ("client_host", .text settings.clientHost),
    ("service_key_validity_months", Json.integer settings.keyValidityMonths.toNat)]

variable {ν φ : Type}

/-- A setting that is a text. -/
def textField (dialect : Dialect ν φ) (name : String) (set : String → Settings → Settings) :
    Field ν φ Settings :=
  Field.of name false dialect.text set

/-- The settings in the order of their declaration. -/
def fields (dialect : Dialect ν φ) : List (Field ν φ Settings) := [
  textField dialect "app_prefix" fun value settings => { settings with appPrefix := value },
  textField dialect "application_title" fun value settings =>
    { settings with applicationTitle := value },
  textField dialect "queue_owner" fun value settings => { settings with queueOwner := value },
  textField dialect "queue_kind" fun value settings => { settings with queueKind := value },
  textField dialect "consume_role" fun value settings => { settings with consumeRole := value },
  textField dialect "client_host" fun value settings => { settings with clientHost := value },
  Field.of "service_key_validity_months" false (dialect.count 32) fun value settings =>
    { settings with keyValidityMonths := UInt32.ofNat value }]

/-- Reads settings. -/
def reader (dialect : Dialect ν φ) : Reads ν φ Settings :=
  dialect.record "BridgeSettings" (fields dialect) {}

/-- The settings that a JSON text denotes. -/
def ofJsonText (text : String) : Except (Mismatch Flaw) Settings :=
  Json.read (reader Json.dialect) text.toList

/-- The settings that a JSON value denotes. -/
def ofJson (value : Json) : Except (Mismatch Flaw) Settings :=
  reader Json.dialect (Outline.ofJson value)

end Settings

end TopicRelay
