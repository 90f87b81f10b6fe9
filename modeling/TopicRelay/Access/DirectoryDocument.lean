import TopicRelay.Access.Directory
import TopicRelay.Json.Dialect

/-!
# Directories as documents

The names under which the content of a directory is written down, and how a directory is set
up from a text or from the bytes of a file.
-/

namespace TopicRelay

set_option autoImplicit false

variable {ν φ : Type}

/-- Reads a row of the queue catalog. -/
def QueueRow.reader (dialect : Dialect ν φ) : Reads ν φ QueueRow :=
  dialect.record "QueueRow" [
    Field.of "owner" true dialect.text fun value row => { row with owner := value },
    Field.of "name" true dialect.text fun value row => { row with name := value },
    Field.of "queue_type" true dialect.text fun value row => { row with kind := value }]
    ⟨"", "", ""⟩

/-- Reads a principal with its password. -/
def PrincipalRow.reader (dialect : Dialect ν φ) : Reads ν φ PrincipalRow :=
  dialect.record "PrincipalRow" [
    Field.of "name" true dialect.text fun value row => { row with name := value },
    Field.of "secret" true dialect.text fun value row => { row with password := value },
    Field.of "roles" false (dialect.sequence dialect.text) fun value row =>
      { row with roles := value }]
    ⟨"", "", []⟩

/-- Reads what a directory is set up from. -/
def DirectoryDocument.reader (dialect : Dialect ν φ) : Reads ν φ DirectoryDocument :=
  dialect.record "CatalogDocument" [
    Field.of "service_principal" false (dialect.optional dialect.text) fun value document =>
      { document with servicePrincipal := value },
    Field.of "queues" false (dialect.sequence (QueueRow.reader dialect)) fun value document =>
      { document with queues := value },
    Field.of "principals" false (dialect.sequence (PrincipalRow.reader dialect))
      fun value document => { document with principals := value }]
    {}

/-! ## Setting up directories -/

/-- Why a directory cannot be set up. -/
inductive DirectoryFailure where
  | noFile
  /-- The bytes of the file are not text. -/
  | notText
  | mismatch (mismatch : Mismatch Flaw)
  deriving DecidableEq, Repr

/-- What is reported about the failure. -/
def DirectoryFailure.message : DirectoryFailure → String
  | .noFile => "static catalog file not found"
  | .notText => "unable to read static catalog file"
  | .mismatch _ => "unable to parse catalog JSON"

/-- What the files themselves say about the failure, if they are at fault. -/
def DirectoryFailure.fileMessage? : DirectoryFailure → Option String
  | .noFile => some "No such file or directory (os error 2)"
  | .notText => some "stream did not contain valid UTF-8"
  | .mismatch _ => none

namespace Directory

/-- The directory that a JSON text denotes. -/
def ofJsonText (text : String) : Except DirectoryFailure Directory :=
  match Json.read (DirectoryDocument.reader Json.dialect) text.toList with
  | .ok document => .ok { document := document }
  | .error mismatch => .error (.mismatch mismatch)

/-- The directory that a JSON value denotes. -/
def ofJson (value : Json) : Except DirectoryFailure Directory :=
  match DirectoryDocument.reader Json.dialect (Outline.ofJson value) with
  | .ok document => .ok { document := document }
  | .error mismatch => .error (.mismatch mismatch)

/-- The directory in a file, given the bytes of the file if there is one. -/
def ofFile (bytes : Option ByteArray) : Except DirectoryFailure Directory :=
  match bytes with
  | none => .error .noFile
  | some bytes =>
    match String.fromUTF8? bytes with
    | some text => ofJsonText text
    | none => .error .notText

end Directory

end TopicRelay
