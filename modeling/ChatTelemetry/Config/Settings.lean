import ChatTelemetry.Emission.Emitter
import ChatTelemetry.Toml.Value
/-!
Settings, and how they are read from a document.

A group of settings is a table or an array of its values in order. Tables have no other keys; arrays
may go on.
-/

namespace ChatTelemetry.Config

open Chat (CandidateMapping)
open Emission (CaptureSettings Mode)

structure StorageService where
  endpoint : Option Url := none
  accessToken : Option String := none
deriving DecidableEq, Repr, Inhabited

structure Upload where
  basePath : Option String := none
  gcs : Option StorageService := none
deriving DecidableEq, Repr, Inhabited

structure Telemetry where
  scopeName : String
  logFilter : Option String := none
  jsonLogs : Bool := false
deriving DecidableEq, Repr, Inhabited

structure Settings where
  capture : CaptureSettings := {}
  upload : Upload := {}
  telemetry : Option Telemetry := none
deriving DecidableEq, Repr, Inhabited

/-- The name of the instrumentation scope unless another one is set. -/
def defaultScopeName : String := "promptwire"

def Settings.scope (s : Settings) : String × String :=
  ((s.telemetry.map (·.scopeName)).getD defaultScopeName, "0.1.0")

/-! ### Reading -/

/-- The values of a group of settings in the order of their names; none if it is no such group. -/
def group? (names : List String) : Toml.Value → Option (List (Option Toml.Value))
  | .table fields =>
    if fields.all fun (key, _) => names.contains key then
      some (names.map fun name => fields.lookup name)
    else none
  | .array items => some ((List.range names.length).map fun i => items[i]?)
  | _ => none

def string? : Toml.Value → Option String
  | .string s => some s
  | _ => none

def boolean? : Toml.Value → Option Bool
  | .boolean b => some b
  | _ => none

def url? (v : Toml.Value) : Option Url := do
  (Url.parse (← string? v)).toOption

/-- The name of one of several choices, alone or as the only key of a table, with nothing in it. -/
def choiceName? : Toml.Value → Option String
  | .string s => some s
  | .table [(name, .table [])] => some name
  | .table [(name, .array [])] => some name
  | _ => none

def mode? (v : Toml.Value) : Option Mode := do
  match ← choiceName? v with
  | "inline" => some .inlined
  | "reference" => some .reference
  | _ => none

def candidateMapping? (v : Toml.Value) : Option CandidateMapping := do
  match ← choiceName? v with
  | "skip_empty" => some .skipEmpty
  | "keep_empty" => some .keepEmpty
  | _ => none

def orDefault (default : α) (read : Toml.Value → Option α) : Option Toml.Value → Option α
  | none => some default
  | some v => read v

def ifGiven (read : Toml.Value → Option α) : Option Toml.Value → Option (Option α)
  | none => some none
  | some v => (read v).map some

def capture? (v : Toml.Value) : Option CaptureSettings := do
  match ← group? ["message_content", "mode", "candidate_mapping"] v with
  | [messageContent, mode, candidateMapping] => do
    return {
      messageContent := ← orDefault false boolean? messageContent
      mode := ← orDefault .inlined mode? mode
      candidateMapping := ← orDefault .keepEmpty candidateMapping? candidateMapping }
  | _ => none

def storageService? (v : Toml.Value) : Option StorageService := do
  match ← group? ["endpoint", "access_token"] v with
  | [endpoint, accessToken] => do
    return { endpoint := ← ifGiven url? endpoint, accessToken := ← ifGiven string? accessToken }
  | _ => none

def upload? (v : Toml.Value) : Option Upload := do
  match ← group? ["base_path", "gcs"] v with
  | [basePath, gcs] => do
    return { basePath := ← ifGiven string? basePath, gcs := ← ifGiven storageService? gcs }
  | _ => none

def telemetry? (v : Toml.Value) : Option Telemetry := do
  match ← group? ["scope_name", "log_filter", "json_logs"] v with
  | [scopeName, logFilter, jsonLogs] => do
    return {
      scopeName := ← orDefault defaultScopeName string? scopeName
      logFilter := ← ifGiven string? logFilter
      jsonLogs := ← orDefault false boolean? jsonLogs }
  | _ => none

def settings? (v : Toml.Value) : Option Settings := do
  match ← group? ["capture", "upload", "telemetry"] v with
  | [capture, upload, telemetry] => do
    return {
      capture := ← orDefault {} capture? capture
      upload := ← orDefault {} upload? upload
      telemetry := ← ifGiven telemetry? telemetry }
  | _ => none

end ChatTelemetry.Config
