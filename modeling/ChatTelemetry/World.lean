import ChatTelemetry.Emission.Emitter
import ChatTelemetry.Environment
import ChatTelemetry.Storage.Filesystem
import ChatTelemetry.Suppression
/-!
The process that emitters run in: what they depend on, and a trace of what they have done.
-/

namespace ChatTelemetry

open Json (Value)
open Storage (Backend Cell Files Network Request UploadError)
open Telemetry (Attribute Event Usage)

inductive Effect
  | logged (e : Log.Event)
  | emitted (e : Event)
  | measured (usage : Usage) (attributes : List Attribute)
  /-- An upload was begun, `suppressed` or not. -/
  | uploadStarted (backend : Backend) (name : String) (value : Value) (suppressed : Bool)
  | requested (r : Request)
deriving Repr, Inhabited

namespace Effect

def log? : Effect → Option Log.Event
  | logged e => some e
  | _ => none

def event? : Effect → Option Event
  | emitted e => some e
  | _ => none

def measured? : Effect → Option (Usage × List Attribute)
  | measured usage attributes => some (usage, attributes)
  | _ => none

end Effect

/--
A backend that the embedding program provides. It may use emitters itself before it answers; its
calls run on the task of the upload, and what it does on tasks that it spawns is no part of it.
-/
structure CustomBackend where
  /-- The calls it makes to store a value under a name, suppressed or not. -/
  calls : String → Value → Bool → List Emission.Call
  /-- Its answer to storing a value under a name, suppressed or not. -/
  answer : String → Value → Bool → Except UploadError String

structure World where
  environment : Environment
  files : Files
  network : Network
  customs : Nat → CustomBackend
  cell : Cell
  suppression : Suppression
  trace : List Effect

namespace World

def record (w : World) (e : Effect) : World :=
  { w with trace := w.trace ++ [e] }

def log (w : World) (e : Log.Event) : World :=
  w.record (.logged e)

def logAll (w : World) (es : List Log.Event) : World :=
  es.foldl log w

def isSuppressed (w : World) : Bool :=
  w.suppression.isActive

def inTaskScope (w : World) (f : World → α × World) : α × World :=
  let (a, after) := f { w with suppression := { w.suppression with task := true } }
  (a, { after with suppression := { after.suppression with task := w.suppression.task } })

def inThreadScope (w : World) (f : World → α × World) : α × World :=
  let (a, after) := f { w with suppression := { w.suppression with thread := true } }
  (a, { after with suppression := { after.suppression with thread := w.suppression.thread } })

end World
end ChatTelemetry
