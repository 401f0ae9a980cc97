import ChatTelemetry.Config.Settings
import ChatTelemetry.Environment
import ChatTelemetry.Log.Line
/-!
The log subscriber that a configuration asks for.
-/

namespace ChatTelemetry.Config

/-- The variable that goes before the configured filter. -/
def filterVariable : String := "RUST_LOG"

/--
The first filter that can be read: of the environment, of the configuration, which replaces the
default one, or the one down to information.
-/
def logFilter (env : Environment) (t : Option Telemetry) (defaultFilter : String) : Log.Filter :=
  let configured := (t.bind (·.logFilter)).getD defaultFilter
  ((env.get? filterVariable).bind Log.Filter.ofText?).getD
    ((Log.Filter.ofText? configured).getD .informative)

def subscriber (env : Environment) (t : Option Telemetry) (defaultFilter : String) :
    Log.Subscriber where
  filter := logFilter env t defaultFilter
  isJson := (t.map (·.jsonLogs)).getD false

end ChatTelemetry.Config
