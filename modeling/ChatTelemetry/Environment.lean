/-!
The environment of a process: texts by name.
-/

namespace ChatTelemetry

abbrev Environment := List (String × String)

namespace Environment

def get? (env : Environment) (name : String) : Option String :=
  env.lookup name

def unset (env : Environment) (name : String) : Environment :=
  env.filter (·.1 ≠ name)

def set (env : Environment) (name value : String) : Environment :=
  (name, value) :: unset env name

end Environment
end ChatTelemetry
