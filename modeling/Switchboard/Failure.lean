namespace Switchboard

inductive SettingsFault
  | buffer (text : String)
  | cleanup (text : String)
deriving DecidableEq

namespace SettingsFault

def variableName : SettingsFault → String
  | .buffer _ => "HUB_CONNECTION_BUFFER"
  | .cleanup _ => "HUB_GROUP_CLEANUP"

def value : SettingsFault → String
  | .buffer text => text
  | .cleanup text => text

def message (fault : SettingsFault) : String :=
  "Invalid value for " ++ fault.variableName ++ ": " ++ fault.value

end SettingsFault

inductive TracingFault
  | alreadyInstalled
deriving DecidableEq

def TracingFault.message : TracingFault → String
  | .alreadyInstalled => "Tracing subscriber already initialized"

/-- A failure of the program. The causes of an internal one are texts, the nearest first. -/
inductive Failure
  | settings (fault : SettingsFault)
  | tracing (fault : TracingFault)
  | internal (causes : List String)
deriving DecidableEq

namespace Failure

def code : Failure → String
  | .settings _ => "CONFIG_ERROR"
  | .tracing _ => "TELEMETRY_ERROR"
  | .internal _ => "INTERNAL_ERROR"

def message : Failure → String
  | .settings fault => "Configuration error: " ++ fault.message
  | .tracing fault => "Telemetry error: " ++ fault.message
  | .internal _ => "Internal error"

def causes : Failure → List String
  | .settings fault => [fault.message]
  | .tracing fault => [fault.message]
  | .internal causes => causes

def inContext (context : String) : Failure → Failure
  | .internal causes => .internal (context :: causes)
  | failure => failure

end Failure

end Switchboard
