import Switchboard.Level
import Switchboard.Settings.Choices
import Switchboard.Text.Diagnostic

namespace Switchboard.Tracing

open Switchboard.Text

/-- Which events are written unless a filter says otherwise, and what a line tells. -/
structure Options where
  level : Level
  json : Bool
  spanEvents : Bool
  fileLine : Bool
  threadNames : Bool
  threadIds : Bool
deriving DecidableEq

namespace Options

def initial : Options :=
  ⟨.info, false, false, true, false, false⟩

def development : Options :=
  ⟨.debug, false, true, true, true, false⟩

def production : Options :=
  ⟨.info, true, false, false, false, false⟩

def ofEnvironment : Environment → Options
  | .development => development
  | .staging => initial
  | .production => production

def flagText (b : Bool) : String :=
  if b then "true" else "false"

def outline (options : Options) : Outline :=
  .record "TracingConfig"
    [("level", .leaf ("Level(" ++ options.level.title ++ ")")),
      ("json", .leaf (flagText options.json)),
      ("span_events", .leaf (flagText options.spanEvents)),
      ("file_line", .leaf (flagText options.fileLine)),
      ("thread_names", .leaf (flagText options.threadNames)),
      ("thread_ids", .leaf (flagText options.threadIds))]

end Options

end Switchboard.Tracing
