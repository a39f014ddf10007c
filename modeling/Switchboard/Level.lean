namespace Switchboard

inductive Level
  | error
  | warn
  | info
  | debug
  | trace
deriving DecidableEq

namespace Level

def rank : Level → Nat
  | .error => 1
  | .warn => 2
  | .info => 3
  | .debug => 4
  | .trace => 5

def name : Level → String
  | .error => "ERROR"
  | .warn => "WARN"
  | .info => "INFO"
  | .debug => "DEBUG"
  | .trace => "TRACE"

def title : Level → String
  | .error => "Error"
  | .warn => "Warn"
  | .info => "Info"
  | .debug => "Debug"
  | .trace => "Trace"

def all : List Level :=
  [.error, .warn, .info, .debug, .trace]

end Level

/-- The least severe level that is let through; none when nothing is. -/
abbrev Ceiling := Option Level

namespace Ceiling

def rank : Ceiling → Nat
  | none => 0
  | some level => level.rank

def admits (ceiling : Ceiling) (level : Level) : Bool :=
  level.rank ≤ ceiling.rank

end Ceiling

end Switchboard
