/-!
The levels of events, and how verbose a log is.
-/

set_option autoImplicit false
set_option relaxedAutoImplicit false

namespace CephExport

inductive Level
  | trace
  | debug
  | info
  | warn
  | error
  deriving DecidableEq

namespace Level

def name : Level → String
  | trace => "TRACE"
  | debug => "DEBUG"
  | info => "INFO"
  | warn => "WARN"
  | error => "ERROR"

def rank : Level → Nat
  | error => 1
  | warn => 2
  | info => 3
  | debug => 4
  | trace => 5

end Level

/-- How verbose a log is: silent, or down to the events of a level. -/
inductive Verbosity
  | off
  | upTo (level : Level)
  deriving DecidableEq

namespace Verbosity

def name : Verbosity → String
  | off => "off"
  | upTo .error => "error"
  | upTo .warn => "warn"
  | upTo .info => "info"
  | upTo .debug => "debug"
  | upTo .trace => "trace"

def all : List Verbosity := [off, upTo .error, upTo .warn, upTo .info, upTo .debug, upTo .trace]

def shows (verbosity : Verbosity) (level : Level) : Bool :=
  match verbosity with
  | off => false
  | upTo most => level.rank ≤ most.rank

end Verbosity

end CephExport
