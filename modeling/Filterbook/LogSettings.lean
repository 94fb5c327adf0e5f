import Filterbook.Text.Case

/-!
# Settings of the log

Whether events are logged, from which level on and in which form, as three variables say. Words that
mean nothing count as missing, whatever the case of their letters.
-/

namespace Filterbook

open Filterbook.Text

/-- How much an event matters. -/
inductive LogLevel where
  /-- Every detail. -/
  | trace
  /-- For finding faults. -/
  | debug
  /-- Worth knowing. -/
  | info
  /-- Suspicious. -/
  | warn
  /-- Wrong. -/
  | error
  deriving DecidableEq, Repr

/-- How events are written. -/
inductive LogFormat where
  /-- One Json object for each event. -/
  | json
  /-- Several lines for a reader. -/
  | pretty
  /-- One line for a reader. -/
  | compact
  deriving DecidableEq, Repr

/-- Settings of the log. -/
structure LogSettings where
  /-- Whether faults are being looked for. -/
  debug : Bool
  /-- The least level that is logged. -/
  level : LogLevel
  /-- The form of events. -/
  format : LogFormat
  /-- Whether a log is asked for at all. -/
  requested : Bool
  deriving DecidableEq, Repr

namespace LogLevel

/-- The word for a level. -/
def word : LogLevel → String
  | trace => "trace"
  | debug => "debug"
  | info => "info"
  | warn => "warn"
  | error => "error"

/-- The level that a word means. -/
def read? (s : String) : Option LogLevel := [trace, debug, info, warn, error].find? (·.word == lower s)

end LogLevel

namespace LogFormat

/-- The word for a form. -/
def word : LogFormat → String
  | json => "json"
  | pretty => "pretty"
  | compact => "compact"

/-- The form that a word means, if it means one. -/
def read? (s : String) : Option LogFormat := [json, pretty, compact].find? (·.word == lower s)

end LogFormat

/-- A word for yes. -/
def isAffirmative (s : String) : Bool := ["true", "1", "yes"].contains (lower s)

/-- The settings that variables give. -/
def LogSettings.ofVariables (valueOf? : String → Option String) : LogSettings :=
  let debug := (valueOf? "SIEVE_DEBUG").any isAffirmative
  let level? := valueOf? "SIEVE_LOG_LEVEL"
  { debug := debug
    level := (level?.bind LogLevel.read?).getD (if debug then .debug else .warn)
    format := ((valueOf? "SIEVE_LOG_FORMAT").bind LogFormat.read?).getD .json
    requested := debug || level?.isSome }

end Filterbook
