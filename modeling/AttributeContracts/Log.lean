/-
# Log lines

A logger is a threshold: it drops what is below its level. A line has a sink,
named after the severity, and a text made of a fixed head, the severity, the
message and the JSON text of the context. Only a context without any members is
left out.
-/

import AttributeContracts.Constraint.Json

namespace AttributeContracts

/-- The severity of a line. -/
inductive Severity where
  | debug
  | info
  | warn
  | error
deriving DecidableEq, Repr

/-- The least severity that a logger lets through. -/
inductive LogLevel where
  | atLeast (severity : Severity)
  | silent
deriving DecidableEq, Repr

/-- A severity as the name of its sink. -/
def Severity.text : Severity → String
  | .debug => "debug"
  | .info => "info"
  | .warn => "warn"
  | .error => "error"

/-- A severity as it heads a line. -/
def Severity.heading : Severity → String
  | .debug => "DEBUG"
  | .info => "INFO"
  | .warn => "WARN"
  | .error => "ERROR"

def Severity.rank : Severity → Nat
  | .debug => 0
  | .info => 1
  | .warn => 2
  | .error => 3

namespace LogLevel

def text : LogLevel → String
  | .atLeast severity => severity.text
  | .silent => "silent"

/-- The levels in ascending order. -/
def all : List LogLevel :=
  [.atLeast .debug, .atLeast .info, .atLeast .warn, .atLeast .error, .silent]

/-- The level of a name. -/
def ofText? (name : String) : Option LogLevel :=
  all.find? fun level => level.text = name

/-- The level of a logger made without one. -/
def standard : LogLevel := .atLeast .info

/-- Whether a logger of this level lets a line through. -/
def enabled (level : LogLevel) (severity : Severity) : Bool :=
  match level with
  | .atLeast least => least.rank ≤ severity.rank
  | .silent => false

end LogLevel

/-- One printed line and where it went. -/
structure LogLine where
  sink : Severity
  text : String
deriving DecidableEq, Repr

namespace LogLine

/-- What every line starts with. -/
def head : String := "[constraint-metadata]"

/-- The line of a message with a context, whose JSON text may not exist. -/
def write (severity : Severity) (message : String) (context : Members Value) :
    Except Failure LogLine := do
  let line := head ++ " " ++ severity.heading ++ " " ++ message
  if context.isEmpty then pure ⟨severity, line⟩
  else
    let body ← (Value.record (.named "context") false context).json false
    pure ⟨severity, line ++ " " ++ body.getD "undefined"⟩

end LogLine

end AttributeContracts
