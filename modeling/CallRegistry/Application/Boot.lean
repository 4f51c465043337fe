import CallRegistry.Application.Basic

/-!
# Booting the application

When the program is loaded, logging is set up first, and the application is
created after that.  The level of the log is set by its name in letters of any
case; some levels have two names.  When the program is run and not only loaded,
the application is then served.
-/

namespace CallRegistry

/-- The levels from which on entries are shown. -/
inductive Threshold where
  | notSet
  | debug
  | info
  | warning
  | error
  | critical
  deriving DecidableEq, Repr

namespace Threshold

def name : Threshold → String
  | notSet => "NOTSET"
  | debug => "DEBUG"
  | info => "INFO"
  | warning => "WARNING"
  | error => "ERROR"
  | critical => "CRITICAL"

def all : List Threshold :=
  [notSet, debug, info, warning, error, critical]

def aliases : List (String × Threshold) :=
  [("WARN", warning), ("FATAL", critical)]

/-- The level that goes by a name in capital letters. -/
def named? (s : String) : Option Threshold :=
  match aliases.lookup s with
  | some level => some level
  | none => all.find? (·.name == s)

end Threshold

structure Serving where
  target : String := "src.main:app"
  host : String := "0.0.0.0"
  port : Nat := 8000
  /-- Whether the server starts anew when a file of the program changes. -/
  reload : Bool := true
  logLevel : String
  deriving DecidableEq, Repr

inductive BootFault where
  | level (name : String)
  | creation (fault : CreationFault)
  deriving DecidableEq, Repr

def BootFault.message : BootFault → String
  | .level name => "Unknown level: " ++ Text.quoted name
  | .creation fault => fault.message

/-- The program once it is loaded. -/
structure Boot where
  description : Description
  threshold : Threshold
  /-- How many outlets the log has. -/
  outlets : Nat
  serving : Option Serving
  deriving DecidableEq, Repr

namespace Settings

/-- Loads the program, and serves the application if it is run. -/
def boot (s : Settings) (run : Bool) : Except BootFault Boot :=
  let name := Text.upper s.logLevel
  match Threshold.named? name with
  | none => .error (.level name)
  | some threshold =>
    match Description.ofSettings s with
    | .error fault => .error (.creation fault)
    | .ok description =>
      .ok
        { description
          threshold
          outlets := 1
          serving :=
            if run then some { logLevel := Text.lower s.logLevel } else none }

end Settings

end CallRegistry
