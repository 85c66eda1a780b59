/-!
# Log records

Operations that report progress return log records beside their result: a level, the area of
the program that wrote it, and the message. A record is shown as `[LEVEL area] message`, the
level padded to five characters.
-/

namespace BuildSpec

/-- How important a log record is, from the most to the least. -/
inductive Log.Level where
  | error | warn | info | debug | trace
  deriving DecidableEq, Repr, Ord

namespace Log.Level

/-- The rank of a level: a lower rank is more important. -/
def rank : Log.Level → Nat
  | .error => 1 | .warn => 2 | .info => 3 | .debug => 4 | .trace => 5

/-- The name of a level, in capitals. -/
def name : Log.Level → String
  | .error => "ERROR" | .warn => "WARN" | .info => "INFO" | .debug => "DEBUG" | .trace => "TRACE"

end Log.Level

/-- One log record. -/
structure Log.Entry where
  level : Log.Level
  area : String
  message : String
  deriving DecidableEq, Repr

/-- The line of a record: `[LEVEL area] message`. -/
def Log.Entry.line (e : Log.Entry) : String :=
  let n := e.level.name
  "[" ++ n ++ String.ofList (List.replicate (5 - n.length) ' ') ++ " " ++ e.area ++ "] " ++ e.message

/-- The area of catalog loading. -/
def Log.catalogArea : String := "concretizer::catalog"

/-- The area of expansion. -/
def Log.expansionArea : String := "concretizer::concretizer::expansion"

/-- The area of selection. -/
def Log.selectionArea : String := "concretizer::concretizer::selection"

/-- The area of the command line. -/
def Log.commandArea : String := "concretizer_terminal"

end BuildSpec
