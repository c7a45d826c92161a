import GameLobby.Json

/-!
# Log levels

An application sets the level of the root logger and of its own; three loggers of its environment
have fixed levels. A level is given by number or by a name in capitals. The console handler is added
once, however often the levels are set, and a level that does not exist changes nothing.
-/

namespace GameLobby

/-- A level: the least number of a record that is logged, or a flag that stands for zero or one and
is kept as it was given. -/
inductive Level where
  | number (n : Int)
  | flag (b : Bool)
  deriving DecidableEq, Repr

namespace Level

/-- The levels by name. -/
def named : List (String × Int) := [("CRITICAL", 50), ("FATAL", 50), ("ERROR", 40), ("WARN", 30),
  ("WARNING", 30), ("INFO", 20), ("DEBUG", 10), ("NOTSET", 0)]

/-- The level at which only warnings and worse are logged. -/
def warning : Level := number 30

/-- The level at which the course of events is logged. -/
def info : Level := number 20

/-- The level of a logger that leaves it to its parent. -/
def unset : Level := number 0

end Level

/-- The levels of the loggers, and the number of handlers of the root logger. -/
structure Logging where
  root : Level
  application : Level
  server : Level
  access : Level
  store : Level
  handlers : Nat
  deriving DecidableEq, Repr

namespace Logging

/-- Why a level is not accepted. -/
inductive LevelFault where
  | unknown (name : Text)
  | noLevel (v : Json)

/-- The message about a level that is not accepted. -/
def LevelFault.message : LevelFault → String
  | unknown name => "Unknown level: " ++ name.quoted
  | noLevel v => "Level not an integer or a valid string: " ++ v.echo

/-- The level that a value gives by number or by name. -/
def level : Json → Except LevelFault Level
  | .int n => .ok (.number n)
  | .bool b => .ok (.flag b)
  | .str name =>
    match Level.named.find? fun l => Text.ofString l.1 = name with
    | some (_, n) => .ok (.number n)
    | none => .error (.unknown name)
  | v => .error (.noLevel v)

/-- The loggers before anything is set. -/
def initial : Logging := ⟨.warning, .unset, .unset, .unset, .unset, 0⟩

/-- The loggers once the level is set. -/
def setLevel (l : Logging) (v : Json) : Except LevelFault Logging :=
  (level v).map fun n => ⟨n, n, .info, .warning, .warning, max l.handlers 1⟩

/-- A line of the log behind its time. -/
def line (logger levelName message : String) : String :=
  " - " ++ logger ++ " - " ++ levelName ++ " - " ++ message

end Logging

end GameLobby
