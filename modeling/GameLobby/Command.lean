import GameLobby.Lobby

/-!
# Commands

A command asks for one of the five lobby operations and carries its arguments. What comes of it is
the detail of a lobby, or nothing but the change that it makes. A request over HTTP that passes all
checks ends in a command, and so does a step in the history of a service.
-/

namespace GameLobby

/-- A lobby operation with its arguments. -/
inductive Command where
  | create (caller : Caller)
  | join (caller : Caller) (typed : Text)
  | read (caller : Caller) (lobby : Uuid)
  | kick (caller : Caller) (lobby target : Uuid)
  | setActive (lobby membership : Uuid) (active : Bool)
  deriving DecidableEq, Repr

/-- The lobby operations by name. -/
inductive OperationName where
  | create
  | join
  | read
  | kick
  | setActive
  deriving DecidableEq, Repr

/-- The operation that a command asks for. -/
def Command.operation : Command → OperationName
  | create .. => .create
  | join .. => .join
  | read .. => .read
  | kick .. => .kick
  | setActive .. => .setActive

/-- What a command answers. -/
inductive Result where
  | detail (d : LobbyDetail)
  | done
  deriving DecidableEq, Repr

end GameLobby
