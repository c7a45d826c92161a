import GameLobby.Binary64
import GameLobby.Text
import GameLobby.Timestamp
import GameLobby.Uuid

/-!
# Lobbies

A lobby gathers players before a game. Whoever creates it leads it, others join it by its join code,
and each time a user takes part is one membership, which ends but is never forgotten.
-/

namespace GameLobby

/-- The stages of a lobby. Only a waiting lobby can be joined. -/
inductive Status where
  | waiting
  | inGame
  | finished
  | closed
  deriving DecidableEq, Repr

namespace Status

/-- The stages in order. -/
def all : List Status := [waiting, inGame, finished, closed]

/-- The text by which a stage is stored and sent. -/
def label : Status → String
  | waiting => "waiting"
  | inGame => "in_game"
  | finished => "finished"
  | closed => "closed"

/-- The stage with a given label. -/
def ofLabel? (t : Text) : Option Status :=
  all.find? fun s => Text.ofString s.label = t

/-- Whether a lobby at this stage can be joined. -/
def isJoinable (s : Status) : Bool :=
  s = waiting

/-- A stage is known by its label. -/
theorem ofLabel?_label (s : Status) : ofLabel? (Text.ofString s.label) = some s := by
  cases s <;> decide +kernel

end Status

/-- The identity behind a request, which the gateway has checked. -/
structure Caller where
  userId : Uuid
  username : Text
  deriving DecidableEq, Repr

/-- The rules that lobby operations enforce. Without a timeout an operation may take forever. -/
structure Rules where
  maxPlayers : Int := 6
  maxRetries : Int := 5
  timeout : Option Binary64 := some (.ofInt 10)
  deriving DecidableEq, Repr

/-- A lobby. -/
structure Lobby where
  id : Uuid
  joinCode : Text
  leaderId : Uuid
  status : Status
  createdAt : Timestamp
  updatedAt : Timestamp
  deriving DecidableEq, Repr

/-- Whether a lobby takes new players. -/
def Lobby.isJoinable (l : Lobby) : Bool :=
  l.status.isJoinable

/-- One time that a user takes part in a lobby. -/
structure Membership where
  id : Uuid
  userId : Uuid
  displayName : Text
  joinedAt : Timestamp
  isActive : Bool
  leftAt : Option Timestamp
  deriving DecidableEq, Repr

/-- A lobby with its memberships, ended ones included, in the order in which they began. -/
structure LobbyDetail where
  lobby : Lobby
  players : List Membership
  deriving DecidableEq, Repr

/-- The memberships that have not ended. -/
def LobbyDetail.activePlayers (d : LobbyDetail) : List Membership :=
  d.players.filter (·.isActive)

end GameLobby
