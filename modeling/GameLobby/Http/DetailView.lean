import GameLobby.Json.Printer
import GameLobby.Lobby

/-!
# Lobbies as clients see them

The view of a lobby names its fields in the manner of clients and keeps the order of its players. It
leaves out when the lobby was created and changed.
-/

namespace GameLobby.Http

/-- A timestamp as clients see it. -/
def viewTimestamp (t : Timestamp) : Json :=
  .str (t.responseChars.map .scalar)

/-- An identifier as clients see it. -/
def viewUuid (u : Uuid) : Json :=
  .str (u.chars.map .scalar)

/-- A membership as clients see it. -/
def viewPlayer (m : Membership) : Json :=
  .obj [("membershipId", viewUuid m.id), ("userId", viewUuid m.userId),
    ("displayName", .str m.displayName), ("joinedAt", viewTimestamp m.joinedAt),
    ("isActive", .bool m.isActive), ("leftAt", (m.leftAt.map viewTimestamp).getD .null)]

/-- A lobby as clients see it. -/
def view (d : LobbyDetail) : Json :=
  .obj [("lobbyId", viewUuid d.lobby.id), ("joinCode", .str d.lobby.joinCode),
    ("leaderId", viewUuid d.lobby.leaderId), ("status", .str d.lobby.status.label),
    ("players", .arr (d.players.map viewPlayer))]

/-- The text of the view of a lobby. -/
def viewText (d : LobbyDetail) : Text :=
  (view d).write .plain

end GameLobby.Http
