import GameLobby.Failure

/-!
# Tables

The store keeps three tables, each as the list of its rows in the order in which they were entered.
A lobby's stage is stored as a text, since other services write it too, so it can be a text that
names no stage. The functions here read the tables and change them; they leave it to their callers
to check what a table's rules ask for.
-/

namespace GameLobby

/-- A user, entered at the first contact with a lobby. -/
structure UserRow where
  id : Uuid
  username : Text
  createdAt : Timestamp
  deriving DecidableEq, Repr

/-- A lobby as it is stored. -/
structure LobbyRow where
  id : Uuid
  joinCode : Text
  leaderId : Uuid
  status : Text
  createdAt : Timestamp
  updatedAt : Timestamp
  deriving DecidableEq, Repr

/-- A membership as it is stored. -/
structure MemberRow where
  id : Uuid
  lobbyId : Uuid
  userId : Uuid
  joinedAt : Timestamp
  isActive : Bool
  leftAt : Option Timestamp
  deriving DecidableEq, Repr

/-- The tables. -/
structure Tables where
  users : List UserRow
  lobbies : List LobbyRow
  members : List MemberRow
  deriving DecidableEq, Repr

/-- The lobby that a row stands for, if its stage exists. -/
def LobbyRow.lobby? (r : LobbyRow) : Except Failure Lobby :=
  match Status.ofLabel? r.status with
  | some status => .ok ⟨r.id, r.joinCode, r.leaderId, status, r.createdAt, r.updatedAt⟩
  | none => .error (.unknownStatus r.status)

/-- The membership that a row stands for, with the name of its user. -/
def MemberRow.membership (r : MemberRow) (name : Text) : Membership :=
  ⟨r.id, r.userId, name, r.joinedAt, r.isActive, r.leftAt⟩

/-- Memberships stand in the order in which they began, and then by identifier. -/
def MemberRow.precedes (a b : MemberRow) : Bool :=
  a.joinedAt.wall < b.joinedAt.wall ||
    (a.joinedAt.wall == b.joinedAt.wall && a.id.number ≤ b.id.number)

namespace Tables

/-- Tables without rows. -/
def empty : Tables := ⟨[], [], []⟩

/-! ## Reading -/

/-- The user with an identifier. -/
def user? (t : Tables) (id : Uuid) : Option UserRow :=
  t.users.find? (·.id = id)

/-- The lobby with an identifier. -/
def lobby? (t : Tables) (id : Uuid) : Option LobbyRow :=
  t.lobbies.find? (·.id = id)

/-- The lobby with a join code. -/
def lobbyByCode? (t : Tables) (code : Text) : Option LobbyRow :=
  t.lobbies.find? (·.joinCode = code)

/-- The memberships of a lobby, ended ones included. -/
def membersOf (t : Tables) (lobby : Uuid) : List MemberRow :=
  t.members.filter (·.lobbyId = lobby)

/-- The number of active memberships of a lobby. -/
def activeCount (t : Tables) (lobby : Uuid) : Nat :=
  t.members.countP fun m => m.lobbyId = lobby ∧ m.isActive

/-- Whether a user has an active membership in a lobby. -/
def isActiveMember (t : Tables) (lobby user : Uuid) : Bool :=
  t.members.any fun m => m.lobbyId = lobby ∧ m.userId = user ∧ m.isActive

/-- Whether a user has or had a membership in a lobby. -/
def hasMembership (t : Tables) (lobby user : Uuid) : Bool :=
  t.members.any fun m => m.lobbyId = lobby ∧ m.userId = user

/-- Whether a membership is an active one in a lobby. -/
def isActiveMembership (t : Tables) (lobby membership : Uuid) : Bool :=
  t.members.any fun m => m.id = membership ∧ m.lobbyId = lobby ∧ m.isActive

/-- The memberships of a lobby in their order, each with the name of its user. A membership whose
user is not in the table does not appear. -/
def playersOf (t : Tables) (lobby : Uuid) : List Membership :=
  ((t.membersOf lobby).mergeSort MemberRow.precedes).filterMap fun m =>
    (t.user? m.userId).map fun u => m.membership u.username

/-- A lobby with its memberships. -/
def detail? (t : Tables) (id : Uuid) : Except Failure (Option LobbyDetail) :=
  match t.lobby? id with
  | none => .ok none
  | some row => row.lobby?.map fun lobby => some ⟨lobby, t.playersOf id⟩

/-! ## Writing -/

/-- The tables with a user, unless the identifier is known. -/
def putUser (t : Tables) (row : UserRow) : Tables :=
  if (t.user? row.id).isSome then t else { t with users := t.users ++ [row] }

/-- The tables with one more lobby. -/
def addLobby (t : Tables) (row : LobbyRow) : Tables :=
  { t with lobbies := t.lobbies ++ [row] }

/-- The tables with one more membership. -/
def addMember (t : Tables) (row : MemberRow) : Tables :=
  { t with members := t.members ++ [row] }

/-- The tables with a change to the memberships of a class. -/
def updateMembers (t : Tables) (p : MemberRow → Bool) (f : MemberRow → MemberRow) : Tables :=
  { t with members := t.members.map fun m => if p m then f m else m }

/-- The tables with another text for the stage of a lobby. -/
def setStatus (t : Tables) (lobby : Uuid) (status : Text) : Tables :=
  { t with lobbies := t.lobbies.map fun l => if l.id = lobby then { l with status } else l }

end Tables

/-- A membership that ends at a given time. -/
def MemberRow.ended (at_ : Timestamp) (m : MemberRow) : MemberRow :=
  { m with isActive := false, leftAt := some at_ }

/-- A membership that has not ended. -/
def MemberRow.reopened (m : MemberRow) : MemberRow :=
  { m with isActive := true, leftAt := none }

end GameLobby
