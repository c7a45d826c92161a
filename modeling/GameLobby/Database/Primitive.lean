import GameLobby.Database
import GameLobby.Supply
import GameLobby.Transaction

/-!
# Answering questions from tables

A world is the tables together with the supplies. Each question of a transaction is answered by one
primitive, a function on worlds. A primitive that writes draws what it needs from the supplies first
and may fail after that; a primitive that fails leaves the tables as they were.
-/

namespace GameLobby

/-- The tables and the supplies. -/
structure World where
  tables : Tables
  supply : Supply
  deriving DecidableEq, Repr

/-- The failure of storing or comparing a text with surrogates. -/
def encodable (t : Text) : Except Failure Unit :=
  match t.firstSurrogates? with
  | none => .ok ()
  | some (first, last, point) => .error (.unencodable first last point)

namespace World

/-- A clock reading. -/
def reading (w : World) : Timestamp × World :=
  let (t, supply) := w.supply.reading
  (t, { w with supply })

/-- A fresh identifier. -/
def freshId (w : World) : Uuid × World :=
  let (id, supply) := w.supply.freshId
  (id, { w with supply })

/-- The world with other tables. -/
def withTables (w : World) (tables : Tables) : World :=
  { w with tables }

/-- The world once the clock has moved by a number of microseconds. -/
def advance (w : World) (micros : Int) : World :=
  { w with supply := w.supply.advance micros }

/-- Enter a user, unless the identifier is known. -/
def upsertUser (user : Uuid) (name : Text) (w : World) : Except Failure Unit × World :=
  let (now, w) := w.reading
  match encodable name with
  | .error f => (.error f, w)
  | .ok () => (.ok (), w.withTables (w.tables.putUser ⟨user, name, now⟩))

/-- The refusal of a lobby with a join code that is in use or missing. -/
def duplicateCode : Refusal :=
  { RefusalClass.duplicateJoinCode.refusal with cause := some .constraint }

/-- Enter a waiting lobby. A join code that is in use shows before an identifier that is. -/
def createLobby (code : Text) (leader : Uuid) (w : World) : Except Failure Lobby × World :=
  let (now, w) := w.reading
  let (id, w) := w.freshId
  match encodable code with
  | .error f => (.error f, w)
  | .ok () =>
    if (w.tables.lobbyByCode? code).isSome then (.error (.refused duplicateCode), w)
    else if (w.tables.lobby? id).isSome then (.error (.broken (.unique .lobbies "id")), w)
    else
      (.ok ⟨id, code, leader, .waiting, now, now⟩,
        w.withTables (w.tables.addLobby ⟨id, code, leader, Status.waiting.label, now, now⟩))

/-- Enter an active membership, and say when it began. -/
def addMember (lobby user : Uuid) (w : World) : Except Failure (Uuid × Timestamp) × World :=
  let (id, w) := w.freshId
  let (now, w) := w.reading
  if w.tables.members.any (·.id = id) then (.error (.broken (.unique .members "id")), w)
  else (.ok (id, now), w.withTables (w.tables.addMember ⟨id, lobby, user, now, true, none⟩))

/-- The lobby with a join code. -/
def lobbyByCode (code : Text) (w : World) : Except Failure (Option Lobby) :=
  match encodable code with
  | .error f => .error f
  | .ok () =>
    match w.tables.lobbyByCode? code with
    | none => .ok none
    | some row => row.lobby?.map some

/-- Whether a lobby has this join code. -/
def codeExists (code : Text) (w : World) : Except Failure Bool :=
  (encodable code).map fun () => (w.tables.lobbyByCode? code).isSome

/-- End the active memberships of a user in a lobby, and say how many there were. -/
def deactivateMember (lobby user : Uuid) (w : World) : Nat × World :=
  let (now, w) := w.reading
  let p (m : MemberRow) : Bool := m.lobbyId = lobby ∧ m.userId = user ∧ m.isActive
  (w.tables.members.countP p, w.withTables (w.tables.updateMembers p (.ended now)))

/-- End or reopen a membership in a lobby, and say whether there is one. Only an end takes a clock
reading. -/
def setMemberActive (lobby membership : Uuid) (active : Bool) (w : World) : Bool × World :=
  let p (m : MemberRow) : Bool := m.id = membership ∧ m.lobbyId = lobby
  if active then (w.tables.members.any p, w.withTables (w.tables.updateMembers p .reopened))
  else
    let (now, w) := w.reading
    (w.tables.members.any p, w.withTables (w.tables.updateMembers p (.ended now)))

/-- The leader of a lobby. -/
def leader (lobby : Uuid) (w : World) : Option Uuid :=
  (w.tables.lobby? lobby).map (·.leaderId)

/-- The answer to a question, and the world after it. -/
def answer (w : World) : (q : Query) → Except Failure q.Reply × World
  | .upsertUser user name => w.upsertUser user name
  | .createLobby code leader =>
    let (r, w) := w.createLobby code leader
    (r.map some, w)
  | .addMember lobby user =>
    let (r, w) := w.addMember lobby user
    (r.map fun _ => (), w)
  | .lobbyByCode code => (w.lobbyByCode code, w)
  | .codeExists code => (w.codeExists code, w)
  | .activeCount lobby => (.ok (some (w.tables.activeCount lobby)), w)
  | .isActiveMember lobby user => (.ok (w.tables.isActiveMember lobby user), w)
  | .hasMembership lobby user => (.ok (w.tables.hasMembership lobby user), w)
  | .isActiveMembership lobby membership =>
    (.ok (w.tables.isActiveMembership lobby membership), w)
  | .deactivateMember lobby user =>
    let (_, w) := w.deactivateMember lobby user
    (.ok (), w)
  | .setMemberActive lobby membership active =>
    let (b, w) := w.setMemberActive lobby membership active
    (.ok b, w)
  | .detail lobby => (w.tables.detail? lobby, w)
  | .leader lobby => (.ok (w.leader lobby), w)

/-- The supplies that a question draws before it looks at the tables. -/
def spend (w : World) : Query → World
  | .upsertUser .. | .deactivateMember .. | .setMemberActive _ _ false => w.reading.2
  | .createLobby .. | .addMember .. => w.reading.2.freshId.2
  | _ => w

/-- The tables that a question looks at; for a lobby's detail, the other two only when there is such
a lobby. -/
def looksAt (w : World) : Query → List Table
  | .upsertUser .. => [.users]
  | .createLobby .. | .lobbyByCode .. | .codeExists .. | .leader .. => [.lobbies]
  | .addMember .. | .activeCount .. | .isActiveMember .. | .hasMembership ..
  | .isActiveMembership .. | .deactivateMember .. | .setMemberActive .. => [.members]
  | .detail lobby => if (w.tables.lobby? lobby).isSome then [.lobbies, .members, .users]
    else [.lobbies]

end World

end GameLobby
