import GameLobby.Database.Primitive

/-!
# Sessions

A session is a transaction whose calls its user chooses, in any order and with any arguments, even
missing ones. A missing argument matches no row, and no row can be entered with it. The first call
that fails ends the session and undoes it. A read outside the transaction sees the tables as they
were when the session began.
-/

namespace GameLobby

/-- A call in a session. -/
inductive Call where
  | upsertUser (user : Option Uuid) (name : Option Text)
  | createLobby (code : Option Text) (leader : Option Uuid)
  | addMember (lobby user : Option Uuid)
  | lobbyByCode (code : Option Text)
  | codeExists (code : Option Text)
  | activeCount (lobby : Option Uuid)
  | isActiveMember (lobby user : Option Uuid)
  | hasMembership (lobby user : Option Uuid)
  | isActiveMembership (lobby membership : Option Uuid)
  | deactivateMember (lobby user : Option Uuid)
  | setMemberActive (lobby membership : Option Uuid) (active : Option Bool)
  | detail (lobby : Option Uuid)
  | leader (lobby : Option Uuid)
  /-- A read outside the transaction. -/
  | outside (read : Call)
  deriving Repr

/-- What a call answers. -/
inductive Answer where
  | nothing
  | lobby (l : Option Lobby)
  | began (membership : Uuid) (joinedAt : Timestamp)
  | flag (b : Bool)
  | count (n : Nat)
  | detail (d : Option LobbyDetail)
  | leader (user : Option Uuid)
  deriving Repr

namespace Call

/-- The failure of a row whose column is empty. -/
def empty (table : Table) (column : String) : Failure :=
  .broken (.notNull table column)

/-- The failure of a text that is given and cannot be stored. -/
def encodable? (t : Option Text) : Except Failure Unit :=
  match t with
  | some t => encodable t
  | none => .ok ()

/-- A call with a user whose identifier or name may be missing. -/
def runUpsert (user : Option Uuid) (name : Option Text) (w : World) :
    Except Failure Answer × World :=
  match user, name with
  | some user, some name =>
    let (r, w) := w.upsertUser user name
    (r.map fun () => .nothing, w)
  | _, _ =>
    let w := w.reading.2
    match encodable? name with
    | .error f => (.error f, w)
    | .ok () => (.error (empty .users (if user = none then "id" else "username")), w)

/-- A call with a lobby whose join code or leader may be missing. -/
def runCreate (code : Option Text) (leader : Option Uuid) (w : World) :
    Except Failure Answer × World :=
  match code, leader with
  | some code, some leader =>
    let (r, w) := w.createLobby code leader
    (r.map fun l => .lobby (some l), w)
  | _, _ =>
    let w := w.reading.2.freshId.2
    match encodable? code with
    | .error f => (.error f, w)
    | .ok () =>
      (.error (if code = none then .refused World.duplicateCode
        else empty .lobbies "leader_id"), w)

/-- A call with a membership whose lobby or user may be missing. -/
def runAdd (lobby user : Option Uuid) (w : World) : Except Failure Answer × World :=
  match lobby, user with
  | some lobby, some user =>
    let (r, w) := w.addMember lobby user
    (r.map fun (id, at_) => .began id at_, w)
  | _, _ =>
    (.error (empty .members (if lobby = none then "lobby_id" else "user_id")),
      w.freshId.2.reading.2)

/-- End the active memberships of a user in a lobby, if both are given. -/
def runDeactivate (lobby user : Option Uuid) (w : World) : Except Failure Answer × World :=
  match lobby, user with
  | some lobby, some user =>
    let (n, w) := w.deactivateMember lobby user
    (.ok (.count n), w)
  | _, _ => (.ok (.count 0), w.reading.2)

/-- Set the active flag of a membership. A flag that is missing counts as false until it is to be
stored. -/
def runSetActive (lobby membership : Option Uuid) (active : Option Bool) (w : World) :
    Except Failure Answer × World :=
  match lobby, membership, active with
  | some lobby, some membership, some active =>
    let (b, w) := w.setMemberActive lobby membership active
    (.ok (.flag b), w)
  | some lobby, some membership, none =>
    let there := w.tables.members.any fun m => m.id = membership ∧ m.lobbyId = lobby
    (if there then .error (empty .members "is_active") else .ok (.flag false), w.reading.2)
  | _, _, _ => (.ok (.flag false), if active = some true then w else w.reading.2)

/-- Whether two arguments are given and satisfy a condition. -/
def both (p : Uuid → Uuid → Bool) : Option Uuid → Option Uuid → Bool
  | some a, some b => p a b
  | _, _ => false

/-- A call that only reads. -/
def read (w : World) : Call → Except Failure Answer
  | lobbyByCode (some code) => (w.lobbyByCode code).map .lobby
  | lobbyByCode none => .ok (.lobby none)
  | codeExists (some code) => (w.codeExists code).map .flag
  | codeExists none => .ok (.flag false)
  | activeCount lobby => .ok (.count ((lobby.map w.tables.activeCount).getD 0))
  | isActiveMember lobby user => .ok (.flag (both w.tables.isActiveMember lobby user))
  | hasMembership lobby user => .ok (.flag (both w.tables.hasMembership lobby user))
  | isActiveMembership lobby membership =>
    .ok (.flag (both w.tables.isActiveMembership lobby membership))
  | detail (some lobby) => (w.tables.detail? lobby).map .detail
  | detail none => .ok (.detail none)
  | leader lobby => .ok (.leader (lobby.bind w.leader))
  | _ => .ok .nothing

/-- A call in a session that began with the given tables. -/
def run (before : Tables) (w : World) : Call → Except Failure Answer × World
  | upsertUser user name => runUpsert user name w
  | createLobby code first => runCreate code first w
  | addMember lobby user => runAdd lobby user w
  | deactivateMember lobby user => runDeactivate lobby user w
  | setMemberActive lobby membership active => runSetActive lobby membership active w
  | outside call => (call.read (w.withTables before), w)
  | call => (call.read w, w)

end Call

namespace World

/-- The answers of calls up to the first failure, with the world after them. -/
def runCalls (before : Tables) : List Call → World → List (Except Failure Answer) × World
  | [], w => ([], w)
  | call :: rest, w =>
    match call.run before w with
    | (.error f, w) => ([.error f], w)
    | (.ok a, w) =>
      let (answers, w) := runCalls before rest w
      (.ok a :: answers, w)

/-- Whether a list of answers has a failure. -/
def anyFailed (answers : List (Except Failure Answer)) : Bool :=
  answers.any fun
    | .error _ => true
    | .ok _ => false

/-- A session: its answers, whether it was committed, and the world after it. It is undone when it
is aborted at its end or a call fails. -/
def session (calls : List Call) (abort : Bool) (w : World) :
    List (Except Failure Answer) × Bool × World :=
  let (answers, w') := runCalls w.tables calls w
  if abort || anyFailed answers then (answers, false, w'.withTables w.tables)
  else (answers, true, w')

end World

end GameLobby
