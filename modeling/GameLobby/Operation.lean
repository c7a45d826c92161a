import GameLobby.Guard
import GameLobby.JoinCode

/-!
# The lobby operations

There are five operations: create, join, read, kick and set-active. An operation that is not refused
outright runs one transaction, which commits when its program ends well and is rolled back when it
fails. What is answered is settled after the commit, by one more read where a player has joined.
-/

namespace GameLobby

/-- How an operation ends once its transaction has committed. -/
inductive Closing (α : Type) where
  | answer (result : Except Failure α)
  | readDetail (lobby : Uuid) (next : Option LobbyDetail → Except Failure α)

/-- An operation on lobbies. -/
inductive Operation (α : Type) where
  | refused (r : Refusal)
  | transact (body : Program (Closing α))

namespace Operation

open Program

/-- The detail of a lobby, which has to be there. -/
def found (detail : Option LobbyDetail) : Except Failure LobbyDetail :=
  match detail with
  | some d => .ok d
  | none => .error (.refused RefusalClass.lobbyNotFound.refusal)

/-- The refusal of a code that no lobby has. -/
def noLobbyWith (code : Text) : Refusal :=
  RefusalClass.lobbyNotFound.saying ("No lobby found with join code: " ++ code)

/-- The refusal of a lobby without a free seat. -/
def full (maxPlayers : Int) : Refusal :=
  RefusalClass.lobbyFull.saying
    (s!"Lobby has reached maximum capacity ({maxPlayers} players)" : String)

/-- Create a lobby with a fresh join code, led and joined by the caller. -/
def create (rules : Rules) (caller : Caller) : Operation LobbyDetail :=
  .transact do
    query (.upsertUser caller.userId caller.username)
    let code ← claimCode rules.maxRetries
    let lobby ← require .newLobby (← query (.createLobby code caller.userId))
    query (.addMember lobby.id caller.userId)
    let detail ← query (.detail lobby.id)
    pure (.answer (found detail))

/-- The checks before a caller joins the lobby with a code, in the order in which they count. -/
def checkJoin (rules : Rules) (caller : Caller) (code : Text) : Program Lobby := do
  match ← query (.lobbyByCode code) with
  | none => refuse (noLobbyWith code)
  | some lobby =>
    if !lobby.isJoinable then refuse RefusalClass.lobbyNotJoinable.refusal
    else
      let count ← require .activeCount (← query (.activeCount lobby.id))
      if rules.maxPlayers ≤ count then refuse (full rules.maxPlayers)
      else if ← query (.isActiveMember lobby.id caller.userId) then
        refuse RefusalClass.alreadyInLobby.refusal
      else pure lobby

/-- Join the lobby with a join code. -/
def join (rules : Rules) (caller : Caller) (typed : Text) : Operation LobbyDetail :=
  match JoinCode.normalize typed with
  | .error r => .refused r
  | .ok code => .transact do
    let lobby ← checkJoin rules caller code
    query (.upsertUser caller.userId caller.username)
    query (.addMember lobby.id caller.userId)
    pure (.readDetail lobby.id found)

/-- Read a lobby as one of its members. -/
def read (caller : Caller) (lobby : Uuid) : Operation LobbyDetail :=
  .transact do
    discard (Guard.requireMember caller lobby)
    let detail ← query (.detail lobby)
    pure (.answer (found detail))

/-- End the membership of another player, as the leader. -/
def kick (caller : Caller) (lobby target : Uuid) : Operation Unit :=
  if target = caller.userId then .refused RefusalClass.cannotKickSelf.refusal
  else .transact do
    discard (Guard.requireLeader caller lobby)
    if ← query (.isActiveMember lobby target) then
      query (.deactivateMember lobby target)
      pure (.answer (.ok ()))
    else refuse RefusalClass.playerNotInLobby.refusal

/-- Set the active flag of a membership that is active. -/
def setActive (lobby membership : Uuid) (active : Bool) : Operation Unit :=
  .transact do
    match ← query (.leader lobby) with
    | none => refuse RefusalClass.lobbyNotFound.refusal
    | some _ =>
      if ← query (.isActiveMembership lobby membership) then
        if ← query (.setMemberActive lobby membership active) then pure (.answer (.ok ()))
        else refuse RefusalClass.playerNotFound.refusal
      else refuse RefusalClass.playerNotFound.refusal

end Operation

end GameLobby
