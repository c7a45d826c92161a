import GameLobby.Transaction

/-!
# Who may do what

Two checks run inside the transaction of the operation that they protect, so they see the state that
it changes. A membership that has ended still lets its user look at the lobby.
-/

namespace GameLobby.Guard

open Program

/-- The leader of a lobby, which has to exist. -/
def resolveLeader (lobby : Uuid) : Program Uuid := do
  match ← query (.leader lobby) with
  | some leader => pure leader
  | none => refuse RefusalClass.lobbyNotFound.refusal

/-- The caller leads the lobby or has, or had, a membership in it. -/
def requireMember (caller : Caller) (lobby : Uuid) : Program Uuid := do
  let leader ← resolveLeader lobby
  if caller.userId = leader then pure leader
  else if ← query (.hasMembership lobby caller.userId) then pure leader
  else refuse (RefusalClass.forbidden.saying "You are not a member of this lobby")

/-- The caller leads the lobby. -/
def requireLeader (caller : Caller) (lobby : Uuid) : Program Uuid := do
  let leader ← resolveLeader lobby
  if caller.userId = leader then pure leader
  else refuse (RefusalClass.forbidden.saying "Only the lobby leader can do this")

end GameLobby.Guard
