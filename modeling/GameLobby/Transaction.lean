import GameLobby.Failure

/-!
# Programs over a store

Inside a transaction an operation may ask the store any of thirteen questions, some of which write.
A `Program` says what to ask next for every answer, and when to draw a candidate for a join code. It
does not say what a store is: a database runs a program on its tables, and a script plays any store
whatever. `Program.claimCode` is the program that looks for a join code that nobody uses.
-/

namespace GameLobby

/-- The questions to a store. -/
inductive Query where
  /-- Enter a user, unless the identifier is known. -/
  | upsertUser (user : Uuid) (name : Text)
  /-- Enter a waiting lobby. -/
  | createLobby (code : Text) (leader : Uuid)
  /-- Enter an active membership. -/
  | addMember (lobby user : Uuid)
  /-- The lobby with a join code, held against changes by others. -/
  | lobbyByCode (code : Text)
  /-- Whether a lobby has this join code. -/
  | codeExists (code : Text)
  /-- How many active memberships a lobby has. -/
  | activeCount (lobby : Uuid)
  /-- Whether a user has an active membership in a lobby. -/
  | isActiveMember (lobby user : Uuid)
  /-- Whether a user has or had a membership in a lobby. -/
  | hasMembership (lobby user : Uuid)
  /-- Whether a membership is an active one in a lobby. -/
  | isActiveMembership (lobby membership : Uuid)
  /-- End the active memberships of a user in a lobby. -/
  | deactivateMember (lobby user : Uuid)
  /-- End or reopen a membership in a lobby; the answer says whether there is one. -/
  | setMemberActive (lobby membership : Uuid) (active : Bool)
  /-- A lobby with its memberships. -/
  | detail (lobby : Uuid)
  /-- The leader of a lobby. -/
  | leader (lobby : Uuid)
  deriving DecidableEq, Repr

namespace Query

/-- The answer to a question. A store may have none where there is nothing to tell. -/
abbrev Reply : Query → Type
  | upsertUser .. | addMember .. | deactivateMember .. => Unit
  | createLobby .. | lobbyByCode .. => Option Lobby
  | codeExists .. | isActiveMember .. | hasMembership .. | isActiveMembership ..
  | setMemberActive .. => Bool
  | activeCount .. => Option Int
  | detail .. => Option LobbyDetail
  | leader .. => Option Uuid

/-- Whether a question asks for a write. -/
def isWrite : Query → Bool
  | upsertUser .. | createLobby .. | addMember .. | deactivateMember .. | setMemberActive .. => true
  | _ => false

end Query

/-- What an operation does in a transaction, for every answer of the store. -/
inductive Program (α : Type) where
  | done (result : Except Failure α)
  | draw (next : Text → Program α)
  | ask (q : Query) (next : Except Failure q.Reply → Program α)

namespace Program

variable {α β : Type}

/-- One program and then another; a failure of the first is the failure of both. -/
def bind : Program α → (α → Program β) → Program β
  | done (.ok a), f => f a
  | done (.error e), _ => done (.error e)
  | draw next, f => draw fun code => (next code).bind f
  | ask q next, f => ask q fun reply => (next reply).bind f

instance : Monad Program where
  pure a := done (.ok a)
  bind := bind

/-- The program that fails. -/
def fail (f : Failure) : Program α :=
  done (.error f)

/-- The program that is refused. -/
def refuse (r : Refusal) : Program α :=
  fail (.refused r)

/-- The program that asks one question and fails when the store does. -/
def query (q : Query) : Program q.Reply :=
  ask q done

/-- The program that needs an answer to be there. -/
def require (need : Need) : Option α → Program α
  | some a => pure a
  | none => fail (.unanswered need)

/-! ## Join codes -/

/-- The refusal that reports a failed look-up of a candidate. -/
def lookupFailed (f : Failure) : Refusal :=
  ⟨.joinCodeLookup, "Failed to check join code collision: " ++ f.log, some f.kind⟩

/-- The refusal that reports that every candidate is in use. -/
def allTaken (attempts : Nat) : Refusal :=
  RefusalClass.joinCodeCollision.saying
    (s!"Failed to generate unique join code after {attempts} attempts" : String)

/-- Draw candidates until one is free, at most a given number of times. -/
def claimFrom (attempts : Nat) : (left : Nat) → Program Text
  | 0 => refuse (allTaken attempts)
  | left + 1 =>
    draw fun code => ask (.codeExists code) fun
      | .ok false => pure code
      | .ok true => claimFrom attempts left
      | .error f => refuse (lookupFailed f)

/-- The number of attempts, which has to be positive. -/
def attempts (n : Int) : Except Failure Nat :=
  if n < 1 then .error .noAttempts else .ok n.toNat

/-- Draw candidates until one is free. -/
def claimCode (maxRetries : Int) : Program Text := do
  let n ← done (attempts maxRetries)
  claimFrom n n

/-- Claim several codes with one generator, one after another. -/
def claimCodes (maxRetries : Int) (times : Nat) : Program (List Text) := do
  let n ← done (attempts maxRetries)
  (List.replicate times ()).mapM fun _ => claimFrom n n

end Program

end GameLobby
