import GameLobby.Command
import GameLobby.Database.Primitive
import GameLobby.Operation

/-!
# Operations on tables

An operation runs on a world. Its transaction works on the tables as it finds them; when it fails,
the tables go back to what they were, while the supplies stay drawn. A deadline that has passed
before the operation starts stops it at its first question, and a question about a missing table
fails.
-/

namespace GameLobby

/-- What stands in the way of every question: the deadline has passed, or tables are missing. -/
structure Conditions where
  expired : Bool := false
  missing : List Table := []
  deriving DecidableEq, Repr

/-- Whether a timeout is over before anything has happened. -/
def Rules.expired (r : Rules) : Bool :=
  match r.timeout with
  | none => false
  | some seconds => !seconds.isPositive

/-- The conditions under which operations run. -/
def Rules.conditions (r : Rules) (missing : List Table) : Conditions :=
  ⟨r.expired, missing⟩

namespace World

variable {α : Type}

/-- The answer to a question under conditions that let it be asked. -/
def consult (missing : List Table) (w : World) (q : Query) : Except Failure q.Reply × World :=
  match (w.looksAt q).find? (missing.contains ·) with
  | some table => (.error (.missingTable table), w.spend q)
  | none => w.answer q

/-- A program on a world. -/
def runProgram (c : Conditions) : Program α → World → Except Failure α × World
  | .done result, w => (result, w)
  | .draw next, w =>
    let (code, entropy) := JoinCode.random JoinCode.size w.supply.entropy
    runProgram c (next code) { w with supply := { w.supply with entropy } }
  | .ask q next, w =>
    if c.expired then (.error (.timedOut []), w.spend q)
    else
      let (reply, w) := w.consult c.missing q
      runProgram c (next reply) w

/-- What an operation answers once its transaction has committed. -/
def close (c : Conditions) (w : World) : Closing α → Except Failure α
  | .answer result => result
  | .readDetail lobby next =>
    match (w.consult c.missing (.detail lobby)).1 with
    | .ok detail => next detail
    | .error f => .error f

/-- An operation on a world: its result, and the world after it. -/
def perform (c : Conditions) (op : Operation α) (w : World) : Except Failure α × World :=
  match op with
  | .refused r => (.error (.refused r), w)
  | .transact body =>
    match runProgram c body w with
    | (.error f, w') => (.error f, w'.withTables w.tables)
    | (.ok closing, w') => (w'.close c closing, w')

/-- What a command answers when some tables are missing, and the world after it. -/
def execute (rules : Rules) (missing : List Table) (w : World) (c : Command) :
    Except Failure Result × World :=
  let conditions := rules.conditions missing
  let detailed (r : Except Failure LobbyDetail × World) := (r.1.map Result.detail, r.2)
  let silent (r : Except Failure Unit × World) := (r.1.map fun () => Result.done, r.2)
  match c with
  | .create caller => detailed (w.perform conditions (.create rules caller))
  | .join caller typed => detailed (w.perform conditions (.join rules caller typed))
  | .read caller lobby => detailed (w.perform conditions (.read caller lobby))
  | .kick caller lobby target => silent (w.perform conditions (.kick caller lobby target))
  | .setActive lobby membership active =>
    silent (w.perform conditions (.setActive lobby membership active))

end World

end GameLobby
