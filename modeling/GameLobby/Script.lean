import GameLobby.Command
import GameLobby.Operation

/-!
# Scripted stores

A script is a store that answers as it likes: every answer may depend on everything that has
happened so far, may be a failure, and may not come at all. Running an operation on a script leaves
a trace of what the operation asked for, which shows whether it keeps the discipline of transactions
on every store whatever.
-/

namespace GameLobby

/-- What a store does with a question: it answers, it fails, or it keeps the operation waiting until
the deadline. -/
inductive Outcome (α : Type) where
  | answers (a : α)
  | fails (f : Failure)
  | hangs

/-- What happens between an operation and a store. -/
inductive Event where
  | began
  | asked (q : Query)
  | committed
  | rolledBack
  | read (lobby : Uuid)
  deriving DecidableEq, Repr

/-- A store that answers as it likes, given the events so far. -/
structure Script where
  tell : List Event → (q : Query) → Outcome q.Reply
  tellDetail : List Event → Uuid → Outcome (Option LobbyDetail)

namespace Script

variable {α : Type}

/-- The failure of an operation that has waited until its deadline. -/
def expired : Failure :=
  .timedOut []

/-- A program on a script, behind the events so far. -/
def runProgram (s : Script) : Program α → List Event → Entropy →
    Except Failure α × List Event × Entropy
  | .done result, trace, e => (result, trace, e)
  | .draw next, trace, e =>
    let (code, e) := JoinCode.random JoinCode.size e
    runProgram s (next code) trace e
  | .ask q next, trace, e =>
    let trace' := trace ++ [.asked q]
    match s.tell trace q with
    | .answers a => runProgram s (next (.ok a)) trace' e
    | .fails f => runProgram s (next (.error f)) trace' e
    | .hangs => (.error expired, trace', e)

/-- What an operation answers once its transaction has committed. -/
def close (s : Script) : Closing α → List Event → Except Failure α × List Event
  | .answer result, trace => (result, trace)
  | .readDetail lobby next, trace =>
    let trace' := trace ++ [.read lobby]
    match s.tellDetail trace lobby with
    | .answers detail => (next detail, trace')
    | .fails f => (.error f, trace')
    | .hangs => (.error expired, trace')

/-- An operation on a script: its result and its trace. -/
def run (s : Script) (op : Operation α) (e : Entropy) : Except Failure α × List Event :=
  match op with
  | .refused r => (.error (.refused r), [])
  | .transact body =>
    match s.runProgram body [.began] e with
    | (.error f, trace, _) => (.error f, trace ++ [.rolledBack])
    | (.ok closing, trace, _) => s.close closing (trace ++ [.committed])

/-- What a command answers on a script, and its trace. -/
def execute (s : Script) (rules : Rules) (c : Command) (e : Entropy) :
    Except Failure Result × List Event :=
  let detailed (r : Except Failure LobbyDetail × List Event) := (r.1.map Result.detail, r.2)
  let silent (r : Except Failure Unit × List Event) := (r.1.map fun () => Result.done, r.2)
  match c with
  | .create caller => detailed (s.run (.create rules caller) e)
  | .join caller typed => detailed (s.run (.join rules caller typed) e)
  | .read caller lobby => detailed (s.run (.read caller lobby) e)
  | .kick caller lobby target => silent (s.run (.kick caller lobby target) e)
  | .setActive lobby membership active => silent (s.run (.setActive lobby membership active) e)

end Script

end GameLobby
