import GameLobby.Database.Service

/-!
# Histories

A service is a world under rules. What happens to it comes in steps: commands, and things that
happen without one, such as another service writing the stage of a lobby, time passing, or new
rules. A history is a list of steps, and `Service.run` tells what each of them answers.
-/

namespace GameLobby

/-- A world under rules. -/
structure Service where
  rules : Rules
  world : World
  deriving DecidableEq, Repr

/-- What can happen to a service. -/
inductive Step where
  | command (c : Command)
  /-- Another service writes the stage of a lobby, which need not exist. -/
  | setStatus (lobby : Uuid) (status : Text)
  /-- The clock moves by a number of microseconds. -/
  | advance (micros : Int)
  /-- The rules change. -/
  | adopt (rules : Rules)
  deriving DecidableEq, Repr

namespace Service

/-- A service without rows. -/
def fresh (rules : Rules) (supply : Supply) : Service :=
  ⟨rules, ⟨.empty, supply⟩⟩

/-- What a step answers, and the service after it. -/
def step (s : Service) : Step → Except Failure Result × Service
  | .command c =>
    let (r, world) := s.world.execute s.rules [] c
    (r, { s with world })
  | .setStatus lobby status =>
    (.ok .done, { s with world := s.world.withTables (s.world.tables.setStatus lobby status) })
  | .advance micros => (.ok .done, { s with world := s.world.advance micros })
  | .adopt rules => (.ok .done, { s with rules })

/-- What the steps of a history answer, and the service after them. -/
def run (s : Service) : List Step → List (Except Failure Result) × Service
  | [] => ([], s)
  | x :: rest =>
    let (r, s) := s.step x
    let (rs, s) := run s rest
    (r :: rs, s)

/-- The service after a history. -/
def after (s : Service) (steps : List Step) : Service :=
  steps.foldl (fun s x => (s.step x).2) s

/-- Running a history in two parts. -/
theorem after_append (s : Service) (xs ys : List Step) :
    s.after (xs ++ ys) = (s.after xs).after ys :=
  List.foldl_append

end Service

end GameLobby
