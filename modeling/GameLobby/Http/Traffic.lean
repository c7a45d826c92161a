import GameLobby.Http.App

/-!
# Traffic

What happens to an application comes in events: requests, and things that happen without one, such
as another service writing the stage of a lobby, time passing, a table going missing, or an
operation being bound to fail from now on.
-/

namespace GameLobby.Http.App

/-- What can happen to an application. -/
inductive Event where
  | request (r : Request)
  /-- Another service writes the stage of a lobby, which need not exist. -/
  | setStatus (lobby : Uuid) (status : Text)
  /-- The clock and that of the rate limits move by a number of microseconds. -/
  | advance (micros : Int)
  | lose (table : Table)
  /-- An operation fails whenever it is called. -/
  | sabotage (operation : OperationName) (f : Failure)

/-- The application after an event. -/
def happen (a : App) : Event → App
  | .request r => (a.handle r).2
  | .setStatus lobby status =>
    { a with world := a.world.withTables (a.world.tables.setStatus lobby status) }
  | .advance micros => a.advance micros
  | .lose table => { a with missing := a.missing ++ [table] }
  | .sabotage operation f => { a with faults := (operation, f) :: a.faults }

/-- The application after a number of events. -/
def after (a : App) (events : List Event) : App :=
  events.foldl happen a

end GameLobby.Http.App
