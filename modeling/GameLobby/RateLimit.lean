import GameLobby.Text

/-!
# Rate limits

Creating and joining lobbies is limited for each client address. A window opens with the first hit
and is closed sixty seconds later; within it, the hits up to the limit are admitted and all later
ones are refused. The windows of two addresses, those of the two limits, and those of two paths that
lead to one route have nothing to do with each other.
-/

namespace GameLobby

/-- The limits. -/
inductive RateLimit where
  | createLobby
  | joinLobby
  deriving DecidableEq, Repr

namespace RateLimit

/-- The number of hits that a window admits. -/
def perMinute : RateLimit → Nat
  | createLobby => 10
  | joinLobby => 30

/-- The name of a limit. -/
def name : RateLimit → String
  | createLobby => "create_lobby"
  | joinLobby => "join_lobby"

/-- The limit with a name. -/
def ofName? (t : Text) : Option RateLimit :=
  [createLobby, joinLobby].find? fun l => Text.ofString l.name = t

/-- A limit as it is declared. -/
def declaration (l : RateLimit) : String :=
  toString l.perMinute ++ "/minute"

/-- The message to a client that is refused. -/
def message (l : RateLimit) : String :=
  "Rate limit exceeded: " ++ toString l.perMinute ++ " per 1 minute"

/-- The message about a name that no limit has. -/
def unknownName (t : Text) : Text :=
  "Unknown rate limit: " ++ t

end RateLimit

/-- What is counted in one window: the requests of an address to a path, on a limit. -/
structure RateLimit.Key where
  limit : RateLimit
  client : Text
  path : Text
  deriving DecidableEq, Repr

/-- A window: what it counts, when it opened, and its hits. -/
structure Window where
  key : RateLimit.Key
  opened : Int
  hits : Nat
  deriving DecidableEq, Repr

namespace Window

/-- The microseconds for which a window is open. -/
def duration : Int := 60000000

/-- Whether a window counts the hits of a key. -/
def isFor (key : RateLimit.Key) (w : Window) : Bool :=
  w.key = key

/-- Whether a window is still open. -/
def isOpen (now : Int) (w : Window) : Bool :=
  now < w.opened + duration

end Window

/-- The windows, at most one for each key. -/
abbrev Limiter := List Window

namespace Limiter

/-- The hits that count in the window of a key. -/
def count (limiter : Limiter) (key : RateLimit.Key) (now : Int) : Nat :=
  match limiter.find? (Window.isFor key) with
  | some w => if w.isOpen now then w.hits else 0
  | none => 0

/-- The windows after one more hit. -/
def record (limiter : Limiter) (key : RateLimit.Key) (now : Int) : Limiter :=
  let others := limiter.filter fun w => !w.isFor key
  match limiter.find? (Window.isFor key) with
  | some w =>
    if w.isOpen now then { w with hits := w.hits + 1 } :: others
    else ⟨key, now, 1⟩ :: others
  | none => ⟨key, now, 1⟩ :: others

/-- Whether a hit is admitted, and the windows after it. -/
def hit (limiter : Limiter) (key : RateLimit.Key) (now : Int) : Bool × Limiter :=
  (limiter.count key now < key.limit.perMinute, limiter.record key now)

end Limiter

end GameLobby
