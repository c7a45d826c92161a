import GameLobby.Timestamp
import GameLobby.Uuid

/-!
# Clock, identifiers and entropy

An operation draws on three supplies: readings of a clock, fresh identifiers and random bytes. Each
is a stream whose next element is fixed, so an operation is a function of its supplies, and what it
has drawn stays drawn whether or not it succeeds.
-/

namespace GameLobby

/-- Readings laid out in advance, and behind them a clock that moves by a fixed step at every
reading. -/
structure Clock where
  queue : List Int
  now : Int
  step : Int
  deriving DecidableEq, Repr

/-- The next reading, and the clock after it. -/
def Clock.read (c : Clock) : Timestamp × Clock :=
  match c.queue with
  | t :: queue => (.naive t, { c with queue })
  | [] => (.naive c.now, { c with now := c.now + c.step })

/-- The clock with all readings to come moved by a number of microseconds. -/
def Clock.advance (c : Clock) (micros : Int) : Clock :=
  { c with queue := c.queue.map (· + micros), now := c.now + micros }

/-- Identifiers laid out in advance, and how many others have been handed out. -/
structure IdSource where
  queue : List Uuid
  issued : Nat
  deriving DecidableEq, Repr

/-- The identifier of a serial number: a random-looking form with the number in its last group. -/
def IdSource.serial (n : Nat) : Uuid :=
  .ofNat (0x40008000000000000000 + n % 0x1000000000000)

/-- The next identifier, and the source after it. -/
def IdSource.next (s : IdSource) : Uuid × IdSource :=
  match s.queue with
  | id :: queue => (id, { s with queue })
  | [] => (serial (s.issued + 1), { s with issued := s.issued + 1 })

/-- Random bytes laid out in advance, and how many others have been drawn. -/
structure Entropy where
  bytes : List Nat
  drawn : Nat
  deriving DecidableEq, Repr

namespace Entropy

/-- The byte that stands at a place of the stream behind the bytes laid out in advance. -/
def filler (i : Nat) : Nat :=
  (i * 37 + 11) % 256

/-- The next byte, and the source after it. -/
def next (e : Entropy) : Nat × Entropy :=
  match e.bytes with
  | b :: bytes => (b, { e with bytes })
  | [] => (filler e.drawn, { e with drawn := e.drawn + 1 })

/-- The next bytes, and the source after them. -/
def take : Nat → Entropy → List Nat × Entropy
  | 0, e => ([], e)
  | n + 1, e =>
    let (b, e) := e.next
    let (bs, e) := take n e
    (b :: bs, e)

end Entropy

/-- The three supplies. -/
structure Supply where
  clock : Clock
  ids : IdSource
  entropy : Entropy
  deriving DecidableEq, Repr

namespace Supply

/-- A clock reading. -/
def reading (s : Supply) : Timestamp × Supply :=
  let (t, clock) := s.clock.read
  (t, { s with clock })

/-- The supplies with the clock moved by a number of microseconds. -/
def advance (s : Supply) (micros : Int) : Supply :=
  { s with clock := s.clock.advance micros }

/-- A fresh identifier. -/
def freshId (s : Supply) : Uuid × Supply :=
  let (id, ids) := s.ids.next
  (id, { s with ids })

end Supply

end GameLobby
