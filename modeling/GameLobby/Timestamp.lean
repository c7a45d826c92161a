import GameLobby.Text.Decimal

/-!
# Timestamps

A timestamp is a reading of the wall clock to the microsecond, counted from the start of 1970 in the
proleptic Gregorian calendar. The clock and the store read and keep no offset from UTC; a timestamp
that comes from elsewhere may carry one. There are three written forms: the one of messages, the one
of responses, which writes the offset zero as `Z`, and the one of table cells.
-/

namespace GameLobby

/-- A wall-clock reading in microseconds, with an offset from UTC in minutes where one is known. -/
structure Timestamp where
  wall : Int
  offset : Option Int
  deriving DecidableEq, Repr, Inhabited

namespace Timestamp

/-- The reading without an offset. -/
def naive (wall : Int) : Timestamp :=
  ⟨wall, none⟩

/-- Earlier readings come first; offsets are not compared. -/
instance : LE Timestamp := ⟨fun a b => a.wall ≤ b.wall⟩

instance (a b : Timestamp) : Decidable (a ≤ b) :=
  inferInstanceAs (Decidable (a.wall ≤ b.wall))

instance : LT Timestamp := ⟨fun a b => a.wall < b.wall⟩

instance (a b : Timestamp) : Decidable (a < b) :=
  inferInstanceAs (Decidable (a.wall < b.wall))

/-! ## The calendar -/

/-- A day of the calendar. -/
structure Date where
  year : Int
  month : Int
  day : Int
  deriving DecidableEq, Repr

/-- The number of days from the start of 1970 to a date. A year is taken to start in March, so that
a leap day is its last. -/
def Date.days (d : Date) : Int :=
  let year := if d.month ≤ 2 then d.year - 1 else d.year
  let month := if d.month ≤ 2 then d.month + 9 else d.month - 3
  let era := year.fdiv 400
  let inEra := year - era * 400
  let inYear := (153 * month + 2) / 5 + d.day - 1
  era * 146097 + (inEra * 365 + inEra / 4 - inEra / 100 + inYear) - 719468

/-- The date that is a number of days after the start of 1970. -/
def Date.ofDays (n : Int) : Date :=
  let shifted := n + 719468
  let era := shifted.fdiv 146097
  let inEra := shifted - era * 146097
  let year := (inEra - inEra / 1460 + inEra / 36524 - inEra / 146096) / 365
  let inYear := inEra - (365 * year + year / 4 - year / 100)
  let month := (5 * inYear + 2) / 153
  let day := inYear - (153 * month + 2) / 5 + 1
  let year := year + era * 400
  if month < 10 then ⟨year, month + 3, day⟩ else ⟨year + 1, month - 9, day⟩

/-- The number of microseconds in a day. -/
def dayLength : Int := 86400000000

/-- The date of a timestamp. -/
def date (t : Timestamp) : Date :=
  .ofDays (t.wall.fdiv dayLength)

/-- The microseconds since midnight. -/
def sinceMidnight (t : Timestamp) : Nat :=
  (t.wall.fmod dayLength).toNat

/-! ## Written forms -/

/-- Year, month and day. -/
def dateChars (t : Timestamp) : List Char :=
  let d := t.date
  Text.decimals 4 d.year.toNat ++ '-' :: Text.decimals 2 d.month.toNat ++ '-' ::
    Text.decimals 2 d.day.toNat

/-- Hour, minute and second. -/
def timeChars (t : Timestamp) : List Char :=
  let s := t.sinceMidnight / 1000000
  Text.decimals 2 (s / 3600) ++ ':' :: Text.decimals 2 (s / 60 % 60) ++ ':' ::
    Text.decimals 2 (s % 60)

/-- Six digits of a second. -/
def fractionChars (t : Timestamp) : List Char :=
  Text.decimals 6 (t.sinceMidnight % 1000000)

/-- Date and time; the fraction is left out when it is zero. -/
def wallChars (t : Timestamp) : List Char :=
  t.dateChars ++ 'T' :: t.timeChars ++
    if t.sinceMidnight % 1000000 = 0 then [] else '.' :: t.fractionChars

/-- A sign, hours and minutes. -/
def offsetChars (minutes : Int) : List Char :=
  let n := minutes.natAbs
  (if minutes < 0 then '-' else '+') :: Text.decimals 2 (n / 60) ++ ':' :: Text.decimals 2 (n % 60)

/-- The form of messages. -/
def isoChars (t : Timestamp) : List Char :=
  t.wallChars ++ (t.offset.map offsetChars).getD []

/-- The form of responses. -/
def responseChars (t : Timestamp) : List Char :=
  t.wallChars ++ match t.offset with
    | none => []
    | some 0 => ['Z']
    | some minutes => offsetChars minutes

/-- The form of a table cell. -/
def cellChars (t : Timestamp) : List Char :=
  t.dateChars ++ ' ' :: t.timeChars ++ '.' :: t.fractionChars

/-! ## Reading -/

/-- An offset from UTC behind the time, if there is one. -/
def offset? : List Char → Option (Option Int)
  | [] => some none
  | ['Z'] => some (some 0)
  | [sign, a, b, ':', c, d] => do
    let minutes : Int := 60 * (← Text.decimal? [a, b]) + (← Text.decimal? [c, d])
    if sign = '+' then some (some minutes) else if sign = '-' then some (some (-minutes)) else none
  | _ => none

/-- The microseconds of a fraction of a second, and the text behind it. -/
def fraction? : List Char → Option (Nat × List Char)
  | '.' :: rest => do
    let digits := rest.takeWhile Char.isDigit
    if digits = [] then none
    else
      let six := (digits ++ List.replicate (6 - digits.length) '0').take 6
      some (← Text.decimal? six, rest.dropWhile Char.isDigit)
  | rest => some (0, rest)

/-- The timestamp that a text in the form of messages or of responses spells. -/
def ofChars? : List Char → Option Timestamp
  | y₁ :: y₂ :: y₃ :: y₄ :: '-' :: m₁ :: m₂ :: '-' :: d₁ :: d₂ :: mark ::
      h₁ :: h₂ :: ':' :: n₁ :: n₂ :: ':' :: s₁ :: s₂ :: rest => do
    if mark ≠ 'T' ∧ mark ≠ ' ' then none
    let date : Date :=
      ⟨← Text.decimal? [y₁, y₂, y₃, y₄], ← Text.decimal? [m₁, m₂], ← Text.decimal? [d₁, d₂]⟩
    let hours ← Text.decimal? [h₁, h₂]
    let minutes ← Text.decimal? [n₁, n₂]
    let seconds ← Text.decimal? [s₁, s₂]
    let (micros, rest) ← fraction? rest
    let offset ← offset? rest
    let time : Nat := ((hours * 60 + minutes) * 60 + seconds) * 1000000 + micros
    some ⟨date.days * dayLength + time, offset⟩
  | _ => none

end Timestamp

end GameLobby
