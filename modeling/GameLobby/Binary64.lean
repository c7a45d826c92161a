import GameLobby.Text.Decimal

/-!
# Binary floating-point numbers

A number of the format binary64 is kept exactly, as a sign, a mantissa and an exponent, and computed
with in natural numbers. `ofDecimal` rounds a decimal to the nearest number of the format, a tie to
the even mantissa, and `shortest` goes back: the fewest decimal digits that lie in the interval
which rounds to the number, and of those the nearest to it.
-/

namespace GameLobby

/-- A number of the format binary64: `± mantissa · 2 ^ exponent`, an infinity, or no number. -/
inductive Binary64 where
  | finite (negative : Bool) (mantissa : Nat) (exponent : Int)
  | infinite (negative : Bool)
  | nan
  deriving DecidableEq, Repr, Inhabited

namespace Binary64

/-- The exponent of the smallest numbers. -/
def minExponent : Int := -1074

/-- The exponent of the greatest numbers. -/
def maxExponent : Int := 971

/-- Numbers above the smallest exponent have mantissas of `52` bits behind the leading one. -/
def leading : Nat := 0x10000000000000

/-- Zero. -/
def zero : Binary64 := finite false 0 minExponent

/-- A quotient rounded to the nearest natural number, a tie to the even one. -/
def roundDiv (num den : Nat) : Nat :=
  let q := num / den
  let r := num % den
  if 2 * r < den then q else if den < 2 * r then q + 1 else q + q % 2

/-- `num · 2 ^ shift / den`, as a quotient of natural numbers. -/
def scaled (num den : Nat) (shift : Int) : Nat × Nat :=
  if 0 ≤ shift then (num * Nat.pow 2 shift.toNat, den) else (num, den * Nat.pow 2 (-shift).toNat)

/-- The exponent at which the positive quotient `num / den` has a mantissa of full length. -/
def fullExponent (num den : Nat) : Int :=
  let guess : Int := num.log2 - den.log2 - 52
  let (n, d) := scaled num den (-guess)
  if n / d < leading then guess - 1 else guess

/-- The number nearest to the quotient `num / den`. -/
def ofRatio (negative : Bool) (num den : Nat) : Binary64 :=
  if num = 0 then finite negative 0 minExponent
  else
    let exponent := max (fullExponent num den) minExponent
    let (n, d) := scaled num den (-exponent)
    let mantissa := roundDiv n d
    let (mantissa, exponent) :=
      if mantissa = 2 * leading then (leading, exponent + 1) else (mantissa, exponent)
    if maxExponent < exponent then infinite negative else finite negative mantissa exponent

/-- The number nearest to an integer. -/
def ofInt (n : Int) : Binary64 :=
  ofRatio (n < 0) n.natAbs 1

/-- The value of decimal digits, most significant first. -/
def ofDigits (digits : List Nat) : Nat :=
  digits.foldl (fun n d => 10 * n + d) 0

/--
The number nearest to `± digits · 10 ^ exponent`. A decimal far outside the range of the format is
infinite or zero whatever its digits are.
-/
def ofDecimal (negative : Bool) (digits : List Nat) (exponent : Int) : Binary64 :=
  let digits := digits.dropWhile (· == 0)
  let magnitude : Int := digits.length + exponent
  if digits = [] then finite negative 0 minExponent
  else if 400 < magnitude then infinite negative
  else if magnitude < -400 then finite negative 0 minExponent
  else if 0 ≤ exponent then ofRatio negative (ofDigits digits * Nat.pow 10 exponent.toNat) 1
  else ofRatio negative (ofDigits digits) (Nat.pow 10 (-exponent).toNat)

/-- Whether a number is greater than zero. -/
def isPositive : Binary64 → Bool
  | finite negative mantissa _ => !negative && mantissa != 0
  | infinite negative => !negative
  | nan => false

/-- Whether a number is one of the two zeros. -/
def isZero : Binary64 → Bool
  | finite _ mantissa _ => mantissa == 0
  | _ => false

/-- The number as a quotient of an integer and a power of two. -/
def ratio? : Binary64 → Option (Int × Nat)
  | finite negative mantissa exponent =>
    let (num, den) := scaled mantissa 1 exponent
    some (if negative then -num else num, den)
  | _ => none

/-- The greatest integer that is not above a finite number. -/
def floor? (x : Binary64) : Option Int :=
  x.ratio?.map fun (n, d) => n.fdiv d

/-- The integer that a number is equal to. -/
def integer? (x : Binary64) : Option Int :=
  x.ratio?.bind fun (n, d) => if n.fmod d = 0 then some (n.fdiv d) else none

/-- The nearest integer to a multiple of a finite number, a tie to the even one. -/
def nearestMultiple? (x : Binary64) (factor : Nat) : Option Int :=
  x.ratio?.map fun (n, d) =>
    let size := roundDiv (n.natAbs * factor) d
    if n < 0 then -size else size

/-! ## Decimal digits -/

/-- A decimal `0.d₁d₂… · 10 ^ point`. -/
structure Decimal where
  digits : List Nat
  point : Int
  deriving DecidableEq, Repr

/-- The decimal digits of a natural number, most significant first; zero has none. -/
def digitsOf (n : Nat) : List Nat :=
  if n = 0 then [] else digitsOf (n / 10) ++ [n % 10]
  termination_by n

/--
The interval of the reals that round to `mantissa · 2 ^ exponent`, and the number itself, as
numerators over one denominator: lower end, number, upper end, denominator.
-/
def interval (mantissa : Nat) (exponent : Int) : Nat × Nat × Nat × Nat :=
  let below : Nat := if mantissa = leading ∧ minExponent < exponent then 1 else 2
  let (num, den) := scaled 1 4 exponent
  ((4 * mantissa - below) * num, 4 * mantissa * num, (4 * mantissa + 2) * num, den)

/--
The digits of the decimal with `places` digits after scaling that lies in the interval, if one
does: of the two neighbours of the number on that grid, the nearer one that lies inside. The ends
belong to the interval when the mantissa is even.
-/
def gridPoint? (mantissa : Nat) (exponent : Int) (scale : Int) : Option Nat :=
  let (low, mid, high, den) := interval mantissa exponent
  let (up, down) : Nat × Nat :=
    if 0 ≤ scale then (Nat.pow 10 scale.toNat, 1) else (1, Nat.pow 10 (-scale).toNat)
  let unit := den * down
  let inside (k : Nat) : Bool :=
    let v := k * unit
    if mantissa % 2 = 0 then low * up ≤ v && v ≤ high * up else low * up < v && v < high * up
  let floor := mid * up / unit
  let rest := mid * up % unit
  let nearest := roundDiv (mid * up) unit
  let other := if nearest = floor then floor + 1 else floor
  if inside nearest then some nearest
  else if rest != 0 && inside other then some other
  else none

/-- The number of digits before the decimal point of a positive number, or the negated number of
zeros behind it. -/
def pointOf (mantissa : Nat) (exponent : Int) : Int :=
  let (num, den) := scaled mantissa 1 exponent
  let atLeast (p : Int) : Bool :=
    if 0 ≤ p then den * Nat.pow 10 p.toNat ≤ num else den ≤ num * Nat.pow 10 (-p).toNat
  let guess : Int := ((mantissa.log2 : Int) + exponent) * 30103 / 100000
  if atLeast (guess + 1) then guess + 2 else if atLeast guess then guess + 1 else guess

/-- The shortest decimal that rounds to a positive number. -/
def shortest (mantissa : Nat) (exponent : Int) : Decimal :=
  let point := pointOf mantissa exponent
  let attempt (places : Nat) : Option Decimal :=
    (gridPoint? mantissa exponent (places - point)).map fun k =>
      let digits := digitsOf k
      let extra : Int := digits.length - places
      ⟨(digits.reverse.dropWhile (· == 0)).reverse, point + extra⟩
  ((List.range' 1 17).findSome? attempt).getD ⟨[], 0⟩

/-! ## Written form -/

/--
Digits around a decimal point, which has at least one digit on each side. Positional from `1e-4` up
to `1e16`, and otherwise with an exponent of at least two digits behind its sign.
-/
def Decimal.text (d : Decimal) : String :=
  let chars := d.digits.map Text.decimalDigit
  let exponent := d.point - 1
  if -4 ≤ exponent ∧ exponent < 16 then
    if d.point ≤ 0 then String.ofList ("0.".toList ++ List.replicate (-d.point).toNat '0' ++ chars)
    else
      let places := d.point.toNat
      let whole := chars.take places
      let fraction := chars.drop places
      String.ofList
        (whole ++ List.replicate (places - whole.length) '0' ++ ['.'] ++
          if fraction = [] then ['0'] else fraction)
  else
    let size := (toString exponent.natAbs).toList
    let sign := if exponent < 0 then '-' else '+'
    let fraction := chars.drop 1
    String.ofList
      (chars.take 1 ++ (if fraction = [] then [] else '.' :: fraction) ++ ['e', sign] ++
        List.replicate (2 - size.length) '0' ++ size)

/-- The text of a number. -/
def text : Binary64 → String
  | nan => "nan"
  | infinite negative => if negative then "-inf" else "inf"
  | finite negative mantissa exponent =>
    let size := if mantissa = 0 then "0.0" else (shortest mantissa exponent).text
    if negative then "-" ++ size else size

end Binary64

end GameLobby
