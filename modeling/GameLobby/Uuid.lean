import GameLobby.Text.Hex
import GameLobby.Text.Blank

/-!
# Universally unique identifiers

Users, lobbies and memberships are named by numbers of 128 bits. Two readers turn texts into them.
`Uuid.ofText?` takes four fixed shapes and serves paths and bodies; `Uuid.ofLooseText?` serves the
identity header and is more forgiving: hyphens may stand anywhere, and what is left over is read as
a hexadecimal integer with all the liberties of one.
-/

namespace GameLobby

/-- A number of 128 bits. -/
structure Uuid where
  number : Nat
  isLt : number < Nat.pow 2 128
  deriving DecidableEq, Repr

namespace Uuid

/-- The identifier of a number, which is taken modulo `2 ^ 128`. -/
def ofNat (n : Nat) : Uuid :=
  ⟨n % Nat.pow 2 128, Nat.mod_lt _ (by decide)⟩

/-- The thirty-two hexadecimal digits. -/
def hex (u : Uuid) : List Char :=
  Text.hexDigits 32 u.number

/-- Digits with hyphens behind the eighth, the twelfth, the sixteenth and the twentieth. -/
def hyphenate (cs : List Char) : List Char :=
  cs.take 8 ++ '-' :: (cs.drop 8).take 4 ++ '-' :: (cs.drop 12).take 4 ++ '-' ::
    (cs.drop 16).take 4 ++ '-' :: cs.drop 20

/-- The canonical form: lower-case digits in five groups. -/
def chars (u : Uuid) : List Char :=
  hyphenate u.hex

/-- The canonical form as a string. -/
def toString (u : Uuid) : String :=
  String.ofList u.chars

/-- Thirty-two hexadecimal digits. -/
def ofHex? (cs : List Char) : Option Uuid :=
  if h : cs.length = 32 then
    match hn : Text.hexNumber? cs with
    | some n => some ⟨n, by have := Text.hexNumber?_lt hn; rw [h] at this; exact this⟩
    | none => none
  else none

/-! ## Fixed shapes -/

/-- Five groups of hexadecimal digits with hyphens between them. -/
def ofHyphenated? (cs : List Char) : Option Uuid :=
  let digits := cs.take 8 ++ (cs.drop 9).take 4 ++ (cs.drop 14).take 4 ++ (cs.drop 19).take 4 ++
    cs.drop 24
  if hyphenate digits = cs then ofHex? digits else none

/-- Digits alone, five groups, five groups in braces, or five groups behind `urn:uuid:`. -/
def ofChars? (cs : List Char) : Option Uuid :=
  match cs.length with
  | 32 => ofHex? cs
  | 36 => ofHyphenated? cs
  | 38 => if cs.head? = some '\x7b' ∧ cs.getLast? = some '\x7d' then
      ofHyphenated? (cs.drop 1).dropLast else none
  | 45 => if cs.take 9 = "urn:uuid:".toList then ofHyphenated? (cs.drop 9) else none
  | _ => none

/-! ## The loose reading -/

/-- A text without its first `skip` characters and without the occurrences of a pattern that follow,
found from left to right. -/
def withoutFrom (pattern : List Char) : (skip : Nat) → List Char → List Char
  | _, [] => []
  | skip + 1, _ :: rest => withoutFrom pattern skip rest
  | 0, c :: rest =>
    if pattern.isPrefixOf (c :: rest) then withoutFrom pattern (pattern.length - 1) rest
    else c :: withoutFrom pattern 0 rest

/-- A text without the occurrences of a pattern. -/
def without (pattern : String) (cs : List Char) : List Char :=
  withoutFrom pattern.toList 0 cs

/-- The blanks that may surround an integer. -/
def isPadding (c : Char) : Bool :=
  c = ' ' || (0x09 ≤ c.toNat && c.toNat ≤ 0x0D)

/-- The digits behind an optional sign and an optional mark of the base. -/
def unsigned (cs : List Char) : List Char :=
  let cs := if cs.head? = some '+' ∨ cs.head? = some '-' then cs.drop 1 else cs
  match cs with
  | '0' :: 'x' :: rest | '0' :: 'X' :: rest => if rest.head? = some '_' then rest.drop 1 else rest
  | _ => cs

/-- Whether underscores stand only one at a time and between two other characters. -/
def separatorsOk : List Char → Bool
  | [] => true
  | [c] => c ≠ '_'
  | '_' :: '_' :: _ => false
  | _ :: rest => separatorsOk rest

/--
The integer that a text spells in base sixteen: blanks around it, a sign, a mark `0x` of the base
and single underscores between the digits are allowed. In a text beyond ASCII, every blank counts
as padding that is itself beyond ASCII.
-/
def looseNumber? (cs : List Char) : Option Nat :=
  let padding (c : Char) : Bool := isPadding c || (0x80 ≤ c.toNat && Text.isWhiteSpace c)
  let digits := unsigned (Text.trimChars padding cs)
  if digits = [] ∨ digits.head? = some '_' ∨ !separatorsOk digits then none
  else Text.hexNumber? (digits.filter (· ≠ '_'))

/--
The identifier in a text of thirty-two characters, once the marks `urn:` and `uuid:`, surrounding
braces and all hyphens are gone.
-/
def ofLooseChars? (cs : List Char) : Option Uuid :=
  let bare := Text.trimChars (fun c => c = '\x7b' || c = '\x7d')
    (without "uuid:" (without "urn:" cs))
  let bare := bare.filter (· ≠ '-')
  if bare.length = 32 then
    (looseNumber? bare).bind fun n => if h : n < Nat.pow 2 128 then some ⟨n, h⟩ else none
  else none

end Uuid

end GameLobby
