import GameLobby.Json

/-!
# Writing JSON

A value is written without any space. The two styles differ in the code points beyond ASCII: `plain`
leaves them as they are, and `ascii` writes each as one or two escapes of a sixteen-bit unit.
-/

namespace GameLobby.Json

/-- How code points beyond ASCII are written. -/
inductive Style where
  | plain
  | ascii
  deriving DecidableEq, Repr

/-- An escape of a sixteen-bit unit. -/
def unitEscape (n : Nat) : Text :=
  ['\\', 'u'].map .scalar ++ (Text.hexDigits 4 n).map .scalar

/-- A character inside a string. -/
def writeChar (style : Style) (c : Char) : Text :=
  let n := c.toNat
  if c = '"' then "\\\"" else if c = '\\' then "\\\\"
  else if c = '\n' then "\\n" else if c = '\r' then "\\r" else if c = '\t' then "\\t"
  else if c = '\x08' then "\\b" else if c = '\x0c' then "\\f"
  else if n < 0x20 then unitEscape n
  else if style = .plain ∨ n < 0x7F then [.scalar c]
  else if n < 0x10000 then unitEscape n
  else unitEscape (0xD800 + (n - 0x10000) / 0x400) ++ unitEscape (0xDC00 + (n - 0x10000) % 0x400)

/-- A code point inside a string. -/
def writePoint (style : Style) : CodePoint → Text
  | .scalar c => writeChar style c
  | .surrogate n => if style = .plain then [.surrogate n] else unitEscape (0xD800 + n)

/-- A string between its quotes. -/
def writeString (style : Style) (t : Text) : Text :=
  .scalar '"' :: t.flatMap (writePoint style) ++ [.scalar '"']

mutual

/-- A value, without any space. -/
def write (style : Style) : Json → Text
  | null => "null"
  | bool b => if b then "true" else "false"
  | int n => toString n
  | float .nan => "NaN"
  | float (.infinite negative) => if negative then "-Infinity" else "Infinity"
  | float x => x.text
  | str t => writeString style t
  | arr items => .scalar '[' :: writeItems style items ++ [.scalar ']']
  | obj members => .scalar '\x7b' :: writeMembers style members ++ [.scalar '\x7d']

/-- The items of an array, with commas between them. -/
def writeItems (style : Style) : List Json → Text
  | [] => []
  | [v] => write style v
  | v :: rest => write style v ++ .scalar ',' :: writeItems style rest

/-- The members of an object, with commas between them. -/
def writeMembers (style : Style) : List (Text × Json) → Text
  | [] => []
  | [(name, v)] => writeString style name ++ .scalar ':' :: write style v
  | (name, v) :: rest =>
    writeString style name ++ .scalar ':' :: write style v ++ .scalar ',' :: writeMembers style rest

end

end GameLobby.Json
