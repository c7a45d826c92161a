import GameLobby.Text.Hex
import GameLobby.Text.Printable

/-!
# Quoted texts

Messages that echo a value put a text between quotes. The quote is the apostrophe, unless the text
holds an apostrophe and no double quote. A backslash stands before a backslash and before the quote;
a code point that is not printable is written by its number.
-/

namespace GameLobby.Text

/-- A code point written by its number, in two, four or eight digits. -/
def numbered (n : Nat) : List Char :=
  if n < 0x100 then ['\\', 'x'] ++ hexDigits 2 n
  else if n < 0x10000 then ['\\', 'u'] ++ hexDigits 4 n
  else ['\\', 'U'] ++ hexDigits 8 n

/-- One code point between two quotes. -/
def quotePoint (quote : Char) (p : CodePoint) : List Char :=
  match p with
  | .surrogate _ => numbered p.value
  | .scalar c =>
    if c = quote ∨ c = '\\' then ['\\', c]
    else if c = '\t' then ['\\', 't']
    else if c = '\n' then ['\\', 'n']
    else if c = '\r' then ['\\', 'r']
    else if isPrintable c.toNat then [c]
    else numbered c.toNat

/-- A text between quotes. -/
def quoted (t : Text) : String :=
  let quote := if t.contains (.scalar '\'') && !t.contains (.scalar '"') then '"' else '\''
  String.ofList ([quote] ++ t.flatMap (quotePoint quote) ++ [quote])

end GameLobby.Text
