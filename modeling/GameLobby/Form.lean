import GameLobby.Json
import GameLobby.Text.Blank
import GameLobby.Uuid

/-!
# Reading fields

Settings and request bodies are JSON values from which typed fields are read. A reader takes the
values that plainly mean a value of its type (the text `off` is a flag, the number `6.0` an integer)
and names an issue with any other. A form reports all issues of its fields in their order.
-/

namespace GameLobby

/-- What is wrong with a value. -/
inductive Issue where
  | missing
  | notObject
  | notText
  | unreadableText
  | notFlag
  | noFlagText
  | notUuid
  | noUuidText
  | notInteger
  | noIntegerText
  | integerTooLong
  | hasFraction
  | notFinite
  | notNumber
  | noNumberText
  deriving DecidableEq, Repr

/-- The code of an issue. -/
def Issue.code : Issue → String
  | missing => "missing"
  | notObject => "model_type"
  | notText => "string_type"
  | unreadableText => "string_unicode"
  | notFlag => "bool_type"
  | noFlagText => "bool_parsing"
  | notUuid => "uuid_type"
  | noUuidText => "uuid_parsing"
  | notInteger => "int_type"
  | noIntegerText => "int_parsing"
  | integerTooLong => "int_parsing_size"
  | hasFraction => "int_from_float"
  | notFinite => "finite_number"
  | notNumber => "float_type"
  | noNumberText => "float_parsing"

namespace Form

/-- The least integer of sixty-four bits with its sign. -/
def leastWord : Int := -0x8000000000000000

/-- Whether an integer has sixty-four bits with its sign. -/
def isWord (n : Int) : Bool :=
  leastWord ≤ n && n < -leastWord

/-- The characters of a text, which may not hold surrogates. -/
def characters (t : Text) : Except Issue (List Char) :=
  match t.toChars? with
  | some cs => .ok cs
  | none => .error .unreadableText

/-- A text. -/
def text : Json → Except Issue Text
  | .str t => .ok t
  | _ => .error .notText

/-! ## Flags -/

/-- A word in lower case. -/
def lower (cs : List Char) : String :=
  String.ofList (cs.map Char.toLower)

/-- The flag that a word stands for, in any case. -/
def flagWord? (cs : List Char) : Option Bool :=
  let word := lower cs
  if ["1", "on", "t", "true", "y", "yes"].contains word then some true
  else if ["0", "off", "f", "false", "n", "no"].contains word then some false
  else none

/-- The flag that an integer stands for. -/
def flagNumber (n : Int) : Except Issue Bool :=
  if n = 0 then .ok false else if n = 1 then .ok true else .error .noFlagText

/-- An integral number short enough for a word; the least word is left out. -/
def wordOf? (x : Binary64) : Option Int :=
  x.integer?.filter fun n => isWord n && n != leastWord

/-- A flag. -/
def flag : Json → Except Issue Bool
  | .bool b => .ok b
  | .str t => do
    match flagWord? (← characters t) with
    | some b => .ok b
    | none => .error .noFlagText
  | .int n => if isWord n then flagNumber n else .error .notFlag
  | .float x =>
    match wordOf? x with
    | some n => flagNumber n
    | none => .error .notFlag
  | _ => .error .notFlag

/-! ## Identifiers -/

/-- An identifier in one of its four shapes. -/
def uuidText (t : Text) : Except Issue Uuid := do
  match Uuid.ofChars? (← characters t) with
  | some u => .ok u
  | none => .error .noUuidText

/-- An identifier. -/
def uuid : Json → Except Issue Uuid
  | .str t => uuidText t
  | _ => .error .notUuid

/-! ## Numbers -/

/-- Whether every underscore stands alone between two other characters. -/
def underscoresOk (cs : List Char) : Bool :=
  cs.head? != some '_' && Uuid.separatorsOk cs

/-- Characters without underscores. -/
def withoutUnderscores (cs : List Char) : List Char :=
  cs.filter (· ≠ '_')

/-- The value of decimal digits, at least one. -/
def digits? (cs : List Char) : Option (List Nat) :=
  if cs = [] then none else cs.mapM Text.decimalDigit?

/-- A sign, and the characters behind it. -/
def sign (cs : List Char) : Bool × List Char :=
  match cs with
  | '-' :: rest => (true, rest)
  | '+' :: rest => (false, rest)
  | _ => (false, cs)

/-- The digits that are left without leading zeros, among which any underscores may stand; of zeros
alone the last character is left. -/
def significant (whole : List Char) : List Char :=
  match whole with
  | '0' :: _ =>
    match whole.dropWhile fun c => c = '0' || c = '_' with
    | [] => whole.getLast?.toList
    | rest => rest
  | _ => whole

/-- The greatest number of characters in a sign and the digits behind it. -/
def maxDigits : Nat := 4300

/-- An integer in decimal digits with a sign, with single underscores between digits, and with a
fraction of zeros. -/
def integerText (cs : List Char) : Except Issue Int :=
  let (negative, rest) := sign (Text.trimChars Text.isWhiteSpace cs)
  let whole := significant (rest.takeWhile (· ≠ '.'))
  let fraction := rest.dropWhile (· ≠ '.')
  let fractionOk := fraction = [] ∨ (fraction.length ≥ 2 ∧ (fraction.drop 1).all (· = '0'))
  let room := if negative then maxDigits - 1 else maxDigits
  if room < (whole.takeWhile Char.isDigit).length then .error .integerTooLong
  else if !fractionOk || !underscoresOk whole then .error .noIntegerText
  else match digits? (withoutUnderscores whole) with
    | none => .error .noIntegerText
    | some ds =>
      let size : Int := Binary64.ofDigits ds
      .ok (if negative then -size else size)

/-- An integer. -/
def integer : Json → Except Issue Int
  | .bool b => .ok (if b then 1 else 0)
  | .int n => .ok n
  | .float x =>
    match x.ratio?, x.integer?, wordOf? x with
    | none, _, _ => .error .notFinite
    | _, none, _ => .error .hasFraction
    | _, _, some n => .ok n
    | _, _, none => .error .integerTooLong
  | .str t => do integerText (← characters t)
  | _ => .error .notInteger

/-- The exponent behind the digits of a number, which may be missing. -/
def exponent? : List Char → Option Int
  | [] => some 0
  | c :: rest =>
    if c = 'e' ∨ c = 'E' then
      let (negative, rest) := sign rest
      (digits? rest).map fun ds =>
        let size : Int := Binary64.ofDigits ds
        if negative then -size else size
    else none

/-- A number in decimal digits with a point and an exponent, or one of the three words. -/
def numberChars? (cs : List Char) : Option Binary64 :=
  let (negative, rest) := sign cs
  let word := lower rest
  if word = "inf" ∨ word = "infinity" then some (.infinite negative)
  else if word = "nan" then some .nan
  else
    let whole := rest.takeWhile Char.isDigit
    let rest := rest.dropWhile Char.isDigit
    let (fraction, rest) : List Char × List Char :=
      match rest with
      | '.' :: rest => (rest.takeWhile Char.isDigit, rest.dropWhile Char.isDigit)
      | _ => ([], rest)
    match digits? (whole ++ fraction), exponent? rest with
    | some ds, some e => some (Binary64.ofDecimal negative ds (e - fraction.length))
    | _, _ => none

/-- A number, once blanks around it are gone, or else once single underscores in it are. -/
def numberText (cs : List Char) : Except Issue Binary64 :=
  match numberChars? (Text.trimChars Text.isWhiteSpace cs) with
  | some x => .ok x
  | none =>
    match if underscoresOk cs then numberChars? (withoutUnderscores cs) else none with
    | some x => .ok x
    | none => .error .noNumberText

/-- A floating-point number. -/
def number : Json → Except Issue Binary64
  | .bool b => .ok (.ofInt (if b then 1 else 0))
  | .int n =>
    match Binary64.ofInt n with
    | .infinite _ => .error .notNumber
    | x => .ok x
  | .float x => .ok x
  | .str t => do numberText (← characters t)
  | _ => .error .notNumber

/-! ## Fields of an object -/

/-- A field under its public name, or else under its plain name. -/
def field {α : Type} (v : Json) (name plain : String) (read : Json → Except Issue α) :
    Except (String × Issue) α :=
  match v with
  | .obj _ =>
    match v.get? name, v.get? plain with
    | some w, _ => (read w).mapError (name, ·)
    | none, some w => (read w).mapError (plain, ·)
    | none, none => .error (name, .missing)
  | _ => .error ("", .notObject)

end Form

end GameLobby
