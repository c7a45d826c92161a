import GameLobby.Text.Blank

/-!
# Environment files

An environment file gives values to names, one binding on a line, as a shell would read them: a
value may stand in single or double quotes and then run over several lines, a comment starts with
`#`, and a line that is no binding is passed over. A value may refer to earlier ones and to the
environment by `$` and a name in braces, with a default for a name that has no value.
-/

namespace GameLobby.EnvFile

/-- A blank inside a line. -/
def isInlineBlank (c : Char) : Bool :=
  Text.isBlank c && c != '\n' && c != '\r'

/-- Whether a character ends a line. -/
def isLineEnd (c : Char) : Bool :=
  c = '\n' || c = '\r'

/-- The characters behind leading blanks of a line. -/
def skipBlanks (cs : List Char) : List Char :=
  cs.dropWhile isInlineBlank

/-- The lines of a file, whose ends are all written `\n`. -/
def unifyLineEnds : List Char → List Char
  | [] => []
  | '\r' :: '\n' :: rest => '\n' :: unifyLineEnds rest
  | '\r' :: rest => '\n' :: unifyLineEnds rest
  | c :: rest => c :: unifyLineEnds rest

/-! ## The parts of a binding -/

/-- The characters behind the word `export` and blanks, if they start with these. -/
def skipExport (cs : List Char) : List Char :=
  let word := "export".toList
  if word.isPrefixOf cs ∧ ((cs.drop word.length).head?.map isInlineBlank).getD false then
    skipBlanks (cs.drop word.length)
  else cs

/-- A name and what follows it. A comment has no name, and `none` means that no name can be read. -/
def name? (cs : List Char) : Option (Option (List Char) × List Char) :=
  match cs with
  | '#' :: _ => some (none, cs)
  | '\'' :: rest =>
    let name := rest.takeWhile (· ≠ '\'')
    match rest.dropWhile (· ≠ '\'') with
    | '\'' :: rest => if name = [] then none else some (some name, rest)
    | _ => none
  | _ =>
    let inName (c : Char) : Bool := c != '=' && c != '#' && !Text.isBlank c
    let name := cs.takeWhile inName
    if name = [] then none else some (some name, cs.dropWhile inName)

/--
The characters up to the closing quote, latest first, and what follows it. A quote behind a
backslash closes nothing, unless no other quote does; then the last such quote closes.
-/
def quotedFrom (quote : Char) (read : List Char) (fallback : Option (List Char × List Char)) :
    List Char → Option (List Char × List Char)
  | [] => fallback
  | [c] => if c = quote then some (read, []) else fallback
  | c :: d :: rest =>
    if c = quote then some (read, d :: rest)
    else if c = '\\' ∧ d = quote then
      quotedFrom quote (d :: c :: read) (some (c :: read, rest)) rest
    else quotedFrom quote (c :: read) fallback (d :: rest)

/-- The character that a letter behind a backslash stands for in double quotes. -/
def doubleEscape? (c : Char) : Option Char :=
  if c = '\\' ∨ c = '\'' ∨ c = '"' then some c
  else if c = 'a' then some '\x07'
  else if c = 'b' then some '\x08'
  else if c = 'f' then some '\x0c'
  else if c = 'n' then some '\n'
  else if c = 'r' then some '\r'
  else if c = 't' then some '\t'
  else if c = 'v' then some '\x0b'
  else none

/-- The character that a letter behind a backslash stands for in single quotes. -/
def singleEscape? (c : Char) : Option Char :=
  if c = '\\' ∨ c = '\'' then some c else none

/-- A quoted value with its escapes replaced. -/
def unescape (escape? : Char → Option Char) : List Char → List Char
  | [] => []
  | [c] => [c]
  | c :: d :: rest =>
    match if c = '\\' then escape? d else none with
    | some e => e :: unescape escape? rest
    | none => c :: unescape escape? (d :: rest)

/-- A value up to the first comment that stands behind a blank. -/
def withoutComment (afterBlank : Bool) : List Char → List Char
  | [] => []
  | c :: rest =>
    if afterBlank ∧ c = '#' then [] else c :: withoutComment (Text.isBlank c) rest

/-- Characters without trailing blanks. -/
def trimEnd (cs : List Char) : List Char :=
  (cs.reverse.dropWhile Text.isBlank).reverse

/-- A value and what follows it. -/
def value? (cs : List Char) : Option (List Char × List Char) :=
  match cs with
  | '\'' :: rest =>
    (quotedFrom '\'' [] none rest).map fun (v, rest) => (unescape singleEscape? v.reverse, rest)
  | '"' :: rest =>
    (quotedFrom '"' [] none rest).map fun (v, rest) => (unescape doubleEscape? v.reverse, rest)
  | _ =>
    some (trimEnd (withoutComment false (cs.takeWhile (!isLineEnd ·))),
      cs.dropWhile (!isLineEnd ·))

/-- What follows a comment, if there is one. -/
def skipComment (cs : List Char) : List Char :=
  match skipBlanks cs with
  | '#' :: rest => rest.dropWhile (!isLineEnd ·)
  | _ => cs

/-- What follows the end of the line, if the line ends here. -/
def lineEnd? (cs : List Char) : Option (List Char) :=
  match skipBlanks cs with
  | [] => some []
  | '\n' :: rest => some rest
  | _ => none

/-- What follows the line. -/
def nextLine (cs : List Char) : List Char :=
  (cs.dropWhile (!isLineEnd ·)).drop 1

/-! ## Bindings -/

/-- A name with its value, if it has one. -/
abbrev Binding := List Char × Option (List Char)

/-- The value behind a name and what follows it; without an equals sign there is no value. -/
def assigned? (cs : List Char) : Option (Option (List Char) × List Char) :=
  match cs with
  | '=' :: rest => (value? (skipBlanks rest)).map fun (v, rest) => (some v, rest)
  | _ => some (none, cs)

/-- The binding at the start of a text that starts with no blank, and what follows its line. -/
def binding (cs : List Char) : Option Binding × List Char :=
  let cs := skipExport cs
  match name? cs with
  | none => (none, nextLine cs)
  | some (name, cs) =>
    let cs := skipBlanks cs
    match assigned? cs with
    | none => (none, nextLine (skipBlanks (cs.drop 1)))
    | some (value, cs) =>
      let cs := skipComment cs
      match lineEnd? cs with
      | none => (none, nextLine cs)
      | some cs => (name.map (·, value), cs)

/-- The bindings of a text, of which at most a given number of lines are read. -/
def bindingsWithin : (lines : Nat) → List Char → List Binding
  | 0, _ => []
  | lines + 1, cs =>
    match cs.dropWhile Text.isBlank with
    | [] => []
    | cs =>
      let (b, rest) := binding cs
      b.toList ++ bindingsWithin lines rest

/-- The bindings of a text. -/
def bindings (cs : List Char) : List Binding :=
  let cs := unifyLineEnds cs
  bindingsWithin (cs.length + 1) cs

/-! ## References -/

/-- A reference to a name with a default. -/
structure Reference where
  name : List Char
  default : List Char

/-- The reference at the start of a text, and its length. -/
def reference? (cs : List Char) : Option (Reference × Nat) :=
  match cs with
  | '$' :: '\x7b' :: rest =>
    let inName (c : Char) : Bool := c != '\x7d' && c != ':'
    let name := rest.takeWhile inName
    match rest.dropWhile inName with
    | '\x7d' :: _ => some (⟨name, []⟩, name.length + 3)
    | ':' :: '-' :: rest =>
      let default := rest.takeWhile (· ≠ '\x7d')
      if rest.contains '\x7d' then some (⟨name, default⟩, name.length + default.length + 5)
      else none
    | _ => none
  | _ => none

/-- A text with its references replaced, without its first `skip` characters. -/
def expandFrom (resolve : Reference → List Char) : (skip : Nat) → List Char → List Char
  | _, [] => []
  | skip + 1, _ :: rest => expandFrom resolve skip rest
  | 0, c :: rest =>
    match reference? (c :: rest) with
    | some (r, length) => resolve r ++ expandFrom resolve (length - 1) rest
    | none => c :: expandFrom resolve 0 rest

/-- A list of bindings with one more; a name that is there keeps its place. -/
def put (b : Binding) : List Binding → List Binding
  | [] => [b]
  | (name, value) :: rest => if name = b.1 then b :: rest else (name, value) :: put b rest

/-- What a reference stands for: the value in the file, else the one in the environment, else the
default. -/
def resolve (environment : List (List Char × List Char)) (known : List Binding) (r : Reference) :
    List Char :=
  match known.lookup r.name with
  | some value => value.getD []
  | none => (environment.lookup r.name).getD r.default

/-- The values of a file in an environment, in the order in which their names first occur. -/
def values (environment : List (List Char × List Char)) (cs : List Char) : List Binding :=
  (bindings cs).foldl (fun known (name, value) =>
    put (name, value.map (expandFrom (resolve environment known) 0)) known) []

end GameLobby.EnvFile
