import GameLobby.Schema.Statement

/-!
# Migrations

A database records in a table of its own which revision its layout has. There is one revision, which
creates the three tables; the state before it is the base. A command moves a database to a revision,
up or down, or only records one. Every command can also be written down as a script instead of being
carried out; a script starts from a revision that is given with it.
-/

namespace GameLobby.Schema

/-- The name of the revision. -/
def revision : String := "001_create_lobby_schema"

/-- The name of the table that records the revision. -/
def versionTable : String := "alembic_version"

/-- The layout of the table that records the revision. -/
def versionLayout : Layout where
  name := versionTable
  columns := [⟨"version_num", .text 32, false, none⟩]
  primaryKey := "version_num"

/-- The statements of the revision. -/
def upgradeStatements : List Statement :=
  migrated.flatMap Layout.create

/-- The statements that undo the revision. -/
def downgradeStatements : List Statement :=
  migrated.reverse.flatMap Layout.drop

/-- A place in the history: before the revision, or behind it. -/
inductive Place where
  | base
  | head
  deriving DecidableEq, Repr

/-- The names of a place as the revision before or after a step. -/
def Place.revisions : Place → List String
  | .base => []
  | .head => [revision]

/-- Why a command is not carried out. -/
inductive CommandFault where
  | unknownRevision (name : String)
  | tooFar (steps : String) (count : Nat)
  | walkedTooFar
  | notBelow (name : String)
  | rangeOnline
  | rangeMissing
  | database (report : String)
  deriving DecidableEq, Repr

/-- The message about a command that is not carried out. -/
def CommandFault.message : CommandFault → String
  | unknownRevision name => "Can't locate revision identified by '" ++ name ++ "'"
  | tooFar steps count =>
    "Relative revision " ++ steps ++ " didn't produce " ++ toString count ++ " migrations"
  | walkedTooFar => "Walked too far"
  | notBelow name =>
    "Destination " ++ name ++ " is not a valid downgrade target from current head(s)"
  | rangeOnline => "Range revision not allowed"
  | rangeMissing => "downgrade with --sql requires <fromrev>:<torev>"
  | database report => report

/-! ## Targets -/

/-- The place that a name stands for; the beginning of a revision's name will do. -/
def placeNamed (name : String) : Except CommandFault Place :=
  if name = "base" then .ok .base
  else if name = "head" ∨ name = "heads" then .ok .head
  else if name ≠ "" ∧ name.toList.isPrefixOf revision.toList then .ok .head
  else .error (.unknownRevision name)

/-- A number of steps up or down, from a named place or else from the present one. -/
structure Walk where
  origin : String
  upward : Bool
  count : Nat
  deriving DecidableEq, Repr

/-- The steps as they were given, behind the name of the place. -/
def Walk.steps (w : Walk) : String :=
  (if w.upward then "+" else "-") ++ toString w.count

/-- The walk that a name spells: a word that may be empty, a sign and digits. -/
def walk? (name : String) : Option Walk :=
  let inWord (c : Char) : Bool := c.isAlphanum || c = '_'
  let origin := name.toList.takeWhile inWord
  match name.toList.dropWhile inWord with
  | sign :: digits =>
    if (sign = '+' ∨ sign = '-') ∧ digits.all Char.isDigit then
      (String.ofList digits).toNat?.map (⟨String.ofList origin, sign = '+', ·⟩)
    else none
  | [] => none

/-- The place that a walk leads to. -/
def Walk.from? (w : Walk) (place : Place) : Option Place :=
  match w.count, w.upward, place with
  | 0, _, _ => some place
  | 1, true, .base => some .head
  | 1, false, .head => some .base
  | _, _, _ => none

/-- The place that a walk leads to from the present one, which has to be another in the right
direction, or from the place that it names. -/
def Walk.target (w : Walk) (upward : Bool) (at_ : Place) : Except CommandFault Place :=
  if w.origin = "" then
    match w.from? at_ with
    | some place =>
      if w.upward = upward ∧ w.count ≠ 0 then .ok place else .error (.tooFar w.steps w.count)
    | none => .error (.tooFar w.steps w.count)
  else do
    match w.from? (← placeNamed w.origin) with
    | some place => .ok place
    | none => .error (if w.upward then .tooFar w.steps w.count else .walkedTooFar)

/-- The place to go up to. -/
def upgradeTarget (at_ : Place) (name : String) : Except CommandFault Place :=
  match walk? name with
  | some w => w.target true at_
  | none => placeNamed name

/-- The place to go down to. From the base there is nothing to drop on the way to a revision. -/
def downgradeTarget (at_ : Place) (name : String) : Except CommandFault Place := do
  let place ← match walk? name with
    | some w => w.target false at_
    | none => placeNamed name
  if at_ = .base ∧ place = .head then .error (.notBelow name) else .ok place

/-- The commands. -/
inductive Command where
  | upgrade
  | downgrade
  | stamp
  deriving DecidableEq, Repr

/-- The place that a command leads to. -/
def Command.target (c : Command) (at_ : Place) (name : String) : Except CommandFault Place :=
  match c with
  | .upgrade => (upgradeTarget at_ name).map fun place => if at_ = .head then .head else place
  | .downgrade => downgradeTarget at_ name
  | .stamp => placeNamed name

/-- The statements that a command carries out on its way between two places. -/
def Command.statements (c : Command) (start stop : Place) : List Statement :=
  match c, start, stop with
  | .upgrade, .base, .head => upgradeStatements
  | .downgrade, .head, .base => downgradeStatements
  | _, _, _ => []

/-! ## Carrying out -/

/-- A database: its layouts, among which the version table may be, and its place. -/
structure Deployment where
  layouts : List Layout
  place : Place
  deriving DecidableEq, Repr

/-- A database without tables. -/
def Deployment.empty : Deployment := ⟨[], .base⟩

/-- The database with a table for its revision. -/
def Deployment.withVersionTable (d : Deployment) : Deployment :=
  if d.layouts.any (·.name = versionTable) then d
  else { d with layouts := d.layouts ++ [versionLayout] }

/-- The database after a command, and the fault if there is one. -/
def Deployment.run (d : Deployment) (c : Command) (name : String) :
    Deployment × Option CommandFault :=
  if c ≠ .stamp ∧ name.toList.contains ':' then (d, some .rangeOnline)
  else
    let d := d.withVersionTable
    match c.target d.place name with
    | .error f => (d, some f)
    | .ok place =>
      match Statement.runAll d.layouts (c.statements d.place place) with
      | (layouts, none) => (⟨layouts, place⟩, none)
      | (layouts, some report) => ({ d with layouts }, some (.database report))

/-! ## Scripts -/

/-- The statement that creates the version table. -/
def versionLines : List String :=
  Statement.tableLines versionTable
    ["version_num VARCHAR(32) NOT NULL", "CONSTRAINT alembic_version_pkc PRIMARY KEY (version_num)"]

/-- The statement that records the revision. -/
def recordText (d : Dialect) : String :=
  "INSERT INTO alembic_version (version_num) VALUES ('" ++ revision ++ "') RETURNING " ++
    (match d with
      | .sqlite => "version_num"
      | .postgresql => "alembic_version.version_num") ++ ";"

/-- The statement that takes the record back. -/
def forgetText : String :=
  "DELETE FROM alembic_version WHERE alembic_version.version_num = '" ++ revision ++ "';"

/-- The word for a command in the heading of its step. -/
def Command.word : Command → String
  | upgrade => "upgrade"
  | downgrade => "downgrade"
  | stamp => "stamp_revision"

/-- The heading of a step. -/
def heading (c : Command) (start stop : Place) : String :=
  "-- Running " ++ c.word ++ " " ++ String.intercalate ", " start.revisions ++ " -> " ++
    String.intercalate ", " stop.revisions

/-- The paragraphs of a script that moves between two places. -/
def stepParagraphs (d : Dialect) (c : Command) (start stop : Place) : List (List String) :=
  if start = stop then []
  else
    (if start = .base then [versionLines] else []) ++ [[heading c start stop]] ++
      (c.statements start stop).map (Statement.lines d) ++
      [[if stop = .head then recordText d else forgetText]]

/-- The paragraphs of a script; a kind of database with transactions has one around it. -/
def scriptParagraphs (d : Dialect) (c : Command) (start stop : Place) : List (List String) :=
  let steps := stepParagraphs d c start stop
  match d with
  | .sqlite => steps
  | .postgresql => ["BEGIN;"] :: steps ++ [["COMMIT;"]]

/-- The start and the target that a range names. -/
def range (name : String) : Option String × String :=
  match name.splitOn ":" with
  | start :: rest@(_ :: _) => (some start, String.intercalate ":" rest)
  | _ => (none, name)

/-- The lines of the script of a command: an empty line follows each paragraph and the whole. -/
def script (d : Dialect) (c : Command) (name : String) : Except CommandFault (List String) := do
  let (start, target) := range name
  if c = .downgrade ∧ start = none then .error .rangeMissing
  else
    let start ← (start.map placeNamed).getD (.ok .base)
    let stop ← c.target start target
    .ok ((scriptParagraphs d c start stop).flatMap (· ++ [""]) ++ [""])

end GameLobby.Schema
