import GameLobby.Schema

/-!
# Statements on layouts

A statement creates or drops a table or an index. It can be carried out on a list of layouts, where
it fails if what it creates is there or what it drops is not, and it can be written down for either
kind of database.
-/

namespace GameLobby.Schema

/-- A statement. An index belongs to the table that it is on. -/
inductive Statement where
  | createTable (t : Layout)
  | createIndex (table : String) (i : Index)
  | dropIndex (name : String)
  | dropTable (name : String)
  deriving DecidableEq, Repr

/-- The statements that create a table and then its indexes. -/
def Layout.create (t : Layout) : List Statement :=
  .createTable { t with indexes := [] } :: t.indexes.map (.createIndex t.name)

/-- The statements that drop the indexes of a table, the last one first, and then the table. -/
def Layout.drop (t : Layout) : List Statement :=
  t.indexes.reverse.map (fun i => .dropIndex i.name) ++ [.dropTable t.name]

namespace Statement

/-! ## Carrying out -/

/-- The layouts after a statement, or the report of the database. -/
def run (ts : List Layout) : Statement → Except String (List Layout)
  | createTable t =>
    if ts.any (·.name = t.name) then .error ("table " ++ t.name ++ " already exists")
    else .ok (ts ++ [t])
  | createIndex table i =>
    if ts.any fun t => t.indexes.any (·.name = i.name) then
      .error ("index " ++ i.name ++ " already exists")
    else if ts.any (·.name = table) then
      .ok (ts.map fun t => if t.name = table then { t with indexes := t.indexes ++ [i] } else t)
    else .error ("no such table: main." ++ table)
  | dropIndex name =>
    if ts.any fun t => t.indexes.any (·.name = name) then
      .ok (ts.map fun t => { t with indexes := t.indexes.filter (·.name ≠ name) })
    else .error ("no such index: " ++ name)
  | dropTable name =>
    if ts.any (·.name = name) then .ok (ts.filter (·.name ≠ name))
    else .error ("no such table: " ++ name)

/-- The layouts after statements, and the first report of a failure. -/
def runAll (ts : List Layout) : List Statement → List Layout × Option String
  | [] => (ts, none)
  | s :: rest =>
    match s.run ts with
    | .ok ts => runAll ts rest
    | .error report => (ts, some report)

/-! ## Writing down -/

/-- A column inside the statement that creates its table. -/
def columnText (d : Dialect) (c : Column) : String :=
  c.name ++ " " ++ c.type.name d ++
    ((c.default.map fun e => " DEFAULT " ++ e.expression d).getD "") ++
    (if c.nullable then "" else " NOT NULL")

/-- The parts of the statement that creates a table. -/
def partTexts (d : Dialect) (t : Layout) : List String :=
  t.columns.map (columnText d) ++ ["PRIMARY KEY (" ++ t.primaryKey ++ ")"] ++
    t.foreignKeys.map (fun k => "FOREIGN KEY(" ++ k.column ++ ") REFERENCES " ++ k.table ++
      " (id) ON DELETE CASCADE") ++
    t.uniques.map fun u => "CONSTRAINT " ++ u.name ++ " UNIQUE (" ++ u.column ++ ")"

/-- The lines of a list of parts, with a comma behind each but the last. -/
def partLines : List String → List String
  | [] => []
  | [p] => ["    " ++ p]
  | p :: rest => ("    " ++ p ++ ", ") :: partLines rest

/-- The lines of a statement that creates a table. -/
def tableLines (name : String) (parts : List String) : List String :=
  ("CREATE TABLE " ++ name ++ " (") :: partLines parts ++ [");"]

/-- The lines of a statement. -/
def lines (d : Dialect) : Statement → List String
  | createTable t => tableLines t.name (partTexts d t)
  | createIndex table i =>
      ["CREATE INDEX " ++ i.name ++ " ON " ++ table ++ " (" ++ i.column ++ ");"]
  | dropIndex name => ["DROP INDEX " ++ name ++ ";"]
  | dropTable name => ["DROP TABLE " ++ name ++ ";"]

end Statement

end GameLobby.Schema
