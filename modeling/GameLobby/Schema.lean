/-!
# The schema of the store

The store is laid out in three tables. A layout names the columns of a table with their types and
defaults and the constraints and indexes on them. The tables can be created in two ways: from the
model of the application, which fills in times and flags itself and so needs no defaults, and by the
migration, which gives the columns defaults for writers other than the application.
-/

namespace GameLobby.Schema

/-- The kinds of databases that a layout can be written for. -/
inductive Dialect where
  | sqlite
  | postgresql
  deriving DecidableEq, Repr

/-- The types of columns. -/
inductive ColumnType where
  | uuid
  | text (length : Nat)
  | time
  | flag
  deriving DecidableEq, Repr

/-- The name of a type. -/
def ColumnType.name (d : Dialect) : ColumnType → String
  | uuid =>
    match d with
    | .sqlite => "CHAR(32)"
    | .postgresql => "UUID"
  | text length => "VARCHAR(" ++ toString length ++ ")"
  | time =>
    match d with
    | .sqlite => "DATETIME"
    | .postgresql => "TIMESTAMP WITHOUT TIME ZONE"
  | flag => "BOOLEAN"

/-- The defaults of columns. -/
inductive Default where
  | now
  | literal (t : String)
  deriving DecidableEq, Repr

/-- The expression of a default. -/
def Default.expression (d : Dialect) : Default → String
  | now =>
    match d with
    | .sqlite => "CURRENT_TIMESTAMP"
    | .postgresql => "now()"
  | literal t => "'" ++ t ++ "'"

/-- A column. -/
structure Column where
  name : String
  type : ColumnType
  nullable : Bool := false
  default : Option Default := none
  deriving DecidableEq, Repr

/-- A column whose values are keys of another table. A row goes when the row that it refers to
goes. -/
structure ForeignKey where
  column : String
  table : String
  deriving DecidableEq, Repr

/-- An index on one column. -/
structure Index where
  name : String
  column : String
  deriving DecidableEq, Repr

/-- A constraint that the values of a column differ. -/
structure Unique where
  name : String
  column : String
  deriving DecidableEq, Repr

/-- The layout of a table. -/
structure Layout where
  name : String
  columns : List Column
  primaryKey : String
  foreignKeys : List ForeignKey := []
  uniques : List Unique := []
  indexes : List Index := []
  deriving DecidableEq, Repr

/-- The table of users. -/
def users (time : Option Default) : Layout where
  name := "users"
  columns := [⟨"id", .uuid, false, none⟩, ⟨"username", .text 20, false, none⟩,
    ⟨"created_at", .time, false, time⟩]
  primaryKey := "id"

/-- The table of lobbies. -/
def lobbies (time : Option Default) : Layout where
  name := "lobbies"
  columns := [⟨"id", .uuid, false, none⟩, ⟨"join_code", .text 6, false, none⟩,
    ⟨"leader_id", .uuid, false, none⟩, ⟨"status", .text 20, false, none⟩,
    ⟨"created_at", .time, false, time⟩, ⟨"updated_at", .time, false, time⟩]
  primaryKey := "id"
  foreignKeys := [⟨"leader_id", "users"⟩]
  uniques := [⟨"uq_lobbies_join_code", "join_code"⟩]
  indexes := [⟨"ix_lobbies_status", "status"⟩]

/-- The table of memberships. -/
def members (flag : Option Default) : Layout where
  name := "lobby_members"
  columns := [⟨"id", .uuid, false, none⟩, ⟨"lobby_id", .uuid, false, none⟩,
    ⟨"user_id", .uuid, false, none⟩, ⟨"joined_at", .time, false, none⟩,
    ⟨"is_active", .flag, false, flag⟩, ⟨"left_at", .time, true, none⟩]
  primaryKey := "id"
  foreignKeys := [⟨"lobby_id", "lobbies"⟩, ⟨"user_id", "users"⟩]
  indexes := [⟨"ix_lobby_members_lobby_id", "lobby_id"⟩, ⟨"ix_lobby_members_user_id", "user_id"⟩]

/-- The tables of the application's model. -/
def modelled : List Layout :=
  [users none, lobbies none, members none]

/-- The tables of the migration. -/
def migrated : List Layout :=
  [users (some .now), lobbies (some .now), members (some (.literal "true"))]

end GameLobby.Schema
