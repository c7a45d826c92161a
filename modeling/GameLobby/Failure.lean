import GameLobby.Lobby
import GameLobby.Text.Quoted

/-!
# Failures

An operation ends either in a value or in a `Failure`. A `Refusal` is a failure that the rules of
lobbies foresee: it has a class, which fixes its kind and its machine-readable code, and a message
for people. The other failures come from the store, from the clock or from a value that is out of
place.
-/

namespace GameLobby

/-! ## Refusals -/

/-- The kinds of refusals. -/
inductive RefusalKind where
  | validation
  | unauthorized
  | forbidden
  | notFound
  | conflict
  | internal
  deriving DecidableEq, Repr

/-- The text of a kind. -/
def RefusalKind.label : RefusalKind → String
  | validation => "validation"
  | unauthorized => "unauthorized"
  | forbidden => "forbidden"
  | notFound => "not_found"
  | conflict => "conflict"
  | internal => "internal"

/-- The classes of refusals. -/
inductive RefusalClass where
  | lobby
  | validation
  | invalidJoinCode
  | cannotKickSelf
  | unauthorized
  | forbidden
  | lobbyNotFound
  | playerNotInLobby
  | playerNotFound
  | lobbyNotJoinable
  | lobbyFull
  | alreadyInLobby
  | duplicateJoinCode
  | joinCode
  | joinCodeCollision
  | joinCodeLookup
  deriving DecidableEq, Repr

namespace RefusalClass

/-- All classes. -/
def all : List RefusalClass := [lobby, validation, invalidJoinCode, cannotKickSelf, unauthorized,
  forbidden, lobbyNotFound, playerNotInLobby, playerNotFound, lobbyNotJoinable, lobbyFull,
  alreadyInLobby, duplicateJoinCode, joinCode, joinCodeCollision, joinCodeLookup]

/-- A class and the more general ones, up to the most general. -/
def lineage (c : RefusalClass) : List RefusalClass :=
  match c with
  | lobby => [lobby]
  | invalidJoinCode | cannotKickSelf => [c, validation, lobby]
  | joinCodeCollision | joinCodeLookup => [c, joinCode, lobby]
  | _ => [c, lobby]

/-- The kind of a class. -/
def kind : RefusalClass → RefusalKind
  | validation | invalidJoinCode | cannotKickSelf => .validation
  | unauthorized => .unauthorized
  | forbidden => .forbidden
  | lobbyNotFound | playerNotInLobby | playerNotFound => .notFound
  | lobbyNotJoinable | lobbyFull | alreadyInLobby | duplicateJoinCode => .conflict
  | lobby | joinCode | joinCodeCollision | joinCodeLookup => .internal

/-- The machine-readable code of a class. -/
def code : RefusalClass → String
  | validation | invalidJoinCode => "bad_request"
  | cannotKickSelf => "cannot_kick_self"
  | unauthorized => "unauthorized"
  | forbidden => "forbidden"
  | lobbyNotFound => "not_found"
  | playerNotInLobby => "player_not_in_lobby"
  | playerNotFound => "player_not_found"
  | lobbyNotJoinable => "lobby_not_joinable"
  | lobbyFull => "lobby_full"
  | alreadyInLobby => "already_in_lobby"
  | duplicateJoinCode => "duplicate_join_code"
  | lobby | joinCode | joinCodeCollision | joinCodeLookup => "internal_error"

/-- The message of a class, where no other is given. -/
def message : RefusalClass → String
  | lobby => "Internal server error"
  | validation => "Invalid request"
  | invalidJoinCode => "Join code must be exactly 6 characters"
  | cannotKickSelf => "Cannot kick yourself"
  | unauthorized => "Missing authentication headers"
  | forbidden => "Forbidden"
  | lobbyNotFound => "Lobby not found"
  | playerNotInLobby => "Target user is not in the lobby"
  | playerNotFound => "Player not found in lobby"
  | lobbyNotJoinable => "Cannot join lobby - game already started"
  | lobbyFull => "Lobby has reached maximum capacity"
  | alreadyInLobby => "You are already in this lobby"
  | duplicateJoinCode => "Join code already in use, please retry"
  | joinCode | joinCodeCollision | joinCodeLookup => "Failed to generate join code"

end RefusalClass

/-! ## Failures of every kind -/

/-- The kinds of failures, refusals by class. -/
inductive FailureKind where
  | refusal (c : RefusalClass)
  | constraint
  | database
  | timeout
  | value
  | runtime
  | connection
  | encoding
  | attribute
  | operand
  deriving DecidableEq, Repr

/-- A refusal: its class, its message and the kind of the failure that brought it about. -/
structure Refusal where
  refusalClass : RefusalClass
  message : Text
  cause : Option FailureKind
  deriving DecidableEq, Repr

/-- The refusal of a class with that class's message. -/
def RefusalClass.refusal (c : RefusalClass) : Refusal :=
  ⟨c, c.message, none⟩

/-- The refusal of a class with a message of its own. -/
def RefusalClass.saying (c : RefusalClass) (message : Text) : Refusal :=
  ⟨c, message, none⟩

/-- The tables of the store. -/
inductive Table where
  | users
  | lobbies
  | members
  deriving DecidableEq, Repr

/-- The name of a table. -/
def Table.name : Table → String
  | users => "users"
  | lobbies => "lobbies"
  | members => "lobby_members"

/-- A rule that a table imposes on its rows. -/
inductive Constraint where
  | unique (table : Table) (column : String)
  | notNull (table : Table) (column : String)
  deriving DecidableEq, Repr

/-- The text by which the store reports a broken rule. -/
def Constraint.message : Constraint → String
  | unique table column => "UNIQUE constraint failed: " ++ table.name ++ "." ++ column
  | notNull table column => "NOT NULL constraint failed: " ++ table.name ++ "." ++ column

/-- The answers that an operation cannot do without. -/
inductive Need where
  | newLobby
  | activeCount
  deriving DecidableEq, Repr

/-- Why an operation fails. -/
inductive Failure where
  /-- The rules of lobbies refuse it. -/
  | refused (r : Refusal)
  /-- A row would break a rule of its table. -/
  | broken (c : Constraint)
  /-- A table that is needed is missing. -/
  | missingTable (table : Table)
  /-- The store reports a fault; its log has more to say than its message. -/
  | faulty (message log : Text)
  /-- The deadline has passed, or something waited in vain. -/
  | timedOut (message : Text)
  /-- A lobby is stored at a stage that does not exist. -/
  | unknownStatus (label : Text)
  /-- No attempt to find a join code is allowed. -/
  | noAttempts
  /-- A text with surrogates at these positions cannot be stored. -/
  | unencodable (first last : Nat) (point : CodePoint)
  /-- A value is out of place. -/
  | invalid (message : Text)
  /-- Something else went wrong. -/
  | crashed (message : Text)
  /-- A connection broke. -/
  | disconnected (message : Text)
  /-- The store gave no answer where one is needed. -/
  | unanswered (need : Need)
  deriving DecidableEq, Repr

namespace Failure

/-- The kind of a failure. -/
def kind : Failure → FailureKind
  | refused r => .refusal r.refusalClass
  | broken _ => .constraint
  | missingTable _ | faulty _ _ => .database
  | timedOut _ => .timeout
  | unknownStatus _ | noAttempts | invalid _ => .value
  | unencodable _ _ _ => .encoding
  | crashed _ => .runtime
  | disconnected _ => .connection
  | unanswered .newLobby => .attribute
  | unanswered .activeCount => .operand

/-- Where an unencodable text has its surrogates. -/
def surrogateMessage (first last : Nat) (point : CodePoint) : Text :=
  if first = last then
    ("'utf-8' codec can't encode character '" : Text) ++ (Text.numbered point.value).map .scalar ++
      (s!"' in position {first}: surrogates not allowed" : Text)
  else
    (s!"'utf-8' codec can't encode characters in position {first}-{last}: surrogates not allowed" :
      Text)

/-- The message of a failure. -/
def message : Failure → Text
  | refused r => r.message
  | broken c => c.message
  | missingTable table => "no such table: " ++ table.name
  | faulty message _ => message
  | timedOut message => message
  | unknownStatus label => label.quoted ++ " is not a valid LobbyStatus"
  | noAttempts => "max_retries must be at least 1"
  | unencodable first last point => surrogateMessage first last point
  | invalid message => message
  | crashed message => message
  | disconnected message => message
  | unanswered .newLobby => "'NoneType' object has no attribute 'id'"
  | unanswered .activeCount => "'>=' not supported between instances of 'NoneType' and 'int'"

/-- What a failure leaves in a log. -/
def log : Failure → Text
  | faulty _ log => log
  | f => f.message

end Failure

end GameLobby
