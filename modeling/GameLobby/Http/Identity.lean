import GameLobby.Http.Message
import GameLobby.Settings

/-!
# The identity behind a request

The gateway in front of the application puts the identity of the player into two headers. Their
names are settings. The user name is trimmed and may have twenty characters at most.
-/

namespace GameLobby.Http

/-- The greatest number of characters in a user name. -/
def maxNameLength : Nat := 20

/-- Whether a code point is blank. -/
def isBlankPoint : CodePoint → Bool
  | .scalar c => Text.isBlank c
  | .surrogate _ => false

/-- The refusal of a request without an identity. -/
def missingIdentity (s : Settings) : Refusal :=
  RefusalClass.unauthorized.saying
    (("Missing required headers: " : Text) ++ s.userIdHeader ++ (" and " : Text) ++
      s.usernameHeader)

/-- The refusal of a user identifier that is none. -/
def invalidUserId : Refusal :=
  ⟨.validation, "Invalid user ID format", some .value⟩

/-- The refusal of a long user name. -/
def longName : Refusal :=
  RefusalClass.validation.saying "Username must be at most 20 characters"

/-- The identifier in a header. -/
def looseUuid? (t : Text) : Option Uuid :=
  t.toChars?.bind Uuid.ofLooseChars?

/-- The caller that the headers of a request name. A header is looked up by a name of one byte to a
character. With any other name in the settings the look-up fails with what nothing foresees; here
the identity is missing then. -/
def caller (s : Settings) (headers : Headers) : Except Refusal Caller :=
  let userId := (header? headers s.userIdHeader).getD []
  let name := ((header? headers s.usernameHeader).getD []).trim isBlankPoint
  if userId = [] ∨ name = [] then .error (missingIdentity s)
  else match looseUuid? userId with
    | none => .error invalidUserId
    | some id => if maxNameLength < name.length then .error longName else .ok ⟨id, name⟩

end GameLobby.Http
