import GameLobby.Form
import GameLobby.Http.Message
import GameLobby.Json.Reader

/-!
# Request bodies

A body is read as JSON only when its content type says so; any other body is a value that no field
can be read from. A body that is not well-formed JSON is an invalid request like any other, but one
that cannot be decoded, nests too deeply or holds an endless integer is not even looked at.
-/

namespace GameLobby.Http

/-- The limits on request bodies. -/
def bodyLimits : Json.Limits := ⟨950, 4300⟩

/-- What a body holds. -/
inductive Body where
  | absent
  | json (v : Json)
  | other

/-- Why a body is not read. -/
inductive BodyFault where
  | malformed
  | unreadable
  deriving DecidableEq, Repr

/-- The response to a body that is not looked at. -/
def unreadableBody : Response :=
  .detail 400 "There was an error parsing the body"

/-- Whether a content type is that of JSON. -/
def isJsonType (contentType : Text) : Bool :=
  let kind := (lower (contentType.takeWhile (· ≠ .scalar ';'))).trim fun
    | .scalar c => Text.isBlank c
    | .surrogate _ => false
  let main := kind.takeWhile (· ≠ .scalar '/')
  let sub := (kind.dropWhile (· ≠ .scalar '/')).drop 1
  let suffix : Text := "+json"
  main = ("application" : Text) &&
    (sub = ("json" : Text) || (suffix.isSuffixOf sub && !sub.contains (.scalar '/')))

/-- The body of a request. -/
def readBody (r : Request) : Except BodyFault Body :=
  if r.body = [] then .ok .absent
  else if !((header? r.headers "content-type").map isJsonType).getD false then .ok .other
  else match Text.ofDocument? r.body with
    | none => .error .unreadable
    | some t =>
      match Json.read bodyLimits t with
      | .ok v => .ok (.json v)
      | .error .malformed => .error .malformed
      | .error .tooDeep | .error .tooManyDigits => .error .unreadable

/-! ## The three bodies -/

/-- The code in a body that joins a lobby. -/
def joinCode (v : Json) : Except (String × Issue) Text :=
  Form.field v "joinCode" "join_code" Form.text

/-- The user in a body that kicks a player. -/
def targetUser (v : Json) : Except (String × Issue) Uuid :=
  Form.field v "targetUserId" "target_user_id" Form.uuid

/-- The flag in a body that sets a membership active or not. -/
def activeFlag (v : Json) : Except (String × Issue) Bool :=
  Form.field v "isActive" "is_active" Form.flag

/-- What a reader finds in a body, if it finds it. -/
def Body.read {α : Type} (b : Body) (reader : Json → Except (String × Issue) α) : Option α :=
  match b with
  | .json v => (reader v).toOption
  | .absent | .other => none

end GameLobby.Http
