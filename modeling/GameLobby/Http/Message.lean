import GameLobby.Failure
import GameLobby.Json.Printer
import GameLobby.Text.Encoding

/-!
# Requests and responses

A request has been taken apart: its path is decoded, its header values are texts of one byte to a
character, its body is bytes. A response carries its body as a text. What an application does with a
request is either a response or a failure that nothing foresees; the client then sees a bare `500`.
-/

namespace GameLobby.Http

/-- The headers of a message. -/
abbrev Headers := List (Text × Text)

/-- A character in lower case, for the letters of the first 256 code points. -/
def lowerChar (c : Char) : Char :=
  let n := c.toNat
  if (0x41 ≤ n ∧ n ≤ 0x5A) ∨ (0xC0 ≤ n ∧ n ≤ 0xDE ∧ n ≠ 0xD7) then Char.ofNat (n + 0x20) else c

/-- A text in lower case. -/
def lower (t : Text) : Text :=
  t.map fun
    | .scalar c => .scalar (lowerChar c)
    | p => p

/-- The first value of a header, whatever the case of its name. -/
def header? (headers : Headers) (name : Text) : Option Text :=
  (headers.find? fun h => lower h.1 = lower name).map (·.2)

/-- A request. -/
structure Request where
  method : Text
  path : Text
  query : Text
  headers : Headers
  body : List UInt8
  client : Option Text

/-- A response. Header names are in lower case. -/
structure Response where
  status : Nat
  headers : List (String × Text)
  body : Text
  deriving DecidableEq, Repr

/-- What comes of a request. -/
inductive Outcome where
  | responded (r : Response)
  | escaped (f : Failure)
  deriving DecidableEq, Repr

namespace Response

/-- A response in JSON. -/
def json (status : Nat) (v : Json) : Response :=
  ⟨status, [("content-type", "application/json")], v.write .plain⟩

/-- A response in plain text. -/
def plain (status : Nat) (t : Text) : Response :=
  ⟨status, [("content-type", "text/plain; charset=utf-8")], t⟩

/-- A response that only has a status. -/
def empty (status : Nat) : Response :=
  ⟨status, [], []⟩

/-- The response to a failure that nothing foresees. -/
def bare : Response :=
  plain 500 "Internal Server Error"

/-- A response that says in one member what the matter is. -/
def detail (status : Nat) (t : String) : Response :=
  json status (.obj [("detail", .str t)])

/-- The envelope of an error: a machine-readable code and a message for people. -/
def error (status : Nat) (code message : Text) : Response :=
  json status (.obj [("error", .str code), ("message", .str message)])

/-- The response to an internal failure, which says nothing about it. -/
def internalError : Response :=
  error 500 "internal_error" "Internal server error"

/-- A response with one more header. -/
def withHeader (r : Response) (name : String) (value : Text) : Response :=
  { r with headers := r.headers ++ [(name, value)] }

/-- The number of bytes of a body, or the surrogates that keep it from being sent. -/
def length (r : Response) : Except Failure Nat :=
  match r.body.utf8?, r.body.firstSurrogates? with
  | some bytes, _ => .ok bytes.length
  | none, some (first, last, point) => .error (.unencodable first last point)
  | none, none => .ok 0

/-- The length that a response announces. One that may have no body announces none. -/
def announced (r : Response) : Except Failure (Option Nat) :=
  r.length.map fun n => if r.status < 200 ∨ r.status = 204 ∨ r.status = 304 then none else some n

/-- The outcome of sending a response. -/
def send (r : Response) : Outcome :=
  match r.length with
  | .ok _ => .responded r
  | .error f => .escaped f

end Response

/-- The status of the refusals of a kind. -/
def status : RefusalKind → Nat
  | .validation => 400
  | .unauthorized => 401
  | .forbidden => 403
  | .notFound => 404
  | .conflict => 409
  | .internal => 500

/-- The response to a refusal. -/
def refusal (r : Refusal) : Response :=
  match r.refusalClass.kind with
  | .internal => .internalError
  | kind => .error (status kind) r.refusalClass.code r.message

/-- The outcome of a failure: internal ones are hidden, and some nothing foresees. -/
def failed (f : Failure) : Outcome :=
  match f with
  | .refused r => (refusal r).send
  | .broken _ | .missingTable _ | .faulty _ _ | .timedOut _ => .responded .internalError
  | f => .escaped f

end GameLobby.Http
