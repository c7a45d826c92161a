import GameLobby.Http.Message
import GameLobby.Settings

/-!
# Cross-origin requests

A page from an allowed origin may read responses and send credentials. A preflight asks for leave
before a request is made; it is answered before anything else and never reaches a route. The
frontend's address is the allowed origin; a star allows every origin, and in development it is the
two local addresses instead.
-/

namespace GameLobby.Http.Cors

/-- The allowed origins. -/
def origins (s : Settings) : List Text :=
  if s.devMode then ["http://localhost:5173", "http://127.0.0.1:5173"] else [s.frontendUrl]

/-- Whether an origin is allowed. -/
def allows (s : Settings) (origin : Text) : Bool :=
  (origins s).contains "*" || (origins s).contains origin

/-- The methods of requests. -/
def methods : List String :=
  ["DELETE", "GET", "HEAD", "OPTIONS", "PATCH", "POST", "PUT", "QUERY"]

/-- The headers on which the answer to a preflight depends. -/
def preflightVary : String :=
  "Origin, Access-Control-Request-Method, Access-Control-Request-Headers, " ++
    "Access-Control-Request-Private-Network"

/-- The header that names the origin, if it is allowed. -/
def allowOrigin (s : Settings) (origin : Text) : List (String × Text) :=
  if allows s origin then [("access-control-allow-origin", origin)] else []

/-- What a preflight asks for in vain. -/
def faults (s : Settings) (headers : Headers) (origin method : Text) : List String :=
  (if allows s origin then [] else ["origin"]) ++
    (if methods.any fun m => Text.ofString m = method then [] else ["method"]) ++
    (if (header? headers "access-control-request-private-network").isSome then ["private-network"]
      else [])

/-- The answer to a preflight. -/
def preflight (s : Settings) (headers : Headers) (origin method : Text) : Response :=
  let asked := (header? headers "access-control-request-headers").map
    fun names => ("access-control-allow-headers", names)
  let faults := faults s headers origin method
  let r := if faults = [] then Response.plain 200 "OK"
    else .plain 400 ("Disallowed CORS " ++ String.intercalate ", " faults)
  { r with
    headers := r.headers ++
      [("vary", Text.ofString preflightVary),
        ("access-control-allow-methods", String.intercalate ", " methods),
        ("access-control-max-age", "600"),
        ("access-control-allow-credentials", "true")] ++
      allowOrigin s origin ++ asked.toList }

/-- The answer to a request that is a preflight. -/
def preflight? (s : Settings) (r : Request) : Option Response :=
  match header? r.headers "origin", header? r.headers "access-control-request-method" with
  | some origin, some method =>
    if r.method = "OPTIONS" then some (preflight s r.headers origin method) else none
  | _, _ => none

/-- A response with the headers that let a page of an allowed origin read it. -/
def decorate (s : Settings) (headers : Headers) (r : Response) : Response :=
  let r := r.withHeader "vary" "Origin"
  match header? headers "origin" with
  | none => r
  | some origin =>
    { r with
      headers := r.headers ++
        ("access-control-allow-credentials", ("true" : Text)) :: allowOrigin s origin }

end GameLobby.Http.Cors
