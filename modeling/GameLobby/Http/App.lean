import GameLobby.Database.Service
import GameLobby.Http.Body
import GameLobby.Http.Cors
import GameLobby.Http.DetailView
import GameLobby.Http.Identity
import GameLobby.Http.Route
import GameLobby.Logging
import GameLobby.RateLimit

/-!
# The application

An application serves requests one after another on one world. The body of a request is read before
its client's rate limit is charged, the limit before the identity is looked at, the identity before
the rest of the request, and only a request that passes all of these reaches a lobby operation.
When it has been processed, it is logged by the path of its URL. How a URL is formed is a matter of
the framework, and so a parameter of the application; the text of log records is left out.
-/

namespace GameLobby.Http

namespace Route

/-- Whether a route leads to a lobby operation. -/
def isLobbyRoute : Route → Bool
  | health | home => false
  | _ => true

/-- Whether a route takes a body. -/
def takesBody : Route → Bool
  | join | kick _ | setActive _ _ => true
  | _ => false

/-- The limit on the requests to a route. -/
def limit? : Route → Option RateLimit
  | create => some .createLobby
  | join => some .joinLobby
  | _ => none

end Route

/-- The refusal of a request whose path or body is not valid. -/
def invalid : Refusal :=
  RefusalClass.validation.refusal

/-- A value that has to be there for a request to be valid. -/
def valid {α : Type} : Option α → Except Refusal α
  | some a => .ok a
  | none => .error invalid

/-- An identifier in a path. -/
def pathUuid (t : Text) : Option Uuid :=
  (Form.uuidText t).toOption

/-- The command that a request to a route gives, or the refusal of the request. A caller is asked
for by all routes but the last, and before the path and the body are. -/
def command (s : Settings) (headers : Headers) (body : Body) :
    Route → Except Refusal (Option Command)
  | .health | .home => .ok none
  | .create => do
    let caller ← caller s headers
    return some (.create caller)
  | .join => do
    let caller ← caller s headers
    return some (.join caller (← valid (body.read joinCode)))
  | .read lobby => do
    let caller ← caller s headers
    return some (.read caller (← valid (pathUuid lobby)))
  | .kick lobby => do
    let caller ← caller s headers
    return some (.kick caller (← valid (pathUuid lobby)) (← valid (body.read targetUser)))
  | .setActive lobby membership => do
    return some (.setActive (← valid (pathUuid lobby)) (← valid (pathUuid membership))
      (← valid (body.read activeFlag)))

/-- The address that a request counts for. -/
def Request.address (r : Request) : Text :=
  match r.client with
  | none | some [] => "127.0.0.1"
  | some address => address

/-! ## The application -/

/-- An application: its settings, its world, its rate limits with their own clock, the tables that
have gone missing, the operations that are bound to fail, and how the framework fails to form the
URL of a request, if it does, as it may for a host that is none. -/
structure App where
  settings : Settings
  world : World
  limiter : Limiter
  time : Int
  missing : List Table
  faults : List (OperationName × Failure)
  urlFault? : Request → Option Failure

namespace App

/-- The application after a request has been counted, and whether the request is admitted. -/
def charge (a : App) (route : Route) (r : Request) : Option RateLimit × App :=
  match route.limit? with
  | none => (none, a)
  | some limit =>
    if a.settings.rateLimiting then
      let (admitted, limiter) := a.limiter.hit ⟨limit, r.address, r.path⟩ a.time
      (if admitted then none else some limit, { a with limiter })
    else (none, a)

/-- The response to a command that has been carried out. -/
def respond (c : Command) : Result → Response
  | .detail d => .json (if c.operation = .create then 201 else 200) (view d)
  | .done => .empty 204

/-- The outcome of a command, and the application after it. -/
def execute (a : App) (c : Command) : Outcome × App :=
  match a.faults.lookup c.operation with
  | some f => (failed f, a)
  | none =>
    let (result, world) := a.world.execute a.settings.rules a.missing c
    let outcome := match result with
      | .ok r => (respond c r).send
      | .error f => failed f
    (outcome, { a with world })

/-- The response of the two routes that no lobby is behind. -/
def greeting : Route → Response
  | .home => .json 200 (.obj [("message", .str "lobbyhub API"), ("version", .str "0.1.0")])
  | _ => .json 200 (.obj [("status", .str "ok")])

/-- The response to a client whose requests are too many. -/
def tooMany (limit : RateLimit) : Response :=
  .error 429 "rate_limited" limit.message

/-- The outcome of a request to a route whose body has been read. -/
def dispatch (a : App) (route : Route) (r : Request) (body : Body) : Outcome × App :=
  match a.charge route r with
  | (some limit, a) => (.responded (tooMany limit), a)
  | (none, a) =>
    match command a.settings r.headers body route with
    | .error refused => (failed (.refused refused), a)
    | .ok none => (.responded (greeting route), a)
    | .ok (some c) => a.execute c

/-- The outcome of a request to a route. -/
def serve (a : App) (route : Route) (r : Request) : Outcome × App :=
  if route.takesBody then
    match readBody r with
    | .error .unreadable => (.responded unreadableBody, a)
    | .error .malformed => (failed (.refused invalid), a)
    | .ok body => a.dispatch route r body
  else a.dispatch route r .absent

/-- The outcome of a request that is no preflight. -/
def answer (a : App) (r : Request) : Outcome × App :=
  match destination r.method r.path with
  | .route route => a.serve route r
  | .otherMethod allowed =>
    (.responded ((Response.detail 405 "Method Not Allowed").withHeader "allow" allowed), a)
  | .redirect path => (.responded (redirectTo r path), a)
  | .nowhere => (.responded (.detail 404 "Not Found"), a)

/-- The outcome of a request before it is logged, and the application after it. -/
def process (a : App) (r : Request) : Outcome × App :=
  match Cors.preflight? a.settings r with
  | some response => (.responded response, a)
  | none =>
    match a.answer r with
    | (.responded response, a) => (.responded (Cors.decorate a.settings r.headers response), a)
    | (.escaped f, a) => (.escaped f, a)

/-- What comes of an outcome when the request is logged. Without a URL there is no log record, and
the failure to form one takes the place of the response, which has not been sent yet. A failure that
has escaped goes past the log. -/
def logged (fault? : Option Failure) : Outcome → Outcome
  | .responded response =>
    match fault? with
    | none => .responded response
    | some f => .escaped f
  | .escaped f => .escaped f

/-- The outcome of a request, and the application after it. A request is logged once it has been
processed, so a failure to form its URL undoes nothing. Some refusals and failures are logged by it
before, when a response to them is made. As nothing is carried out after that, these requests come
to the same end without a URL, and it is enough to form it here. -/
def handle (a : App) (r : Request) : Outcome × App :=
  let (outcome, after) := a.process r
  (logged (a.urlFault? r) outcome, after)

/-- The response that a client sees. -/
def responseOf : Outcome → Response
  | .responded r => r
  | .escaped _ => .bare

/-! ## Set-up -/

/-- Why an application cannot be set up. -/
inductive SetupFault where
  | settings (issues : List (String × Issue))
  | level (fault : Logging.LevelFault)
  | databaseUrl

/-- Whether a code point can stand in the name of a kind of database. -/
def isUrlWord : CodePoint → Bool
  | .scalar c => c.isAlphanum || c = '_' || c = '+'
  | .surrogate _ => false

/-- Whether a database address starts with the name of a kind of database. -/
def isDatabaseUrl (t : Text) : Bool :=
  let name := t.takeWhile isUrlWord
  name ≠ [] && ("://" : Text).isPrefixOf (t.drop name.length)

/-- The application with given settings on a world without rows. Unless it is said otherwise, the
URL of every request can be formed. -/
def setUp (given : Json) (supply : Supply)
    (urlFault? : Request → Option Failure := fun _ => none) : Except SetupFault App :=
  match Settings.ofJson given with
  | .error issues => .error (.settings issues)
  | .ok settings =>
    match Logging.initial.setLevel (.str settings.logLevel) with
    | .error fault => .error (.level fault)
    | .ok _ =>
      if isDatabaseUrl settings.databaseUrl then
        .ok ⟨settings, ⟨.empty, supply⟩, [], 0, [], [], urlFault?⟩
      else .error .databaseUrl

/-- The application after time has passed: its clock and that of its rate limits move. -/
def advance (a : App) (micros : Int) : App :=
  { a with time := a.time + micros, world := a.world.advance micros }

end App

end GameLobby.Http
