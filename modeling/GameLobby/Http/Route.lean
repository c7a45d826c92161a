import GameLobby.Http.Message

/-!
# Routes

The application has seven routes, each with one method and a pattern for its path, whose parts are
fixed words or parameters. A path that matches only once a slash is added or taken away at its end
is redirected.
-/

namespace GameLobby.Http

/-- A part of a path pattern. -/
inductive Part where
  | word (w : String)
  | parameter
  deriving DecidableEq, Repr

/-- The routes, with the parameters of their paths. -/
inductive Route where
  | health
  | home
  | create
  | join
  | read (lobby : Text)
  | kick (lobby : Text)
  | setActive (lobby membership : Text)
  deriving DecidableEq, Repr

namespace Route

/-- A route before it is matched: its method, its pattern, and what its parameters make it. -/
structure Entry where
  method : String
  pattern : List Part
  ofParameters? : List Text → Option Route

/-- The routes in the order in which they are tried. The framework has four more of its own, which
show the documentation of the routes: `/openapi.json`, `/docs`, `/docs/oauth2-redirect` and
`/redoc`. They are left out, so a read of one of them is told here that there is nothing. None of
them touches a table or is limited. -/
def table : List Entry :=
  let api (rest : List Part) : List Part := .word "" :: .word "api" :: rest
  let fixed (route : Route) : List Text → Option Route := fun
    | [] => some route
    | _ => none
  [⟨"GET", [.word "", .word "health"], fixed health⟩,
    ⟨"GET", [.word "", .word ""], fixed home⟩,
    ⟨"POST", api [.word "lobbies"], fixed create⟩,
    ⟨"POST", api [.word "lobbies", .word "join"], fixed join⟩,
    ⟨"GET", api [.word "lobbies", .parameter], fun
      | [lobby] => some (read lobby)
      | _ => none⟩,
    ⟨"POST", api [.word "lobbies", .parameter, .word "kick"], fun
      | [lobby] => some (kick lobby)
      | _ => none⟩,
    ⟨"PATCH", api [.word "internal", .word "lobbies", .parameter, .word "players", .parameter], fun
      | [lobby, membership] => some (setActive lobby membership)
      | _ => none⟩]

/-- The parts of a path between slashes. -/
def segments : Text → List Text
  | [] => [[]]
  | p :: rest =>
    match segments rest with
    | [] => [[p]]
    | s :: more => if p = .scalar '/' then [] :: s :: more else (p :: s) :: more

/-- The parameters of the segments of a path that match a pattern. A fixed word at the end may have
a line feed behind it. -/
def parameters? : List Part → List Text → Option (List Text)
  | [], [] => some []
  | [.word w], [s] =>
    if s = Text.ofString w ∨ s = Text.ofString w ++ [.scalar '\n'] then some [] else none
  | .word w :: pattern, s :: rest =>
    if s = Text.ofString w then parameters? pattern rest else none
  | .parameter :: pattern, s :: rest =>
    if s = [] then none else (parameters? pattern rest).map (s :: ·)
  | _, _ => none

/-- The route of an entry that a path matches. -/
def Entry.route? (e : Entry) (path : Text) : Option Route :=
  (parameters? e.pattern (segments path)).bind e.ofParameters?

/-- Whether a path matches any entry. -/
def matchesAny (path : Text) : Bool :=
  table.any fun e => (e.route? path).isSome

end Route

/-- What a method and a path lead to. -/
inductive Destination where
  | route (r : Route)
  | otherMethod (allowed : String)
  | redirect (path : Text)
  | nowhere
  deriving DecidableEq, Repr

/-- A path with a slash added at its end, or with all slashes at its end taken away. -/
def slashToggled (path : Text) : Text :=
  if path.getLast? = some (.scalar '/') then
    (path.reverse.dropWhile (· = .scalar '/')).reverse
  else path ++ [.scalar '/']

/-- Where a method and a path lead to: the first route with both, else the first with the path, else
a redirect. -/
def destination (method path : Text) : Destination :=
  let found := Route.table.filterMap fun e => (e.route? path).map (e.method, ·)
  match found.find? fun m => Text.ofString m.1 = method, found with
  | some (_, r), _ => .route r
  | none, (allowed, _) :: _ => .otherMethod allowed
  | none, [] =>
    if path ≠ [.scalar '/'] ∧ Route.matchesAny (slashToggled path) then
      .redirect (slashToggled path)
    else .nowhere

/-! ## Locations -/

/-- Whether a character stands for itself in a location. -/
def isPlain (c : Char) : Bool :=
  c.isAlphanum || "_.-~:/%#?=@[]!$&'()*+,;".toList.contains c

/-- A byte as an escape of two capital digits. -/
def escapeByte (b : UInt8) : List Char :=
  '%' :: (Text.hexDigits 2 b.toNat).map Char.toUpper

/-- A text as it stands in a location: characters that are not plain are escaped byte by byte. -/
def percentEncode (t : Text) : Text :=
  t.flatMap fun
    | .scalar c =>
      if isPlain c then [.scalar c]
      else ((Text.utf8Char c).flatMap escapeByte).map .scalar
    | .surrogate n => [.surrogate n]

/-- The response that sends a client to another path of the same host. -/
def redirectTo (r : Request) (path : Text) : Response :=
  let host := (header? r.headers "host").getD []
  let query : Text := if r.query = [] then [] else .scalar '?' :: r.query
  (Response.empty 307).withHeader "location"
    (percentEncode (("http://" : Text) ++ host ++ path ++ query))

end GameLobby.Http
