import GameLobby.Http.App
import GameLobby.Proofs.Failures
import GameLobby.Proofs.Moves

/-!
# The envelope of errors

A response of a lobby route that tells of an error does so in the envelope, a machine-readable code
and a message (`Http.Response.Enveloped`). There are two exceptions. A body that is not looked at
has a response of its own, and a failure that nothing foresees ends in a bare one. Which failures
these are is known (`Command.Unforeseen`), and the search for a join code without any attempt is
among them.
-/

namespace GameLobby.Http

/-! ## Responses in the envelope -/

/-- The machine-readable codes of errors. -/
def machineCodes : List String :=
  ["bad_request", "cannot_kick_self", "unauthorized", "forbidden", "not_found",
    "player_not_in_lobby", "player_not_found", "lobby_not_joinable", "lobby_full",
    "already_in_lobby", "duplicate_join_code", "rate_limited", "internal_error"]

/-- A response in JSON with one of the codes and a message, and nothing else. -/
def Response.Enveloped (r : Response) : Prop :=
  ∃ code ∈ machineCodes, ∃ message : Text, message ≠ [] ∧
    r.headers.lookup "content-type" = some (Text.ofString "application/json") ∧
    r.body = (Json.obj [("error", .str code), ("message", .str message)]).write .plain

/-- An error with a machine-readable code and a message is in the envelope. -/
theorem Response.enveloped_error (status : Nat) {code : String} {message : Text}
    (hcode : code ∈ machineCodes) (hmessage : message ≠ []) :
    (Response.error status code message).Enveloped :=
  ⟨code, hcode, message, hmessage, rfl, rfl⟩

theorem enveloped_internalError : Response.internalError.Enveloped :=
  Response.enveloped_error 500 (by decide) (Text.ofString_ne_nil (by decide))

/-- The code of every refusal is machine-readable. -/
theorem code_mem_machineCodes (c : RefusalClass) : c.code ∈ machineCodes := by
  cases c <;> decide

/-- Whoever asks too often is told so in the envelope. -/
theorem enveloped_tooMany (limit : RateLimit) : (App.tooMany limit).Enveloped :=
  Response.enveloped_error 429 (by decide) (Text.ofString_ne_nil (by cases limit <;> decide))

/-- What is answered to an internal refusal says nothing about it. -/
theorem failed_of_internal {r : Refusal} (h : r.refusalClass.kind = .internal) :
    failed (.refused r) = .responded .internalError := by
  have hrefusal : refusal r = .internalError := by rw [refusal, h]
  rw [failed, hrefusal]
  exact Response.send_error (Text.hasSurrogate_ofString _) (Text.hasSurrogate_ofString _)

/-- Any other refusal is told, with its code and its message. -/
theorem failed_of_told {r : Refusal} (hkind : r.refusalClass.kind ≠ .internal)
    (hmessage : ¬ r.message.HasSurrogate) :
    failed (.refused r) =
      .responded (.error (status r.refusalClass.kind) r.refusalClass.code r.message) := by
  have hrefusal : refusal r =
      .error (status r.refusalClass.kind) r.refusalClass.code r.message := by
    rw [refusal]
    split
    · contradiction
    · rfl
  rw [failed, hrefusal]
  exact Response.send_error (Text.hasSurrogate_ofString _) hmessage

/-- A failure that is foreseen is answered in the envelope. -/
theorem failed_of_foreseen {f : Failure} (h : f.Foreseen) :
    ∃ response, failed f = .responded response ∧ response.Enveloped := by
  cases h with
  | refused r told =>
    by_cases hkind : r.refusalClass.kind = .internal
    · exact ⟨_, failed_of_internal hkind, enveloped_internalError⟩
    · obtain ⟨hmessage, hsurrogate⟩ := told.resolve_left hkind
      exact ⟨_, failed_of_told hkind hsurrogate,
        Response.enveloped_error _ (code_mem_machineCodes r.refusalClass) hmessage⟩
  | broken | missingTable | timedOut => exact ⟨_, rfl, enveloped_internalError⟩

/-- A failure that nothing foresees is not answered. -/
theorem failed_of_unforeseen {t : Tables} {rules : Rules} {c : Command} {f : Failure}
    (h : c.Unforeseen t rules f) : failed f = .escaped f := by
  cases h <;> rfl

/-- Headers for other origins come behind what a response has. -/
theorem Cors.decorate_eq (s : Settings) (headers : Headers) (r : Response) :
    ∃ more, Cors.decorate s headers r = { r with headers := r.headers ++ more } := by
  rw [decorate]
  dsimp only [Response.withHeader]
  split
  · exact ⟨_, rfl⟩
  · exact ⟨_, by rw [List.append_assoc]⟩

/-- The headers for other origins leave a response in the envelope. -/
theorem Response.Enveloped.decorate {r : Response} (h : r.Enveloped) (s : Settings)
    (headers : Headers) : (Cors.decorate s headers r).Enveloped := by
  obtain ⟨code, hcode, message, hmessage, htype, hbody⟩ := h
  obtain ⟨more, hmore⟩ := Cors.decorate_eq s headers r
  rw [hmore]
  refine ⟨code, hcode, message, hmessage, ?_, hbody⟩
  rw [List.lookup_append, htype]
  rfl

/-! ## Requests that are refused -/

/-- A text of characters that are one byte each. -/
def Latin1 (t : Text) : Prop :=
  ∀ p ∈ t, p.value < 0x100

instance (t : Text) : Decidable (Latin1 t) :=
  inferInstanceAs (Decidable (∀ p ∈ t, p.value < 0x100))

theorem Latin1.plain {t : Text} (h : Latin1 t) : ¬ t.HasSurrogate := by
  rintro ⟨n, hn⟩
  have hlow : 0xD800 + n.val < 0x100 := h _ hn
  omega

/-- A request as it comes over the wire: its header values have one byte to a character. -/
def Request.Wired (r : Request) : Prop :=
  ∀ header ∈ r.headers, Latin1 header.2

instance (r : Request) : Decidable r.Wired :=
  inferInstanceAs (Decidable (∀ header ∈ r.headers, Latin1 header.2))

/-- Settings whose two header names can be names of headers. -/
def NamesHeaders (s : Settings) : Prop :=
  Latin1 s.userIdHeader ∧ Latin1 s.usernameHeader

instance (s : Settings) : Decidable (NamesHeaders s) :=
  inferInstanceAs (Decidable (Latin1 s.userIdHeader ∧ Latin1 s.usernameHeader))

/-- Either a check is passed with a value as `post` says, or it is refused with what is foreseen. -/
def Vetted {α : Type} (post : α → Prop) : Except Refusal α → Prop
  | .ok a => post a
  | .error refused => Failure.Foreseen (.refused refused)

/-- Checks are passed one after the other. -/
theorem Vetted.bind {α β : Type} {mid : α → Prop} {post : β → Prop} {x : Except Refusal α}
    {f : α → Except Refusal β} (hx : Vetted mid x) (hf : ∀ a, mid a → Vetted post (f a)) :
    Vetted post (x >>= f) := by
  cases x with
  | ok a => exact hf a hx
  | error refused => exact hx

/-- The refusal of an invalid request is foreseen. -/
theorem foreseen_invalid : Failure.Foreseen (.refused invalid) :=
  .refusal .validation

/-- A value that has to be there is there, or its absence is foreseen. -/
theorem vetted_valid {α : Type} (a : Option α) : Vetted (fun _ => True) (valid a) := by
  cases a with
  | none => exact foreseen_invalid
  | some a => trivial

section
variable {s : Settings} {headers : Headers}

theorem foreseen_invalidUserId : Failure.Foreseen (.refused invalidUserId) :=
  .refused _ (.inr ⟨Text.ofString_ne_nil (by decide), Text.hasSurrogate_ofString _⟩)

theorem foreseen_longName : Failure.Foreseen (.refused longName) :=
  .literal .validation (by decide)

/-- The refusal of a request without an identity, which names the two headers, is foreseen. -/
theorem foreseen_missingIdentity (h : NamesHeaders s) :
    Failure.Foreseen (.refused (missingIdentity s)) := by
  have hmessage : missingIdentity s = RefusalClass.unauthorized.saying
      (Text.ofString "Missing required headers: " ++
        (s.userIdHeader ++ (Text.ofString " and " ++ s.usernameHeader))) := by
    rw [missingIdentity, List.append_assoc, List.append_assoc]
  rw [hmessage]
  refine .saying _ (by decide) ?_
  rw [Text.hasSurrogate_append, Text.hasSurrogate_append]
  exact not_or.2 ⟨h.1.plain, not_or.2 ⟨Text.hasSurrogate_ofString _, h.2.plain⟩⟩

/-- The name of a caller comes from a header, so it has no surrogate. -/
theorem vetted_caller (hnames : NamesHeaders s) (hheaders : ∀ header ∈ headers, Latin1 header.2) :
    Vetted (fun c => ¬ c.username.HasSurrogate) (caller s headers) := by
  have hvalue : ¬ ((header? headers s.usernameHeader).getD []).HasSurrogate := by
    cases hfound : header? headers s.usernameHeader with
    | none => exact Text.hasSurrogate_nil
    | some value =>
      obtain ⟨header, hheader, rfl⟩ := Option.map_eq_some_iff.1 hfound
      exact (hheaders header (List.mem_of_find?_eq_some hheader)).plain
  unfold caller
  dsimp only
  split
  · exact foreseen_missingIdentity hnames
  split
  · exact foreseen_invalidUserId
  split
  · exact foreseen_longName
  · exact mt (Text.HasSurrogate.mono fun _ => Text.mem_of_mem_trim) hvalue

/-- A request to a lobby route gives a command, whose caller has a name without surrogates, or it is
refused. -/
theorem vetted_command (hnames : NamesHeaders s) (hheaders : ∀ header ∈ headers, Latin1 header.2)
    (body : Body) {route : Route} (hlobby : route.isLobbyRoute = true) :
    Vetted (fun given => ∃ c, given = some c ∧
        ∀ caller, c.caller? = some caller → ¬ caller.username.HasSurrogate)
      (command s headers body route) := by
  have hcaller := vetted_caller hnames hheaders
  cases route with
  | health | home => cases hlobby
  | create =>
    refine hcaller.bind fun caller hname => ⟨_, rfl, ?_⟩
    rintro _ ⟨⟩
    exact hname
  | join =>
    refine hcaller.bind fun caller hname => (vetted_valid _).bind fun typed _ => ⟨_, rfl, ?_⟩
    rintro _ ⟨⟩
    exact hname
  | read lobby =>
    refine hcaller.bind fun caller hname => (vetted_valid _).bind fun id _ => ⟨_, rfl, ?_⟩
    rintro _ ⟨⟩
    exact hname
  | kick lobby =>
    refine hcaller.bind fun caller hname => (vetted_valid _).bind fun id _ =>
      (vetted_valid _).bind fun target _ => ⟨_, rfl, ?_⟩
    rintro _ ⟨⟩
    exact hname
  | setActive lobby membership =>
    exact (vetted_valid _).bind fun id _ => (vetted_valid _).bind fun member _ =>
      (vetted_valid _).bind fun active _ => ⟨_, rfl, nofun⟩

end

/-! ## What becomes of a request -/

namespace App

/-- The body that a route looks at. -/
def bodyFor (route : Route) (r : Request) : Except BodyFault Body :=
  if route.takesBody then readBody r else .ok .absent

/-- A request reaches a command: what its route needs of its body can be read, its client is within
the limit, and it names a caller and valid fields. -/
structure Reaches (a : App) (route : Route) (r : Request) (c : Command) : Prop where
  exists_body : ∃ body, bodyFor route r = .ok body ∧
    command a.settings r.headers body route = .ok (some c)
  admitted : (a.charge route r).1 = none

/-- What becomes of a request to a lobby route. -/
inductive Serves (a : App) (route : Route) (r : Request) : Outcome → Prop
  | unreadable (takes : route.takesBody = true) (read : readBody r = .error .unreadable) :
      Serves a route r (.responded unreadableBody)
  | malformed : Serves a route r (failed (.refused invalid))
  | limited (limit : RateLimit) : Serves a route r (.responded (tooMany limit))
  | refused (body : Body) (refused : Refusal)
      (command : command a.settings r.headers body route = .error refused) :
      Serves a route r (failed (.refused refused))
  | answered (c : Command) (result : Result) (reached : a.Reaches route r c)
      (executed : (a.world.execute a.settings.rules a.missing c).1 = .ok result) :
      Serves a route r (respond c result).send
  | failed (c : Command) (f : Failure) (reached : a.Reaches route r c)
      (executed : (a.world.execute a.settings.rules a.missing c).1 = .error f) :
      Serves a route r (failed f)

variable {a : App} {route : Route} {r : Request}

/-- Counting a request touches the rate limits only. -/
theorem charge_snd (a : App) (route : Route) (r : Request) :
    ∃ limiter, (a.charge route r).2 = { a with limiter } := by
  unfold charge
  split
  · exact ⟨a.limiter, rfl⟩
  split
  · exact ⟨_, rfl⟩
  · exact ⟨a.limiter, rfl⟩

/-- A route looks at the body that it needs, and goes on if it can be read. -/
theorem serve_eq (a : App) (route : Route) (r : Request) :
    a.serve route r =
      match bodyFor route r with
      | .error .unreadable => (.responded unreadableBody, a)
      | .error .malformed => (Http.failed (.refused invalid), a)
      | .ok body => a.dispatch route r body := by
  unfold serve bodyFor
  cases route.takesBody <;> rfl

/-- The outcome of a command that is carried out on a world. -/
def outcomeOf (a : App) (c : Command) : Outcome :=
  match (a.world.execute a.settings.rules a.missing c).1 with
  | .ok result => (respond c result).send
  | .error f => Http.failed f

/-- What a command is answered with does not depend on the rate limits. -/
theorem execute_limiter (a : App) (limiter : Limiter) (c : Command) :
    (({ a with limiter } : App).execute c).1 = (a.execute c).1 := by
  unfold execute
  cases a.faults.lookup c.operation <;> rfl

/-- Where no operation is bound to fail, a command is carried out on the world. -/
theorem execute_fst (hfaults : a.faults = []) (c : Command) : (a.execute c).1 = a.outcomeOf c := by
  rw [execute, hfaults]
  rfl

/-- A request whose body has been read is counted, which touches the rate limits only. Then it is
refused, or the command that it gives is carried out. -/
theorem dispatch_eq (a : App) (route : Route) (r : Request) (body : Body) :
    ∃ limiter, a.dispatch route r body =
      match (a.charge route r).1 with
      | some limit => (.responded (tooMany limit), { a with limiter })
      | none =>
        match command a.settings r.headers body route with
        | .error refused => (Http.failed (.refused refused), { a with limiter })
        | .ok none => (.responded (greeting route), { a with limiter })
        | .ok (some c) => ({ a with limiter } : App).execute c := by
  obtain ⟨limiter, hcharged⟩ := charge_snd a route r
  refine ⟨limiter, ?_⟩
  rw [dispatch]
  cases hcharge : a.charge route r with | mk limited charged =>
  rw [hcharge] at hcharged
  obtain rfl : charged = _ := hcharged
  cases limited <;> rfl

/-- The outcome of a request whose body has been read does not depend on how it is counted, but for
whether it is admitted. -/
theorem dispatch_fst (body : Body) :
    (a.dispatch route r body).1 =
      match (a.charge route r).1 with
      | some limit => .responded (tooMany limit)
      | none =>
        match command a.settings r.headers body route with
        | .error refused => Http.failed (.refused refused)
        | .ok none => .responded (greeting route)
        | .ok (some c) => (a.execute c).1 := by
  obtain ⟨limiter, hdispatch⟩ := dispatch_eq a route r body
  rw [hdispatch]
  cases (a.charge route r).1 with
  | some limit => rfl
  | none =>
    cases command a.settings r.headers body route with
    | error refused => rfl
    | ok given =>
      cases given with
      | none => rfl
      | some c => exact execute_limiter a limiter c

/-- Serving a request leaves the settings alone. -/
theorem serve_settings (a : App) (route : Route) (r : Request) :
    (a.serve route r).2.settings = a.settings := by
  have hexecute : ∀ (a : App) (c : Command), (a.execute c).2.settings = a.settings := by
    intro a c
    rw [execute]
    split <;> rfl
  rw [serve_eq]
  split
  · rfl
  · rfl
  next body _ =>
  obtain ⟨limiter, hdispatch⟩ := dispatch_eq a route r body
  rw [hdispatch]
  split
  · rfl
  split
  · rfl
  · rfl
  · exact hexecute _ _

/-- A request that reaches a command is answered by it. -/
theorem Reaches.serve_fst {c : Command} (h : a.Reaches route r c) :
    (a.serve route r).1 = (a.execute c).1 := by
  obtain ⟨⟨body, hread, hcommand⟩, hadmitted⟩ := h
  simp only [serve_eq, hread, dispatch_fst, hadmitted, hcommand]

/-- Where no operation is bound to fail, that is what the command comes to on the world. -/
theorem serve_of_reaches (hfaults : a.faults = []) {c : Command} (h : a.Reaches route r c) :
    (a.serve route r).1 = a.outcomeOf c :=
  h.serve_fst.trans (execute_fst hfaults c)

/-- What becomes of a request to a lobby route is one of the things that are listed. -/
theorem serves (hfaults : a.faults = []) (hnames : NamesHeaders a.settings) (hr : r.Wired)
    (hlobby : route.isLobbyRoute = true) : a.Serves route r (a.serve route r).1 := by
  cases hread : bodyFor route r with
  | error fault =>
    have htakes : route.takesBody = true := by
      rw [bodyFor] at hread
      split at hread
      · assumption
      · cases hread
    have hbody : readBody r = .error fault := by rwa [bodyFor, if_pos htakes] at hread
    rw [serve_eq, hread]
    cases fault with
    | unreadable => exact .unreadable htakes hbody
    | malformed => exact .malformed
  | ok body =>
    cases hadmitted : (a.charge route r).1 with
    | some limit =>
      simp only [serve_eq, hread, dispatch_fst, hadmitted]
      exact .limited limit
    | none =>
      have hvetted := vetted_command hnames hr body hlobby
      cases hcommand : command a.settings r.headers body route with
      | error refused =>
        simp only [serve_eq, hread, dispatch_fst, hadmitted, hcommand]
        exact .refused body refused hcommand
      | ok given =>
        rw [hcommand] at hvetted
        obtain ⟨c, rfl, -⟩ := hvetted
        have hreached : a.Reaches route r c := ⟨⟨body, hread, hcommand⟩, hadmitted⟩
        rw [serve_of_reaches hfaults hreached, outcomeOf]
        cases hexecuted : (a.world.execute a.settings.rules a.missing c).1 with
        | ok result => exact .answered c result hreached hexecuted
        | error f => exact .failed c f hreached hexecuted

/-! ## How a request ends -/

/-- What a command that has been carried out is answered with can be sent. -/
theorem send_respond (c : Command) (result : Result) (h : ∀ d, result = .detail d → d.Plain) :
    (respond c result).send = .responded (respond c result) := by
  cases result with
  | detail d =>
    obtain ⟨hcode, hnames⟩ := h d rfl
    exact Response.send_json (plain_view hcode hnames)
  | done => exact Response.send_of_plain Text.hasSurrogate_nil

/-- A command that has been carried out is answered with a success. -/
theorem status_respond (c : Command) (result : Result) :
    200 ≤ (respond c result).status ∧ (respond c result).status < 300 := by
  cases result with
  | detail d =>
    have hstatus : (respond c (.detail d)).status = if c.operation = .create then 201 else 200 :=
      rfl
    rw [hstatus]
    split <;> decide
  | done => exact ⟨by simp [respond, Response.empty], by simp [respond, Response.empty]⟩

/-- How a request to a lobby route ends: it is answered, or its error is told in the envelope, or it
is one of the two exceptions. -/
inductive Ends (a : App) (route : Route) (r : Request) : Outcome → Prop
  | answered (response : Response) (noError : response.status < 400) :
      Ends a route r (.responded response)
  | told (response : Response) (enveloped : response.Enveloped) :
      Ends a route r (.responded response)
  | unreadable (takes : route.takesBody = true) (read : readBody r = .error .unreadable) :
      Ends a route r (.responded unreadableBody)
  | unforeseen (c : Command) (f : Failure) (reached : a.Reaches route r c)
      (unforeseen : c.Unforeseen a.world.tables a.settings.rules f) : Ends a route r (.escaped f)

/-- A failure that is foreseen is told in the envelope. -/
theorem Ends.of_foreseen {f : Failure} (h : f.Foreseen) : a.Ends route r (Http.failed f) := by
  obtain ⟨response, hresponse, henveloped⟩ := failed_of_foreseen h
  rw [hresponse]
  exact .told response henveloped

/-- Every request to a lobby route ends in one of the ways that are listed. -/
theorem serve_ends (hfaults : a.faults = []) (hstored : a.world.tables.Storable)
    (hnames : NamesHeaders a.settings) (hr : r.Wired) (hlobby : route.isLobbyRoute = true) :
    a.Ends route r (a.serve route r).1 := by
  have hvetted := fun body => vetted_command hnames hr body hlobby
  have hnamed : ∀ {c}, a.Reaches route r c →
      ∀ caller, c.caller? = some caller → ¬ caller.username.HasSurrogate := by
    rintro c ⟨⟨body, -, hcommand⟩, -⟩
    have hbody := hvetted body
    rw [hcommand] at hbody
    obtain ⟨_, ⟨⟩, hname⟩ := hbody
    exact hname
  have hserves := serves hfaults hnames hr hlobby
  generalize (a.serve route r).1 = outcome at hserves
  cases hserves with
  | unreadable takes read => exact .unreadable takes read
  | malformed => exact .of_foreseen foreseen_invalid
  | limited limit => exact .told _ (enveloped_tooMany limit)
  | refused body refused hcommand =>
    have hrefused := hvetted body
    rw [hcommand] at hrefused
    exact .of_foreseen hrefused
  | answered c result reached executed =>
    have hstatus := (status_respond c result).2
    rw [send_respond c result fun d hd => World.execute_plain hstored (hd ▸ executed)]
    exact .answered _ (by omega)
  | failed c f reached executed =>
    rcases World.execute_error hstored (hnamed reached) executed with hforeseen | hunforeseen
    · exact .of_foreseen hforeseen
    · rw [failed_of_unforeseen hunforeseen]
      exact .unforeseen c f reached hunforeseen

/-! ## What the client sees -/

/-- A request to a route has the method and a path of an entry of the table. -/
theorem entry_of_destination {method path : Text} (h : destination method path = .route route) :
    ∃ e ∈ Route.table, Text.ofString e.method = method ∧ e.route? path = some route := by
  rw [destination] at h
  split at h
  · next found _ hfound =>
    cases h
    obtain ⟨e, he, hentry⟩ := List.mem_filterMap.1 (List.mem_of_find?_eq_some hfound)
    obtain ⟨_, hroute, ⟨⟩⟩ := Option.map_eq_some_iff.1 hentry
    exact ⟨e, he, by simpa using List.find?_some hfound, hroute⟩
  · cases h
  · split at h <;> cases h

/-- No route is for the method of preflights. -/
theorem method_of_destination {method path : Text} (h : destination method path = .route route) :
    method ≠ "OPTIONS" := by
  obtain ⟨e, he, rfl, -⟩ := entry_of_destination h
  simp only [Route.table, List.mem_cons, List.not_mem_nil, or_false] at he
  rcases he with rfl | rfl | rfl | rfl | rfl | rfl | rfl <;> decide +kernel

/-- A request to a route is no preflight, and its response gets the headers for other origins. -/
theorem process_eq_of_route (h : destination r.method r.path = .route route) :
    a.process r =
      match a.serve route r with
      | (.responded response, after) =>
        (.responded (Cors.decorate a.settings r.headers response), after)
      | (.escaped f, after) => (.escaped f, after) := by
  have hpreflight : Cors.preflight? a.settings r = none := by
    rw [Cors.preflight?]
    split
    · exact if_neg (method_of_destination h)
    · rfl
  rw [process, hpreflight]
  dsimp only
  rw [answer, h]
  dsimp only
  have hsettings := serve_settings a route r
  cases hserve : a.serve route r with | mk outcome after =>
  rw [hserve] at hsettings
  cases outcome with
  | responded response =>
    dsimp only at hsettings ⊢
    rw [hsettings]
  | escaped f => rfl

/-- What comes of a request to a route before it is logged is what comes of serving it. -/
theorem process_of_route (h : destination r.method r.path = .route route) :
    (a.process r).1 =
      match (a.serve route r).1 with
      | .responded response => .responded (Cors.decorate a.settings r.headers response)
      | .escaped f => .escaped f := by
  rw [process_eq_of_route h]
  cases a.serve route r with | mk outcome after =>
  cases outcome <;> rfl

/-- The URL of a request can be formed, so that the request can be logged. The framework gives every
request a URL, and can only fail to for a host that is none. -/
def FormsUrl (a : App) (r : Request) : Prop :=
  a.urlFault? r = none

instance (a : App) (r : Request) : Decidable (a.FormsUrl r) :=
  inferInstanceAs (Decidable (a.urlFault? r = none))

/-- The log has a say in the outcome of a request only. -/
theorem handle_eq (a : App) (r : Request) :
    a.handle r = (logged (a.urlFault? r) (a.process r).1, (a.process r).2) :=
  rfl

/-- A request that has a URL is logged, and comes out as it has been processed. -/
theorem FormsUrl.handle (h : a.FormsUrl r) : a.handle r = a.process r := by
  rw [handle_eq, h]
  cases a.process r with | mk outcome after =>
  cases outcome <;> rfl

/-- The client of a request without a URL sees a bare response, however it has been processed. -/
theorem responseOf_handle (h : ¬ a.FormsUrl r) : responseOf (a.handle r).1 = .bare := by
  obtain ⟨f, hfault⟩ := Option.ne_none_iff_exists'.1 h
  rw [handle_eq, hfault]
  cases (a.process r).1 <;> rfl

/-- Under all settings whose header names can be such names, whatever a database holds and whichever
of its tables are missing, and whatever a request to a lobby route carries that has a URL: a
response that tells of an error is in the envelope, but for a body that cannot be read and for the
failures that nothing foresees. A refusal that is internal, as all those of the search for a join
code are, is answered as an internal error. -/
theorem errors_enveloped (hfaults : a.faults = []) (hstored : a.world.tables.Storable)
    (hnames : NamesHeaders a.settings) (hr : r.Wired) (hurl : a.FormsUrl r)
    (hroute : destination r.method r.path = .route route) (hlobby : route.isLobbyRoute = true) :
    (400 ≤ (responseOf (a.handle r).1).status →
      (responseOf (a.handle r).1).Enveloped ∨
      (route.takesBody = true ∧ readBody r = .error .unreadable ∧
        responseOf (a.handle r).1 = Cors.decorate a.settings r.headers unreadableBody) ∨
      ∃ c f, a.Reaches route r c ∧ c.Unforeseen a.world.tables a.settings.rules f ∧
        (a.handle r).1 = .escaped f) ∧
    ∀ c refused, a.Reaches route r c →
      (a.world.execute a.settings.rules a.missing c).1 = .error (.refused refused) →
      refused.refusalClass.kind = .internal →
      responseOf (a.handle r).1 = Cors.decorate a.settings r.headers .internalError := by
  rw [hurl.handle, process_of_route hroute]
  constructor
  · have hends := serve_ends hfaults hstored hnames hr hlobby
    generalize (a.serve route r).1 = outcome at hends
    intro herror
    cases hends with
    | answered response noError =>
      obtain ⟨more, hmore⟩ := Cors.decorate_eq a.settings r.headers response
      dsimp only [responseOf] at herror
      rw [hmore] at herror
      exact absurd herror (Nat.not_le.2 noError)
    | told response enveloped => exact .inl (enveloped.decorate a.settings r.headers)
    | unreadable takes read => exact .inr (.inl ⟨takes, read, rfl⟩)
    | unforeseen c f reached unforeseen => exact .inr (.inr ⟨c, f, reached, unforeseen, rfl⟩)
  · intro c refused hreached hexecuted hinternal
    have hserve : (a.serve route r).1 = .responded .internalError := by
      rw [serve_of_reaches hfaults hreached, outcomeOf, hexecuted]
      exact failed_of_internal hinternal
    rw [hserve]
    rfl

/-- A request of a user who names themselves. -/
def sampleRequest (method path user name : String) : Request :=
  ⟨method, path, [], [("X-User-ID", user), ("X-Username", name)], [], none⟩

open Sample in
/-- Bob is no member of Ann's lobby and may not look at it. -/
theorem errors_enveloped_stranger :
    let lobby := "00000000-0000-4000-8000-000000000001"
    let a : App := ⟨{}, opened, [], 0, [], [], fun _ => none⟩
    let r :=
      sampleRequest "GET" ("/api/lobbies/" ++ lobby) "00000000-0000-0000-0000-000000000002" "Bob"
    a.faults = [] ∧ a.world.tables.Storable ∧ NamesHeaders a.settings ∧ r.Wired ∧ a.FormsUrl r ∧
      destination r.method r.path = .route (.read lobby) ∧ (Route.read lobby).isLobbyRoute = true ∧
      (responseOf (a.handle r).1).status = 403 ∧ (responseOf (a.handle r).1).Enveloped := by
  intro lobby a r
  have hstored : a.world.tables.Storable := by
    have hcodes : ∀ l ∈ a.world.tables.lobbies, l.joinCode.firstSurrogates? = none := by
      decide +kernel
    have husers : ∀ u ∈ a.world.tables.users, u.username.firstSurrogates? = none := by
      decide +kernel
    exact ⟨by decide +kernel, fun l hl => (Text.firstSurrogates?_eq_none_iff _).1 (hcodes l hl),
      fun u hu => (Text.firstSurrogates?_eq_none_iff _).1 (husers u hu)⟩
  have hnames : NamesHeaders a.settings := by decide +kernel
  have hr : r.Wired := by decide +kernel
  have hroute : destination r.method r.path = .route (.read lobby) := by decide +kernel
  have hstatus : (responseOf (a.handle r).1).status = 403 := by decide +kernel
  refine ⟨rfl, hstored, hnames, hr, rfl, hroute, rfl, hstatus, ?_⟩
  rcases (errors_enveloped rfl hstored hnames hr rfl hroute rfl).1 (by omega) with
    henveloped | ⟨htakes, -⟩ | ⟨_, f, -, -, hescaped⟩
  · exact henveloped
  · cases htakes
  · rw [hescaped] at hstatus
    cases hstatus

/-- Without any attempt at a join code, an application answers a creation with a bare response. -/
theorem create_unenveloped :
    ¬ ∀ (a : App) (r : Request) (route : Route), a.faults = [] → a.world.tables.Storable →
      NamesHeaders a.settings → r.Wired → a.FormsUrl r →
      destination r.method r.path = .route route → route.isLobbyRoute = true →
      400 ≤ (responseOf (a.handle r).1).status → (responseOf (a.handle r).1).Enveloped := by
  intro h
  have henveloped :=
    h ⟨{ maxRetries := 0 }, ⟨.empty, Sample.supply⟩, [], 0, [], [], fun _ => none⟩
      (sampleRequest "POST" "/api/lobbies" "00000000-0000-0000-0000-000000000001" "Ann") .create rfl
      ⟨.nil, nofun, nofun⟩ (by decide +kernel) (by decide +kernel) rfl (by decide +kernel) rfl
      (by decide +kernel)
  obtain ⟨_, -, _, -, htype, -⟩ := henveloped
  exact absurd htype (by decide +kernel)

end App

end GameLobby.Http
