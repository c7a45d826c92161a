import GameLobby.Proofs.Envelope
import GameLobby.Proofs.Rollback
import Mathlib.Data.List.TakeWhile

/-!
# What responses give away

Two properties of pairs of runs. An internal failure of an operation is answered with one and the
same response, so nothing of its text reaches a client (`Http.App.internal_failures_opaque`). And
whoever does not say who they are gets a response that is settled before the store is looked at, so
it is the same whatever the store holds, and the store stays as it is
(`Http.App.unidentified_learn_nothing`).
-/

namespace GameLobby

/-- A failure that is nobody's business outside: an internal refusal, whatever it says and whatever
has brought it about, a fault of the store, or a deadline that has passed. -/
inductive Failure.Internal : Failure → Prop
  | refused (r : Refusal) (kind : r.refusalClass.kind = .internal) : Internal (.refused r)
  | broken (c : Constraint) : Internal (.broken c)
  | missingTable (table : Table) : Internal (.missingTable table)
  | faulty (message log : Text) : Internal (.faulty message log)
  | timedOut (message : Text) : Internal (.timedOut message)

/-- Nothing is left of a text by trimming just if all of it is blank. -/
theorem Text.trim_eq_nil_iff {blank : CodePoint → Bool} {t : Text} :
    t.trim blank = [] ↔ ∀ p ∈ t, blank p = true := by
  rw [trim, List.reverse_eq_nil_iff, List.dropWhile_eq_nil_iff]
  constructor
  · intro h
    by_contra hblank
    have hne : t.dropWhile blank ≠ [] := mt List.dropWhile_eq_nil_iff.1 hblank
    have hhead := List.head_dropWhile_not blank hne
    rw [h _ (List.mem_reverse.2 (List.head_mem hne))] at hhead
    cases hhead
  · intro h p hp
    exact h p ((List.dropWhile_sublist blank).subset (List.mem_reverse.1 hp))

/-- A check that leaves a value is passed with it. -/
theorem eq_ok_of_toOption {ε α : Type} {x : Except ε α} {a : α} (h : x.toOption = some a) :
    x = .ok a := by
  cases x with
  | error e => cases h
  | ok b => exact congrArg Except.ok (Option.some.inj h)

namespace Http

/-! ## Internal failures -/

/-- An internal failure is answered with what says nothing about it. -/
theorem failed_of_isInternal {f : Failure} (h : f.Internal) :
    failed f = .responded .internalError := by
  cases h with
  | refused r kind => exact failed_of_internal kind
  | broken | missingTable | faulty | timedOut => rfl

/-- The headers for other origins depend on nothing but which origins are allowed. -/
theorem Cors.decorate_congr {s s' : Settings} (h : Cors.origins s' = Cors.origins s) :
    Cors.decorate s' = Cors.decorate s := by
  have hallow : allowOrigin s' = allowOrigin s := by
    funext origin
    rw [allowOrigin, allowOrigin, allows, allows, h]
  unfold decorate
  rw [hallow]

namespace App

section
variable {a b : App} {r : Request} {route : Route} {c c' : Command} {f f' : Failure}

/-- The operation of a command fails, either because it is bound to or on the world. -/
inductive Raises (a : App) (c : Command) (f : Failure) : Prop
  | bound (lookup : a.faults.lookup c.operation = some f)
  | ran (lookup : a.faults.lookup c.operation = none)
      (executed : (a.world.execute a.settings.rules a.missing c).1 = .error f)

/-- An operation that fails is answered as its failure is. -/
theorem Raises.execute_fst (h : a.Raises c f) : (a.execute c).1 = Http.failed f := by
  cases h with
  | bound lookup => rw [execute, lookup]
  | ran lookup executed =>
    rw [execute, lookup]
    dsimp only
    rw [executed]

/-- A request whose operation fails internally is answered as any other one. -/
theorem serve_of_internal (hreached : a.Reaches route r c) (hraised : a.Raises c f)
    (hinternal : f.Internal) : (a.serve route r).1 = .responded .internalError := by
  rw [hreached.serve_fst, hraised.execute_fst, failed_of_isInternal hinternal]

/-- Before it is logged, such a request has the response to internal failures, with the headers for
other origins. -/
theorem process_of_internal (hroute : destination r.method r.path = .route route)
    (hreached : a.Reaches route r c) (hraised : a.Raises c f) (hinternal : f.Internal) :
    (a.process r).1 =
      .responded (Cors.decorate a.settings r.headers .internalError) := by
  rw [process_of_route hroute, serve_of_internal hreached hraised hinternal]

/-- Whatever the worlds are in which a request ends in an internal failure, and whatever this
failure says, its client sees the same response, if its URL is formed alike. It is the response to
internal failures where a URL can be formed. -/
theorem internal_failures_opaque (horigins : Cors.origins b.settings = Cors.origins a.settings)
    (hurl : b.urlFault? r = a.urlFault? r)
    (hroute : destination r.method r.path = .route route)
    (hreached : a.Reaches route r c) (hreached' : b.Reaches route r c')
    (hraised : a.Raises c f) (hraised' : b.Raises c' f')
    (hinternal : f.Internal) (hinternal' : f'.Internal) :
    (a.serve route r).1 = .responded .internalError ∧
    (b.serve route r).1 = .responded .internalError ∧
    (b.handle r).1 = (a.handle r).1 ∧
    (a.FormsUrl r → ∃ response,
      (a.handle r).1 = .responded response ∧ (b.handle r).1 = .responded response ∧
      response = Cors.decorate a.settings r.headers .internalError ∧
      response.status = 500 ∧ response.body = Response.internalError.body) := by
  have hprocess := process_of_internal hroute hreached hraised hinternal
  have hprocess' := process_of_internal hroute hreached' hraised' hinternal'
  have hsame : (b.handle r).1 = (a.handle r).1 := by
    rw [handle_eq, handle_eq, hprocess, hprocess', Cors.decorate_congr horigins, hurl]
  refine ⟨serve_of_internal hreached hraised hinternal,
    serve_of_internal hreached' hraised' hinternal', hsame, fun hformed => ?_⟩
  have hhandle : (a.handle r).1 =
      .responded (Cors.decorate a.settings r.headers .internalError) := by
    rw [hformed.handle, hprocess]
  refine ⟨_, hhandle, hsame.trans hhandle, rfl, ?_⟩
  obtain ⟨more, hmore⟩ := Cors.decorate_eq a.settings r.headers .internalError
  rw [hmore]
  exact ⟨rfl, rfl⟩

open Sample in
/-- Bob's request for a lobby ends in a search for a join code that finds none in one application,
and in a report of the store with a secret in it in another one. -/
theorem internal_failures_opaque_bob :
    let secret : Failure := .faulty "password of the store" "statement and values"
    let a : App := ⟨{ maxRetries := 1 }, clashing, [], 0, [], [], fun _ => none⟩
    let b : App :=
      ⟨{ maxRetries := 1 }, ⟨.empty, supply⟩, [], 0, [], [(.create, secret)], fun _ => none⟩
    let r := sampleRequest "POST" "/api/lobbies" "00000000-0000-0000-0000-000000000002" "Bob"
    a.Raises (.create bob) (.refused (Program.allTaken 1)) ∧ b.Raises (.create bob) secret ∧
      secret.Internal ∧ a.FormsUrl r ∧ (a.handle r).1 = (b.handle r).1 ∧
      (responseOf (a.handle r).1).status = 500 := by
  intro secret a b r
  have hroute : destination r.method r.path = .route .create := by decide +kernel
  have hcommand : command a.settings r.headers .absent .create = .ok (some (.create bob)) :=
    eq_ok_of_toOption (by decide +kernel)
  have hreached : a.Reaches .create r (.create bob) := ⟨⟨.absent, rfl, hcommand⟩, by decide +kernel⟩
  have hreached' : b.Reaches .create r (.create bob) :=
    ⟨⟨.absent, rfl, hcommand⟩, by decide +kernel⟩
  have hraised : a.Raises (.create bob) (.refused (Program.allTaken 1)) :=
    .ran rfl (by decide +kernel)
  have hraised' : b.Raises (.create bob) secret := .bound rfl
  have horigins : Cors.origins b.settings = Cors.origins a.settings := rfl
  have hsecret : secret.Internal := .faulty _ _
  have hurl : b.urlFault? r = a.urlFault? r := rfl
  have hformed : a.FormsUrl r := rfl
  clear_value secret a b r
  obtain ⟨-, -, hsame, hopaque⟩ := internal_failures_opaque horigins hurl hroute hreached hreached'
    hraised hraised' (.refused _ rfl) hsecret
  obtain ⟨response, ha, -, -, hstatus, -⟩ := hopaque hformed
  refine ⟨hraised, hraised', hsecret, hformed, hsame.symm, ?_⟩
  rw [ha]
  exact hstatus

end

end App

/-! ## Requests of nobody -/

/-- The routes for players. The other lobby route is internal. -/
def Route.isPlayerRoute : Route → Bool
  | create | join | read _ | kick _ => true
  | health | home | setActive .. => false

/-- Why headers do not say who a request is from. A missing header counts as an empty one. -/
inductive Unidentified (s : Settings) (headers : Headers) : Prop
  | noUserId (given : (header? headers s.userIdHeader).getD [] = [])
  | blankName (given : ∀ p ∈ (header? headers s.usernameHeader).getD [], isBlankPoint p = true)
  | badUserId (given : looseUuid? ((header? headers s.userIdHeader).getD []) = none)
  | longName (given : maxNameLength <
      (((header? headers s.usernameHeader).getD []).trim isBlankPoint).length)

/-- A response that blames the client. -/
def Response.Blames (response : Response) : Prop :=
  400 ≤ response.status ∧ response.status < 500

instance (response : Response) : Decidable response.Blames :=
  inferInstanceAs (Decidable (400 ≤ response.status ∧ response.status < 500))

/-- The headers for other origins do not take the blame off a client. -/
theorem Cors.blames_decorate {response : Response} (h : response.Blames) (s : Settings)
    (headers : Headers) : (Cors.decorate s headers response).Blames := by
  obtain ⟨more, hmore⟩ := Cors.decorate_eq s headers response
  rw [hmore]
  exact h

/-- A refusal that is told blames the client. -/
theorem failed_blames {r : Refusal} (h : Failure.Foreseen (.refused r))
    (hkind : r.refusalClass.kind ≠ .internal) :
    ∃ response, failed (.refused r) = .responded response ∧ response.Blames := by
  cases h with
  | refused _ told =>
    refine ⟨_, failed_of_told hkind (told.resolve_left hkind).2, ?_⟩
    change 400 ≤ status r.refusalClass.kind ∧ status r.refusalClass.kind < 500
    generalize r.refusalClass.kind = kind at hkind
    cases kind with
    | internal => exact absurd rfl hkind
    | validation | unauthorized | forbidden | notFound | conflict => decide

section
variable {s : Settings} {headers : Headers} {refused : Refusal}

/-- These are the reasons for which a request names no caller. -/
theorem unidentified_iff :
    Unidentified s headers ↔ ∃ refused, caller s headers = .error refused := by
  unfold caller
  dsimp only
  constructor
  · intro h
    split
    · exact ⟨_, rfl⟩
    next hgiven =>
    obtain ⟨huser, hname⟩ := not_or.1 hgiven
    split
    · exact ⟨_, rfl⟩
    next id hid =>
    split
    · exact ⟨_, rfl⟩
    next hlong =>
    cases h with
    | noUserId given => exact absurd given huser
    | blankName given => exact absurd (Text.trim_eq_nil_iff.2 given) hname
    | badUserId given => cases hid.symm.trans given
    | longName given => exact absurd given hlong
  · rintro ⟨refused, h⟩
    split at h
    · next hgiven =>
      exact hgiven.elim .noUserId fun hname => .blankName (Text.trim_eq_nil_iff.1 hname)
    split at h
    · next hid => exact .badUserId hid
    split at h
    · next hlong => exact .longName hlong
    · cases h

/-- A request that names no caller is refused in one of three ways. -/
theorem caller_error (h : caller s headers = .error refused) :
    refused = missingIdentity s ∨ refused = invalidUserId ∨ refused = longName := by
  unfold caller at h
  dsimp only at h
  split at h
  · exact .inl (Except.error.inj h).symm
  split at h
  · exact .inr (.inl (Except.error.inj h).symm)
  split at h
  · exact .inr (.inr (Except.error.inj h).symm)
  · cases h

/-- Whoever does not say who they are is told so. -/
theorem failed_of_unidentified (hnames : NamesHeaders s) (h : caller s headers = .error refused) :
    ∃ response, failed (.refused refused) = .responded response ∧ response.Blames := by
  rcases caller_error h with rfl | rfl | rfl
  · exact failed_blames (foreseen_missingIdentity hnames) nofun
  · exact failed_blames foreseen_invalidUserId nofun
  · exact failed_blames foreseen_longName nofun

/-- A route for players asks for the caller before it looks at anything else. -/
theorem command_of_unidentified {route : Route} (hplayer : route.isPlayerRoute = true)
    (h : caller s headers = .error refused) (body : Body) :
    command s headers body route = .error refused := by
  cases route with
  | create | join | read | kick => rw [command, h]; rfl
  | health | home | setActive => cases hplayer

end

namespace App

section
variable {a : App} {route : Route} {r : Request}

/-- Counting a request does not look at the store. -/
theorem charge_of_store (a : App) (route : Route) (r : Request) :
    ∃ limited limiter, ∀ world missing faults,
      ({ a with world, missing, faults } : App).charge route r =
        (limited, { a with world, missing, faults, limiter }) := by
  refine ⟨(a.charge route r).1, (a.charge route r).2.limiter, fun world missing faults => ?_⟩
  unfold charge
  cases route.limit? with
  | none => rfl
  | some limit =>
    dsimp only
    split <;> rfl

/-- On a route for players, a request that does not say who it is from is served alike whatever the
store holds, which stays as it is. -/
theorem serve_of_unidentified (hplayer : route.isPlayerRoute = true)
    (h : Unidentified a.settings r.headers) :
    ∃ outcome limiter,
      (NamesHeaders a.settings → ∃ response, outcome = .responded response ∧ response.Blames) ∧
      ∀ world missing faults, ({ a with world, missing, faults } : App).serve route r =
        (outcome, { a with world, missing, faults, limiter }) := by
  obtain ⟨refused, hcaller⟩ := unidentified_iff.1 h
  simp only [serve_eq]
  cases bodyFor route r with
  | error fault =>
    cases fault with
    | unreadable =>
      exact ⟨_, a.limiter, fun _ => ⟨unreadableBody, rfl, by decide⟩, fun _ _ _ => rfl⟩
    | malformed =>
      exact ⟨_, a.limiter, fun _ => failed_blames foreseen_invalid nofun, fun _ _ _ => rfl⟩
  | ok body =>
    obtain ⟨limited, limiter, hcharge⟩ := charge_of_store a route r
    simp only [dispatch, hcharge]
    cases limited with
    | some limit =>
      have hblames : (tooMany limit).Blames := by cases limit <;> decide
      exact ⟨_, limiter, fun _ => ⟨tooMany limit, rfl, hblames⟩, fun _ _ _ => rfl⟩
    | none =>
      simp only [command_of_unidentified hplayer hcaller body]
      exact ⟨_, limiter, fun hnames => failed_of_unidentified hnames hcaller, fun _ _ _ => rfl⟩

/-- Before it is logged, a request to a route for players that does not say who it is from has come
to the same whatever the store holds. -/
theorem process_of_unidentified (hroute : destination r.method r.path = .route route)
    (hplayer : route.isPlayerRoute = true) (h : Unidentified a.settings r.headers) :
    ∃ outcome limiter,
      (NamesHeaders a.settings → ∃ response, outcome = .responded response ∧ response.Blames) ∧
      ∀ world missing faults, ({ a with world, missing, faults } : App).process r =
        (outcome, { a with world, missing, faults, limiter }) := by
  obtain ⟨outcome, limiter, hblames, hserve⟩ := serve_of_unidentified hplayer h
  cases outcome with
  | responded response =>
    refine ⟨.responded (Cors.decorate a.settings r.headers response), limiter, fun hnames => ?_,
      fun world missing faults => ?_⟩
    · obtain ⟨_, ⟨⟩, hresponse⟩ := hblames hnames
      exact ⟨_, rfl, Cors.blames_decorate hresponse _ _⟩
    · rw [process_eq_of_route hroute, hserve]
  | escaped f =>
    refine ⟨.escaped f, limiter, fun hnames => ?_, fun world missing faults => ?_⟩
    · obtain ⟨_, ⟨⟩, -⟩ := hblames hnames
    · rw [process_eq_of_route hroute, hserve]

/-- A request to a route for players that does not say who it is from is answered before the store
is looked at: what comes of it is the same whatever the store holds, and the store stays as it is.
Its client is blamed, provided that its URL can be formed and that the settings name headers by
names that headers can have. -/
theorem unidentified_learn_nothing (hroute : destination r.method r.path = .route route)
    (hplayer : route.isPlayerRoute = true) (h : Unidentified a.settings r.headers) :
    ∃ outcome limiter,
      (a.FormsUrl r → NamesHeaders a.settings → ∃ response, outcome = .responded response ∧
        400 ≤ response.status ∧ response.status < 500) ∧
      ∀ world missing faults, ({ a with world, missing, faults } : App).handle r =
        (outcome, { a with world, missing, faults, limiter }) := by
  obtain ⟨outcome, limiter, hblames, hprocess⟩ := process_of_unidentified hroute hplayer h
  refine ⟨logged (a.urlFault? r) outcome, limiter, fun hurl hnames => ?_,
    fun world missing faults => ?_⟩
  · obtain ⟨response, rfl, hresponse⟩ := hblames hnames
    rw [hurl]
    exact ⟨response, rfl, hresponse⟩
  · rw [handle_eq, hprocess]

open Sample in
/-- Somebody without a name asks for Ann's lobby, and is not told whether there is one. -/
theorem unidentified_learn_nothing_blank :
    let lobby := "00000000-0000-4000-8000-000000000001"
    let a : App := ⟨{}, opened, [], 0, [], [], fun _ => none⟩
    let b : App := ⟨{}, ⟨.empty, supply⟩, [], 0, [], [], fun _ => none⟩
    let r :=
      sampleRequest "GET" ("/api/lobbies/" ++ lobby) "00000000-0000-0000-0000-000000000001" "  "
    a.FormsUrl r ∧ NamesHeaders a.settings ∧
      destination r.method r.path = .route (.read lobby) ∧
      Unidentified a.settings r.headers ∧
      (∃ response, (a.handle r).1 = .responded response ∧ (b.handle r).1 = .responded response ∧
        400 ≤ response.status ∧ response.status < 500) ∧
      (a.handle r).2.world = a.world ∧ (b.handle r).2.world = b.world := by
  intro lobby a b r
  have hurl : a.FormsUrl r := rfl
  have hnames : NamesHeaders a.settings := by decide +kernel
  have hroute : destination r.method r.path = .route (.read lobby) := by decide +kernel
  have hblank : Unidentified a.settings r.headers := .blankName (by decide +kernel)
  have hlearn := unidentified_learn_nothing hroute rfl hblank
  have hopened : a = { a with world := opened, missing := [], faults := [] } := rfl
  have hempty : b = { a with world := ⟨.empty, supply⟩, missing := [], faults := [] } := rfl
  clear_value a b r
  obtain ⟨outcome, limiter, hblames, hhandle⟩ := hlearn
  obtain ⟨response, rfl, hstatus⟩ := hblames hurl hnames
  have ha := hhandle opened [] []
  have hb := hhandle ⟨.empty, supply⟩ [] []
  rw [← hopened] at ha
  rw [← hempty] at hb
  refine ⟨hurl, hnames, hroute, hblank,
    ⟨response, congrArg Prod.fst ha, congrArg Prod.fst hb, hstatus⟩, ?_⟩
  rw [ha, hb]
  exact ⟨(congrArg App.world hopened).symm, (congrArg App.world hempty).symm⟩

end

end App

end Http

end GameLobby
