import GameLobby.Http.Traffic
import GameLobby.Proofs.Commits
import GameLobby.Proofs.Envelope

/-!
# The effects of requests

A request that is not answered with a success changes no table, and one that is does what the
command that it asks for does (`Http.App.requests_all_or_nothing`). Two things could come between a
command and its answer. One is a failure after a commit, which does not occur
(`World.execute_kept`). The other is an answer that cannot be sent because of a surrogate in it, and
the tables hold none at any time (`Http.App.storable_after`). What is left is the log, which comes
last: the client of a request without a URL is not told what has been done for it, though nothing is
done by halves then either.
-/

namespace GameLobby.Http

/-! ## Successes -/

/-- A response tells of a success. -/
def Response.Succeeds (r : Response) : Prop :=
  200 ≤ r.status ∧ r.status < 300

instance (r : Response) : Decidable r.Succeeds :=
  inferInstanceAs (Decidable (200 ≤ r.status ∧ r.status < 300))

/-- The headers for other origins do not make a success of a failure. -/
theorem Cors.succeeds_decorate (s : Settings) (headers : Headers) (r : Response) :
    (Cors.decorate s headers r).Succeeds ↔ r.Succeeds := by
  obtain ⟨more, hmore⟩ := Cors.decorate_eq s headers r
  rw [hmore]
  rfl

/-- A preflight has the method of preflights. -/
theorem Cors.method_of_preflight {s : Settings} {r : Request} {response : Response}
    (h : Cors.preflight? s r = some response) : r.method = "OPTIONS" := by
  rw [preflight?] at h
  split at h
  · split at h
    · assumption
    · cases h
  · cases h

/-- A response that cannot be sent gives way to the bare one. -/
theorem Response.status_send (r : Response) :
    (App.responseOf r.send).status = r.status ∨ (App.responseOf r.send).status = 500 := by
  rw [send]
  split
  · exact .inl rfl
  · exact .inr rfl

/-- The statuses of the answers to failures. -/
theorem status_failed (f : Failure) :
    (App.responseOf (failed f)).status ∈ [400, 401, 403, 404, 409, 500] := by
  have hkind : ∀ kind, status kind ∈ [400, 401, 403, 404, 409, 500] := by
    intro kind
    cases kind <;> decide
  have hbare : 500 ∈ [400, 401, 403, 404, 409, 500] := by decide
  unfold failed
  split
  · next r =>
    rcases (refusal r).status_send with hsent | hsent <;> rw [hsent]
    · rw [refusal]
      split
      · exact hbare
      · exact hkind _
    · exact hbare
  all_goals exact hbare

/-- A failure is not answered with a success. -/
theorem not_succeeds_failed (f : Failure) : ¬ (App.responseOf (failed f)).Succeeds := by
  have hstatus := status_failed f
  simp only [List.mem_cons, List.not_mem_nil, or_false] at hstatus
  rintro ⟨-, hlow⟩
  omega

/-- A check that is passed has been passed at each of its steps. -/
theorem exists_of_bind_ok {α β : Type} {x : Except Refusal α} {f : α → Except Refusal β} {b : β}
    (h : (x >>= f) = .ok b) : ∃ a, x = .ok a ∧ f a = .ok b := by
  cases x with
  | error refused => cases h
  | ok a => exact ⟨a, rfl, h⟩

namespace App

/-! ## What a request asks for -/

/-- A request asks for a command: its route, what the route needs of its body, and its headers give
one. -/
def Asks (a : App) (r : Request) (c : Command) : Prop :=
  ∃ route body, destination r.method r.path = .route route ∧ bodyFor route r = .ok body ∧
    command a.settings r.headers body route = .ok (some c)

section
variable {a : App} {r : Request} {route : Route} {c : Command}

/-- Once its route and its body are known, a request asks for what these give. -/
theorem asks_iff {body : Body} (hroute : destination r.method r.path = .route route)
    (hbody : bodyFor route r = .ok body) :
    a.Asks r c ↔ command a.settings r.headers body route = .ok (some c) := by
  constructor
  · rintro ⟨route', body', hroute', hbody', hcommand⟩
    cases hroute.symm.trans hroute'
    cases hbody.symm.trans hbody'
    exact hcommand
  · exact fun hcommand => ⟨route, body, hroute, hbody, hcommand⟩

/-- A request asks for one command at most. -/
theorem Asks.unique {c' : Command} (h : a.Asks r c) (h' : a.Asks r c') : c = c' := by
  obtain ⟨route, body, hroute, hbody, hcommand⟩ := h
  cases hcommand.symm.trans ((asks_iff hroute hbody).1 h')
  rfl

/-- The routes for the method of reads. -/
theorem route_of_get {path : Text} (h : destination "GET" path = .route route) :
    route = .health ∨ route = .home ∨ ∃ lobby, route = .read lobby := by
  obtain ⟨e, he, hmethod, hroute⟩ := entry_of_destination h
  obtain ⟨parameters, -, hroute⟩ := Option.bind_eq_some_iff.1 hroute
  simp only [Route.table, List.mem_cons, List.not_mem_nil, or_false] at he
  rcases he with rfl | rfl | rfl | rfl | rfl | rfl | rfl <;> dsimp only at hmethod hroute
  · split at hroute
    · exact .inl (Option.some.inj hroute).symm
    · cases hroute
  · split at hroute
    · exact .inr (.inl (Option.some.inj hroute).symm)
    · cases hroute
  · exact absurd hmethod (by decide +kernel)
  · exact absurd hmethod (by decide +kernel)
  · split at hroute
    · exact .inr (.inr ⟨_, (Option.some.inj hroute).symm⟩)
    · cases hroute
  · exact absurd hmethod (by decide +kernel)
  · exact absurd hmethod (by decide +kernel)

/-- With the method of reads, a request asks for nothing but a read. -/
theorem Asks.read_of_get (h : a.Asks r c) (hget : r.method = "GET") :
    ∃ caller lobby, c = .read caller lobby := by
  obtain ⟨route, body, hroute, -, hcommand⟩ := h
  rw [hget] at hroute
  rcases route_of_get hroute with rfl | rfl | ⟨lobby, rfl⟩
  · cases hcommand
  · cases hcommand
  · obtain ⟨caller, -, hrest⟩ := exists_of_bind_ok hcommand
    obtain ⟨id, -, hread⟩ := exists_of_bind_ok hrest
    cases hread
    exact ⟨caller, id, rfl⟩

/-- A preflight asks for nothing. -/
theorem not_asks_of_options (hoptions : r.method = "OPTIONS") (c : Command) : ¬ a.Asks r c := by
  rintro ⟨route, _, hroute, -⟩
  exact method_of_destination hroute hoptions

/-! ## What a request does -/

/-- What a request does: the response that its client sees, and the world after it. -/
inductive Effect (a : App) (r : Request) : Response → World → Prop
  /-- The request asks for nothing, or it is turned away. -/
  | idle (response : Response) (turned : (∀ c, ¬ a.Asks r c) ∨ ¬ response.Succeeds) :
      Effect a r response a.world
  /-- A command is carried out, and the response tells whether it has succeeded. -/
  | carried (c : Command) (asked : a.Asks r c) (response : Response)
      (told : response.Succeeds ↔
        ∃ result, (a.world.execute a.settings.rules a.missing c).1 = .ok result) :
      Effect a r response (a.world.execute a.settings.rules a.missing c).2

/-- Of a response, it only matters whether it tells of a success. -/
theorem Effect.congr {response response' : Response} {w : World} (h : a.Effect r response w)
    (hsame : response'.Succeeds ↔ response.Succeeds) : a.Effect r response' w := by
  cases h with
  | idle _ turned => exact .idle _ (turned.imp_right (mt hsame.1))
  | carried c asked _ told => exact .carried c asked _ (hsame.trans told)

/-- A command that a request asks for is carried out, unless its operation is bound to fail. -/
theorem execute_effect (hstored : a.world.tables.Storable) (hasks : a.Asks r c)
    (limiter : Limiter) :
    a.Effect r (responseOf (({ a with limiter } : App).execute c).1)
      (({ a with limiter } : App).execute c).2.world := by
  rw [execute]
  split
  · exact .idle _ (.inr (not_succeeds_failed _))
  have heffect := Effect.carried (r := r) c hasks
  cases hrun : a.world.execute a.settings.rules a.missing c with | mk result w =>
  rw [hrun] at heffect
  refine heffect _ ?_
  cases result with
  | error f =>
    refine iff_of_false (not_succeeds_failed f) ?_
    rintro ⟨_, ⟨⟩⟩
  | ok result =>
    have hplain : ∀ d, result = .detail d → d.Plain := by
      rintro d rfl
      exact World.execute_plain hstored (congrArg Prod.fst hrun)
    dsimp only
    rw [send_respond c result hplain]
    exact iff_of_true (status_respond c result) ⟨result, rfl⟩

/-- A request to a route is turned away, or its command is carried out. -/
theorem serve_effect (hstored : a.world.tables.Storable)
    (hroute : destination r.method r.path = .route route) :
    a.Effect r (responseOf (a.serve route r).1) (a.serve route r).2.world := by
  rw [serve_eq]
  cases hbody : bodyFor route r with
  | error fault =>
    have hunreadable : ¬ unreadableBody.Succeeds := by decide
    cases fault <;> dsimp only
    case unreadable => exact .idle _ (.inr hunreadable)
    case malformed => exact .idle _ (.inr (not_succeeds_failed _))
  | ok body =>
    obtain ⟨limiter, hdispatch⟩ := dispatch_eq a route r body
    dsimp only
    rw [hdispatch]
    cases (a.charge route r).1 with
    | some limit =>
      have htooMany : ¬ (tooMany limit).Succeeds := by
        cases limit <;> decide
      exact .idle _ (.inr htooMany)
    | none =>
      cases hcommand : command a.settings r.headers body route with
      | error refused =>
        dsimp only
        exact .idle _ (.inr (not_succeeds_failed _))
      | ok given =>
        cases given with
        | some c => exact execute_effect hstored ((asks_iff hroute hbody).2 hcommand) limiter
        | none =>
          refine .idle _ (.inl fun c hc => ?_)
          cases hcommand.symm.trans ((asks_iff hroute hbody).1 hc)

/-- Without a route, nothing is asked for. -/
theorem answer_effect (hstored : a.world.tables.Storable) :
    a.Effect r (responseOf (a.answer r).1) (a.answer r).2.world := by
  rw [answer]
  split
  · next route hroute => exact serve_effect hstored hroute
  all_goals
    next hdestination =>
    refine .idle _ (.inl ?_)
    rintro c ⟨route, _, hroute, -⟩
    cases hdestination.symm.trans hroute

/-- Before it is logged, every request has been turned away or its command has been carried out. -/
theorem process_effect (hstored : a.world.tables.Storable) (r : Request) :
    a.Effect r (responseOf (a.process r).1) (a.process r).2.world := by
  rw [process]
  split
  · next hpreflight =>
    exact .idle _ (.inl (not_asks_of_options (Cors.method_of_preflight hpreflight)))
  have hanswer := answer_effect (r := r) hstored
  cases hrun : a.answer r with | mk outcome after =>
  rw [hrun] at hanswer
  cases outcome with
  | responded response => exact hanswer.congr (Cors.succeeds_decorate _ _ response)
  | escaped f => exact hanswer

/-! ## Along the events -/

section
variable {given : Json} {supply : Supply} {urlFault? : Request → Option Failure}

/-- An application that has been set up has no rows in its tables. -/
theorem tables_setUp (h : setUp given supply urlFault? = .ok a) : a.world.tables = .empty := by
  unfold setUp at h
  split at h
  · cases h
  split at h
  · cases h
  split at h
  · cases h
    rfl
  · cases h

/-- An application that has been set up has tables that a database can hold. -/
theorem storable_setUp (h : setUp given supply urlFault? = .ok a) : a.world.tables.Storable := by
  rw [tables_setUp h]
  exact .empty

end

/-- Without settings of its own, an application is set up with the default ones. -/
theorem setUp_default (supply : Supply) (urlFault? : Request → Option Failure) :
    setUp (.obj []) supply urlFault? =
      .ok ⟨{}, ⟨.empty, supply⟩, [], 0, [], [], urlFault?⟩ := by
  have hsettings : Settings.ofJson (.obj []) = .ok {} := by rfl
  have hlevel : (Logging.initial.setLevel (.str ({} : Settings).logLevel)).isOk = true := by
    decide +kernel
  have hurl : isDatabaseUrl ({} : Settings).databaseUrl = true := by decide +kernel
  unfold setUp
  simp only [hsettings]
  cases hset : Logging.initial.setLevel (.str ({} : Settings).logLevel) with
  | error fault =>
    rw [hset] at hlevel
    cases hlevel
  | ok _ => simp only [hurl, if_true]

/-- Whatever happens to an application leaves tables that a database can hold. -/
theorem storable_happen (h : a.world.tables.Storable) (e : Event) :
    (a.happen e).world.tables.Storable := by
  cases e with
  | request r =>
    have heffect := process_effect h r
    change (a.process r).2.world.tables.Storable
    generalize (a.process r).2.world = w at heffect
    cases heffect with
    | idle => exact h
    | carried c => exact (World.execute_kept h a.settings.rules a.missing c).storable h
  | setStatus lobby status => exact h.setStatus lobby status
  | advance | lose | sabotage => exact h

/-- Whatever happens to an application, its tables are such that a database can hold them. -/
theorem storable_after (h : a.world.tables.Storable) (events : List Event) :
    (a.after events).world.tables.Storable := by
  induction events generalizing a with
  | nil => exact h
  | cons e events ih => exact ih (storable_happen h e)

end

/-! ## The tables before and after -/

section
variable {a : App} {r : Request} {response : Response} {w : World}

/-- A request that is not answered with a success leaves the tables as they are. -/
theorem Effect.tables_of_not_succeeds (h : a.Effect r response w)
    (hstored : a.world.tables.Storable) (hfail : ¬ response.Succeeds) :
    w.tables = a.world.tables := by
  cases h with
  | idle => rfl
  | carried c asked _ told =>
    cases hresult : (a.world.execute a.settings.rules a.missing c).1 with
    | ok result => exact absurd (told.2 ⟨result, hresult⟩) hfail
    | error f =>
      have hkept := World.execute_kept hstored a.settings.rules a.missing c
      exact hkept.tables_of_error hresult

/-- A request that is answered with a success does what it asks for. -/
theorem Effect.execute_of_succeeds (h : a.Effect r response w) (hsuccess : response.Succeeds)
    {c : Command} (hc : a.Asks r c) :
    ∃ result, a.world.execute a.settings.rules a.missing c = (.ok result, w) := by
  cases h with
  | idle _ turned =>
    rcases turned with hnone | hrefused
    · exact absurd hc (hnone c)
    · exact absurd hsuccess hrefused
  | carried _ asked _ told =>
    obtain ⟨result, hresult⟩ := told.1 hsuccess
    obtain rfl := asked.unique hc
    exact ⟨result, Prod.ext hresult rfl⟩

/-- A request that asks for nothing does nothing. -/
theorem Effect.eq_of_not_asks (h : a.Effect r response w) (hnone : ∀ c, ¬ a.Asks r c) :
    w = a.world := by
  cases h with
  | idle => rfl
  | carried c asked => exact absurd asked (hnone c)

/-- A request with the method of reads or of preflights leaves the tables as they are. -/
theorem Effect.tables_of_method (h : a.Effect r response w)
    (hmethod : r.method = "GET" ∨ r.method = "OPTIONS") : w.tables = a.world.tables := by
  cases h with
  | idle => rfl
  | carried c asked =>
    rcases hmethod with hget | hoptions
    · obtain ⟨caller, lobby, rfl⟩ := asked.read_of_get hget
      exact World.execute_read_tables a.settings.rules a.missing a.world caller lobby
    · exact absurd asked (not_asks_of_options hoptions c)

/-- Whatever is answered, the tables are as they were or as the command that is asked for leaves
them. -/
theorem Effect.tables_or_execute (h : a.Effect r response w) (hstored : a.world.tables.Storable) :
    w.tables = a.world.tables ∨ ∃ c result, a.Asks r c ∧
      a.world.execute a.settings.rules a.missing c = (.ok result, w) := by
  cases h with
  | idle => exact .inl rfl
  | carried c asked =>
    cases hresult : (a.world.execute a.settings.rules a.missing c).1 with
    | ok result => exact .inr ⟨c, result, asked, Prod.ext hresult rfl⟩
    | error f =>
      have hkept := World.execute_kept hstored a.settings.rules a.missing c
      exact .inl (hkept.tables_of_error hresult)

end

/-- Whatever has happened to an application since it was set up (`storable_setUp`), a request that
has a URL and is not answered with a success changes no table. One that is answered with a success
does exactly what the command that it asks for does, and nothing if it asks for none. Requests with
the method of reads or of preflights change no table. A request without a URL is never answered with
a success. Its response is bare, and it changes no table or does exactly what it asks for. -/
theorem requests_all_or_nothing {a : App} (h : a.world.tables.Storable) (past : List Event)
    (r : Request) :
    let b := a.after past
    let response := responseOf (b.handle r).1
    let next := (b.handle r).2.world
    (b.FormsUrl r → ¬ response.Succeeds → next.tables = b.world.tables) ∧
    (response.Succeeds →
      (∀ c, b.Asks r c →
        ∃ result, b.world.execute b.settings.rules b.missing c = (.ok result, next)) ∧
      ((∀ c, ¬ b.Asks r c) → next = b.world)) ∧
    (r.method = "GET" ∨ r.method = "OPTIONS" → next.tables = b.world.tables) ∧
    (¬ b.FormsUrl r → response = .bare ∧
      (next.tables = b.world.tables ∨ ∃ c result, b.Asks r c ∧
        b.world.execute b.settings.rules b.missing c = (.ok result, next))) := by
  intro b response next
  have hstored : b.world.tables.Storable := storable_after h past
  have heffect : b.Effect r (responseOf (b.process r).1) next := process_effect hstored r
  have hformed : b.FormsUrl r → responseOf (b.process r).1 = response := by
    intro hurl
    exact congrArg (fun handled => responseOf handled.1) hurl.handle.symm
  have hunformed : ¬ b.FormsUrl r → response = .bare := responseOf_handle
  refine ⟨fun hurl hfail => ?_, fun hsuccess => ?_, heffect.tables_of_method,
    fun hurl => ⟨hunformed hurl, heffect.tables_or_execute hstored⟩⟩
  · rw [hformed hurl] at heffect
    exact heffect.tables_of_not_succeeds hstored hfail
  · have hbare : ¬ Response.bare.Succeeds := by decide
    have hurl : b.FormsUrl r := Decidable.byContradiction fun hurl =>
      hbare (hunformed hurl ▸ hsuccess)
    rw [hformed hurl] at heffect
    exact ⟨fun c hc => heffect.execute_of_succeeds hsuccess hc, heffect.eq_of_not_asks⟩

open Sample in
/-- In an application that has just been set up, Ann is told of a lobby of her own, which is in the
tables. Bob, who is no member, may not look at it. -/
theorem requests_all_or_nothing_ann :
    let a : App := ⟨{}, ⟨.empty, supply⟩, [], 0, [], [], fun _ => none⟩
    let opening :=
      sampleRequest "POST" "/api/lobbies" "00000000-0000-0000-0000-000000000001" "Ann"
    let look := sampleRequest "GET" "/api/lobbies/00000000-0000-4000-8000-000000000001"
      "00000000-0000-0000-0000-000000000002" "Bob"
    setUp (.obj []) supply = .ok a ∧ a.world.tables.Storable ∧ a.FormsUrl opening ∧
      (a.after [.request opening]).FormsUrl look ∧
      (responseOf (a.handle opening).1).Succeeds ∧ a.Asks opening (.create ann) ∧
      (∃ result, a.world.execute a.settings.rules a.missing (.create ann) =
        (.ok result, (a.handle opening).2.world)) ∧
      ¬ (responseOf ((a.after [.request opening]).handle look).1).Succeeds ∧
      ((a.after [.request opening]).handle look).2.world.tables =
        (a.after [.request opening]).world.tables := by
  intro a opening look
  have hstored : a.world.tables.Storable := storable_setUp (setUp_default supply _)
  have hopening : (responseOf (a.handle opening).1).Succeeds := by decide +kernel
  have hcommand : (command a.settings opening.headers .absent .create).toOption =
      some (some (.create ann)) := by
    decide +kernel
  have hasks : a.Asks opening (.create ann) := by
    refine ⟨.create, .absent, by decide +kernel, rfl, ?_⟩
    cases hgiven : command a.settings opening.headers .absent .create with
    | error refused =>
      rw [hgiven] at hcommand
      cases hcommand
    | ok given =>
      rw [hgiven] at hcommand
      exact congrArg _ (Option.some.inj hcommand)
  have hlook : ¬ (responseOf ((a.after [.request opening]).handle look).1).Succeeds := by
    decide +kernel
  have hsetUp : setUp (.obj []) supply = .ok a := setUp_default supply _
  have hurl : a.FormsUrl opening := rfl
  have hurl' : (a.after [.request opening]).FormsUrl look := by decide +kernel
  clear_value a opening look
  obtain ⟨-, hfirst, -⟩ := requests_all_or_nothing hstored [] opening
  obtain ⟨hrefused, -⟩ := requests_all_or_nothing hstored [.request opening] look
  exact ⟨hsetUp, hstored, hurl, hurl', hopening, hasks, (hfirst hopening).1 _ hasks, hlook,
    hrefused hurl' hlook⟩

end App

end GameLobby.Http
