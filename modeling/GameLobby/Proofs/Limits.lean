import Mathlib.Data.List.Induction
import GameLobby.Http.Traffic
import GameLobby.Proofs.Effects

/-!
# The rate limits

A request to one of the two limited routes is counted once its body has been read, whatever becomes
of it then. What an application keeps of the requests so far is a window for each key
(`Limiter.Shows`), and whether the next one is refused can be read off the times at which those with
its key came (`Http.App.limits_exact`).

The key has the path that was asked for in it, and two paths lead to each of the limited routes: the
pattern of a route also matches with a line feed behind it. So a client has two windows for each of
them (`Http.App.limit_exceeded`).
-/

namespace GameLobby

/-! ## Windows -/

namespace Window

/-- The time since which a window is open once there is one more hit: that of the window before, if
it is still open, else that of the hit. -/
def openedBy (opened? : Option Int) (hit : Int) : Int :=
  match opened? with
  | some opened => if hit < opened + duration then opened else hit
  | none => hit

/-- When the last window opened that comes from hits at given times. -/
def lastOpened? (times : List Int) : Option Int :=
  times.foldl (fun opened? hit => some (openedBy opened? hit)) none

/-- The number of hits, of those at given times, in the window that is open at a time. -/
def load (now : Int) (times : List Int) : Nat :=
  match lastOpened? times with
  | some opened => if now < opened + duration then times.countP (opened ≤ ·) else 0
  | none => 0

/-- When the last window opened depends on the last hit and on the window before it. -/
theorem lastOpened?_concat (times : List Int) (hit : Int) :
    lastOpened? (times ++ [hit]) = some (openedBy (lastOpened? times) hit) := by
  rw [lastOpened?, List.foldl_append]
  rfl

/-- A window has opened as soon as there is a hit. -/
theorem lastOpened?_eq_none {times : List Int} (h : lastOpened? times = none) : times = [] := by
  induction times using List.reverseRecOn with
  | nil => rfl
  | append_singleton times hit =>
    rw [lastOpened?_concat] at h
    cases h

/-- The last window opened with a hit, and no hit came after it had closed. -/
theorem lastOpened?_eq_some {times : List Int} {opened : Int}
    (h : lastOpened? times = some opened) :
    opened ∈ times ∧ ∀ t ∈ times, t < opened + duration := by
  induction times using List.reverseRecOn generalizing opened with
  | nil => cases h
  | append_singleton times hit ih =>
    rw [lastOpened?_concat] at h
    obtain rfl := Option.some.inj h
    have hlast : hit < hit + duration := Int.lt_add_of_pos_right hit (by decide)
    cases hbefore : lastOpened? times with
    | none =>
      obtain rfl := lastOpened?_eq_none hbefore
      simpa [openedBy] using hlast
    | some before =>
      obtain ⟨hmem, hall⟩ := ih hbefore
      by_cases hopen : hit < before + duration
      · simpa [openedBy, hopen, hmem, or_imp, forall_and] using hall
      · have hearlier : ∀ t ∈ times, t < hit + duration := by
          intro t ht
          have := hall t ht
          omega
        simpa [openedBy, hopen, or_imp, forall_and, hlast] using hearlier

/-- The window of a key after one more hit. -/
def next (key : RateLimit.Key) (now : Int) : Option Window → Window
  | some w => if w.isOpen now then { w with hits := w.hits + 1 } else ⟨key, now, 1⟩
  | none => ⟨key, now, 1⟩

/-- A window goes on with its key. -/
theorem key_next {key : RateLimit.Key} {now : Int} {w? : Option Window}
    (h : ∀ w ∈ w?, w.isFor key) : (next key now w?).key = key := by
  cases w? with
  | none => rfl
  | some w =>
    have hkey : w.key = key := by simpa [isFor] using h w rfl
    rw [next]
    split
    · exact hkey
    · rfl

/-- The window of a key after hits at given times. -/
def ofTimes? (key : RateLimit.Key) (times : List Int) : Option Window :=
  (lastOpened? times).map fun opened => ⟨key, opened, times.countP (opened ≤ ·)⟩

/-- One more hit makes the window after it of the one before it. -/
theorem ofTimes?_concat {key : RateLimit.Key} {times : List Int} {now : Int}
    (hpast : ∀ t ∈ times, t ≤ now) :
    ofTimes? key (times ++ [now]) = some (next key now (ofTimes? key times)) := by
  rw [ofTimes?, lastOpened?_concat, ofTimes?]
  cases hbefore : lastOpened? times with
  | none =>
    obtain rfl := lastOpened?_eq_none hbefore
    simp [openedBy, next]
  | some before =>
    obtain ⟨hmem, hall⟩ := lastOpened?_eq_some hbefore
    by_cases hopen : now < before + duration
    · simp [openedBy, next, isOpen, hopen, hpast before hmem]
    · have hearlier : ∀ t ∈ times, ¬ now ≤ t := by
        intro t ht
        have := hall t ht
        omega
      simpa [openedBy, next, isOpen, hopen, List.countP_eq_zero] using hearlier

end Window

/-! ## The windows of a limiter -/

namespace RateLimit

/-- The times of the hits on the keys of some kind. -/
def timesOf (kind : Key → Bool) (hits : List (Key × Int)) : List Int :=
  (hits.filter fun hit => kind hit.1).map (·.2)

/-- Only which hits are of a kind matters. -/
theorem timesOf_congr {kind kind' : Key → Bool} {hits : List (Key × Int)}
    (h : ∀ hit ∈ hits, kind hit.1 = kind' hit.1) : timesOf kind hits = timesOf kind' hits := by
  rw [timesOf, timesOf, List.filter_congr h]

end RateLimit

namespace Limiter

open RateLimit (Key timesOf)

/-- After some hits, the window of each key is what comes of its own. -/
def Shows (limiter : Limiter) (hits : List (Key × Int)) : Prop :=
  ∀ key, limiter.find? (Window.isFor key) = Window.ofTimes? key (timesOf (· = key) hits)

variable {limiter : Limiter} {hits : List (Key × Int)} {now : Int}

theorem Shows.nil : Shows [] [] :=
  fun _ => rfl

/-- Recording a hit puts its window in front and takes the one of before away. -/
theorem record_eq (limiter : Limiter) (key : Key) (now : Int) :
    limiter.record key now =
      Window.next key now (limiter.find? (Window.isFor key)) ::
        limiter.filter fun w => !w.isFor key := by
  rw [record]
  cases limiter.find? (Window.isFor key) with
  | none => rfl
  | some w =>
    dsimp only [Window.next]
    split <;> rfl

/-- A hit changes the window of its own key only. -/
theorem find?_record (limiter : Limiter) (key key' : Key) (now : Int) :
    (limiter.record key now).find? (Window.isFor key') =
      if key' = key then some (Window.next key now (limiter.find? (Window.isFor key)))
      else limiter.find? (Window.isFor key') := by
  have hnext : (Window.next key now (limiter.find? (Window.isFor key))).key = key :=
    Window.key_next fun w hw => List.find?_some hw
  rw [record_eq, List.find?_cons]
  split
  · next hfor =>
    have hsame : key' = key := by
      rw [← hnext]
      simpa [Window.isFor, eq_comm] using hfor
    rw [if_pos hsame]
  · next hfor =>
    have hother : key' ≠ key := by
      rintro rfl
      simp [Window.isFor, hnext] at hfor
    rw [if_neg hother, List.find?_filter]
    congr 1
    funext w
    rw [Bool.eq_iff_iff]
    simp only [Window.isFor, Bool.not_eq_true', decide_eq_true_eq,
      decide_eq_false_iff_not, and_iff_right_iff_imp]
    rintro rfl
    exact hother

/-- A hit that comes last is recorded in the window of its key. -/
theorem Shows.record (h : limiter.Shows hits) (hpast : ∀ hit ∈ hits, hit.2 ≤ now) (key : Key) :
    (limiter.record key now).Shows (hits ++ [(key, now)]) := by
  intro key'
  rw [find?_record, timesOf, List.filter_append, List.map_append]
  by_cases hsame : key' = key
  · subst hsame
    have hearlier : ∀ t ∈ timesOf (· = key') hits, t ≤ now := by
      intro t ht
      obtain ⟨hit, hhit, rfl⟩ := List.mem_map.1 ht
      exact hpast hit (List.mem_filter.1 hhit).1
    rw [if_pos rfl, h key', ← Window.ofTimes?_concat hearlier]
    simp [timesOf]
  · rw [if_neg hsame, h key']
    simp [timesOf, Ne.symm hsame]

/-- The count of a key is the load of its window. -/
theorem Shows.count (h : limiter.Shows hits) (key : Key) :
    limiter.count key now = Window.load now (timesOf (· = key) hits) := by
  rw [Limiter.count, h key, Window.ofTimes?, Window.load]
  cases Window.lastOpened? (timesOf (· = key) hits) with
  | none => rfl
  | some opened => simp [Window.isOpen]

end Limiter

/-! ## The limited routes -/

namespace RateLimit

/-- The route that has a limit. -/
def route : RateLimit → Http.Route
  | createLobby => .create
  | joinLobby => .join

/-- The path of the route that has a limit. -/
def path : RateLimit → Text
  | createLobby => "/api/lobbies"
  | joinLobby => "/api/lobbies/join"

end RateLimit

namespace Http

/-- Each limit has one route. -/
theorem Route.limit?_eq_some_iff {route : Route} {limit : RateLimit} :
    route.limit? = some limit ↔ route = limit.route := by
  cases route <;> cases limit <;> simp [limit?, RateLimit.route]

/-- A path is split at its slashes. -/
theorem Route.segments_eq_splitOn (path : Text) :
    segments path = path.splitOn (.scalar '/') := by
  induction path with
  | nil => rfl
  | cons p rest ih =>
    rw [segments, ih, List.splitOn_cons_eq_if_modifyHead]
    cases hrest : rest.splitOn (.scalar '/') with
    | nil => exact absurd hrest (List.splitOn_ne_nil _ _)
    | cons s more => simp

/-- The segments of a path that match fixed words are these, but for a line feed at the end. -/
theorem Route.intercalate_of_parameters? (w : String) (words : List String)
    {parts found : List Text} (h : parameters? (.word w :: words.map .word) parts = some found) :
    let plain := [.scalar '/'].intercalate ((w :: words).map Text.ofString)
    [.scalar '/'].intercalate parts = plain ∨
      [.scalar '/'].intercalate parts = plain ++ [.scalar '\n'] := by
  induction words generalizing w parts with
  | nil =>
    rcases parts with _ | ⟨s, _ | ⟨s', rest⟩⟩
    · cases h
    · simp only [List.map_nil, parameters?] at h
      split at h
      · next hlast => simpa using hlast
      · cases h
    · simp [parameters?] at h
  | cons w' words ih =>
    rcases parts with _ | ⟨s, _ | ⟨s', rest⟩⟩
    · cases h
    · simp [parameters?] at h
    · simp only [List.map_cons, parameters?] at h
      split at h
      · next hword =>
        rw [List.map_cons, List.map_cons, List.intercalate_cons_cons, List.intercalate_cons_cons,
          hword]
        simpa using ih w' h
      · cases h

/-- Two paths lead to a limited route: its own, and that with a line feed behind it. -/
theorem path_of_destination {method path : Text} {limit : RateLimit}
    (h : destination method path = .route limit.route) :
    path = limit.path ∨ path = limit.path ++ [.scalar '\n'] := by
  obtain ⟨e, he, -, hroute⟩ := App.entry_of_destination h
  obtain ⟨parameters, hfound, hgives⟩ := Option.bind_eq_some_iff.1 hroute
  rw [Route.segments_eq_splitOn] at hfound
  simp only [Route.table, List.mem_cons, List.not_mem_nil, or_false] at he
  rcases he with rfl | rfl | rfl | rfl | rfl | rfl | rfl <;> dsimp only at hfound hgives <;>
    split at hgives <;> cases limit <;> cases hgives
  · have hpath := Route.intercalate_of_parameters? "" ["api", "lobbies"] hfound
    rwa [List.intercalate_splitOn] at hpath
  · have hpath := Route.intercalate_of_parameters? "" ["api", "lobbies", "join"] hfound
    rwa [List.intercalate_splitOn] at hpath

/-- A request gets to the check of a limit: it is to the route, and what that needs of its body has
been read. -/
def Request.MeetsLimit (r : Request) (limit : RateLimit) : Prop :=
  destination r.method r.path = .route limit.route ∧ ∃ body, App.bodyFor limit.route r = .ok body

/-- What a request counts for at the check of a limit. -/
def Request.key (r : Request) (limit : RateLimit) : RateLimit.Key :=
  ⟨limit, r.address, r.path⟩

/-- What a request is counted for, if it gets to a check. -/
def Request.key? (r : Request) : Option RateLimit.Key :=
  match destination r.method r.path with
  | .route route =>
    match App.bodyFor route r with
    | .ok _ => route.limit?.map r.key
    | .error _ => none
  | _ => none

section
variable {r : Request} {route : Route} {limit : RateLimit} {key : RateLimit.Key}

/-- A request whose body has been read is counted for the limit of its route, if there is one. -/
theorem Request.key?_of_route {body : Body} (hroute : destination r.method r.path = .route route)
    (hbody : App.bodyFor route r = .ok body) : r.key? = route.limit?.map r.key := by
  rw [Request.key?, hroute]
  dsimp only
  rw [hbody]

/-- A request whose body cannot be read is not counted. -/
theorem Request.key?_of_error {fault : BodyFault}
    (hroute : destination r.method r.path = .route route)
    (hbody : App.bodyFor route r = .error fault) : r.key? = none := by
  rw [Request.key?, hroute]
  dsimp only
  rw [hbody]

/-- A request that leads to no route is not counted. -/
theorem Request.key?_of_no_route (h : ∀ route, destination r.method r.path ≠ .route route) :
    r.key? = none := by
  rw [Request.key?]
  split
  · next route hroute => exact absurd hroute (h route)
  · rfl

/-- A request is counted exactly if it gets to the check of a limit. -/
theorem Request.key?_eq_some_iff :
    r.key? = some key ↔ ∃ limit, r.MeetsLimit limit ∧ r.key limit = key := by
  constructor
  · intro hkey
    rw [Request.key?] at hkey
    split at hkey
    · next route hroute =>
      split at hkey
      · next body hbody =>
        obtain ⟨limit, hlimit, hlast⟩ := Option.map_eq_some_iff.1 hkey
        obtain rfl := Route.limit?_eq_some_iff.1 hlimit
        exact ⟨limit, ⟨hroute, body, hbody⟩, hlast⟩
      · cases hkey
    · cases hkey
  · rintro ⟨limit, ⟨hroute, body, hbody⟩, rfl⟩
    rw [Request.key?_of_route hroute hbody, Route.limit?_eq_some_iff.2 rfl]
    rfl

/-- A request asks for the path of the limit that it is counted for, with or without a line feed. -/
theorem Request.MeetsLimit.path (h : r.MeetsLimit limit) :
    r.path = limit.path ∨ r.path = limit.path ++ [.scalar '\n'] :=
  path_of_destination h.1

/-- A request gets to one check at most. -/
theorem Request.MeetsLimit.unique {limit' : RateLimit} (h : r.MeetsLimit limit)
    (h' : r.MeetsLimit limit') : limit = limit' := by
  have hroute : Destination.route limit.route = .route limit'.route := h.1.symm.trans h'.1
  cases limit <;> cases limit' <;> first | rfl | cases hroute

/-- Of its headers, only the content type decides what a request is counted for. -/
theorem Request.key?_headers (r : Request) {headers : Headers}
    (h : header? headers "content-type" = header? r.headers "content-type") :
    ({ r with headers } : Request).key? = r.key? := by
  have hbody : readBody { r with headers } = readBody r := by
    simp only [readBody, h]
  simp only [Request.key?, App.bodyFor, hbody]
  rfl

/-! ## A request at the check -/

/-- The headers for other origins leave the status alone. -/
theorem Cors.status_decorate (s : Settings) (headers : Headers) (response : Response) :
    (decorate s headers response).status = response.status := by
  obtain ⟨more, hmore⟩ := decorate_eq s headers response
  rw [hmore]

/-- A preflight is granted or denied. -/
theorem Cors.status_preflight {s : Settings} {response : Response}
    (h : preflight? s r = some response) : response.status = 200 ∨ response.status = 400 := by
  rw [preflight?] at h
  split at h
  · split at h
    · cases h
      dsimp only [preflight]
      split
      · exact .inl rfl
      · exact .inr rfl
    · cases h
  · cases h

namespace App

variable {a : App}

/-- A request is refused by a limit: it gets to the check, and as many as the limit admits have been
counted for the same. -/
structure Refuses (a : App) (r : Request) (limit : RateLimit) : Prop where
  enabled : a.settings.rateLimiting = true
  meets : r.MeetsLimit limit
  exceeded : limit.perMinute ≤ a.limiter.count (r.key limit) a.time

/-- The limits after a request. -/
def counted (a : App) (r : Request) : Limiter :=
  match r.key? with
  | some key => if a.settings.rateLimiting then a.limiter.record key a.time else a.limiter
  | none => a.limiter

/-- A request is refused for its limit if limits are enabled and its window is full. -/
theorem charge_eq_some_iff :
    (a.charge route r).1 = some limit ↔
      route = limit.route ∧ a.settings.rateLimiting = true ∧
        limit.perMinute ≤ a.limiter.count (r.key limit) a.time := by
  rw [← Route.limit?_eq_some_iff, charge]
  cases route.limit? with
  | none => simp
  | some limit' =>
    have hexceeded : limit' = limit →
        (limit'.perMinute ≤ a.limiter.count (r.key limit') a.time ↔
          limit.perMinute ≤ a.limiter.count (r.key limit) a.time) := by
      rintro rfl
      rfl
    by_cases henabled : a.settings.rateLimiting = true
    · simpa [Limiter.hit, Request.key, henabled, and_comm] using hexceeded
    · simp [henabled]

/-- Counting a request changes the limits as it is counted for. -/
theorem charge_limiter {body : Body} (hroute : destination r.method r.path = .route route)
    (hbody : bodyFor route r = .ok body) :
    (a.charge route r).2 = { a with limiter := a.counted r } := by
  rw [charge, counted, Request.key?_of_route hroute hbody]
  cases route.limit? with
  | none => rfl
  | some limit =>
    dsimp only [Option.map_some]
    split <;> rfl

/-- A command changes nothing of an application but its world. -/
theorem execute_snd (a : App) (c : Command) : ∃ world, (a.execute c).2 = { a with world } := by
  rw [execute]
  split
  · exact ⟨a.world, rfl⟩
  · exact ⟨_, rfl⟩

/-- A request changes the limits as it is counted, and else the world only. -/
theorem dispatch_snd {body : Body} (hroute : destination r.method r.path = .route route)
    (hbody : bodyFor route r = .ok body) :
    ∃ world, (a.dispatch route r body).2 = { a with limiter := a.counted r, world } := by
  have hcharged := charge_limiter (a := a) hroute hbody
  rw [dispatch]
  cases hcharge : a.charge route r with | mk limited charged =>
  rw [hcharge] at hcharged
  obtain rfl : charged = _ := hcharged
  cases limited with
  | some limit => exact ⟨a.world, rfl⟩
  | none =>
    dsimp only
    split
    · exact ⟨a.world, rfl⟩
    · exact ⟨a.world, rfl⟩
    · exact execute_snd _ _

/-- A request to a route changes the limits as it is counted, and else the world only. -/
theorem serve_snd (hroute : destination r.method r.path = .route route) :
    ∃ world, (a.serve route r).2 = { a with limiter := a.counted r, world } := by
  rw [serve_eq]
  cases hbody : bodyFor route r with
  | error fault =>
    refine ⟨a.world, ?_⟩
    rw [counted, Request.key?_of_error hroute hbody]
    cases fault <;> rfl
  | ok body => exact dispatch_snd hroute hbody

/-- Without a route, a request changes nothing and is not told that there are too many. -/
theorem process_of_no_route (a : App) (h : ∀ route, destination r.method r.path ≠ .route route) :
    ∃ response : Response, a.process r = (.responded response, a) ∧ response.status ≠ 429 := by
  rw [process]
  cases hpreflight : Cors.preflight? a.settings r with
  | some response =>
    refine ⟨response, rfl, ?_⟩
    rcases Cors.status_preflight hpreflight with hstatus | hstatus <;> rw [hstatus] <;> decide
  | none =>
    dsimp only
    rw [answer]
    cases hdestination : destination r.method r.path with
    | route route => exact absurd hdestination (h route)
    | otherMethod | redirect | nowhere =>
      refine ⟨_, rfl, ?_⟩
      rw [Cors.status_decorate]
      exact Nat.ne_of_beq_eq_false rfl

/-- Whatever a request is to, it changes the limits as it is counted, and else the world only. -/
theorem handle_snd (a : App) (r : Request) :
    ∃ world, (a.handle r).2 = { a with limiter := a.counted r, world } := by
  rw [handle_eq]
  dsimp only
  by_cases hroute : ∃ route, destination r.method r.path = .route route
  · obtain ⟨route, hroute⟩ := hroute
    obtain ⟨world, hserved⟩ := serve_snd (a := a) hroute
    refine ⟨world, ?_⟩
    rw [process_eq_of_route hroute, ← hserved]
    cases a.serve route r with | mk outcome after =>
    cases outcome <;> rfl
  · obtain ⟨response, hprocess, -⟩ := process_of_no_route a (not_exists.1 hroute)
    rw [hprocess, counted, Request.key?_of_no_route (not_exists.1 hroute)]
    exact ⟨a.world, rfl⟩

/-! ## The answer to too many requests -/

/-- No failure is answered as too many requests. -/
theorem status_failed_ne (f : Failure) : (responseOf (failed f)).status ≠ 429 := by
  intro hstatus
  have hmem := status_failed f
  rw [hstatus] at hmem
  exact absurd hmem (by decide)

/-- Nothing that comes of a command is answered as too many requests. -/
theorem status_execute_ne (a : App) (c : Command) :
    (responseOf (a.execute c).1).status ≠ 429 := by
  rw [execute]
  split
  · exact status_failed_ne _
  · dsimp only
    split
    · next result _ =>
      have hsuccess := status_respond c result
      rcases (respond c result).status_send with hsent | hsent <;> rw [hsent]
      · omega
      · decide
    · exact status_failed_ne _

/-- Whoever is not refused by a limit is not told that there are too many requests. -/
theorem status_serve_ne (hroute : destination r.method r.path = .route route)
    (h : ∀ limit, ¬ a.Refuses r limit) : (responseOf (a.serve route r).1).status ≠ 429 := by
  rw [serve_eq]
  cases hbody : bodyFor route r with
  | error fault =>
    cases fault <;> dsimp only
    case unreadable => decide
    case malformed => exact status_failed_ne _
  | ok body =>
    dsimp only
    rw [dispatch_fst]
    cases hcharge : (a.charge route r).1 with
    | some limit =>
      obtain ⟨rfl, henabled, hexceeded⟩ := charge_eq_some_iff.1 hcharge
      exact absurd ⟨henabled, ⟨hroute, body, hbody⟩, hexceeded⟩ (h limit)
    | none =>
      dsimp only
      split
      · exact status_failed_ne _
      · cases route <;> exact Nat.ne_of_beq_eq_false rfl
      · exact status_execute_ne _ _

/-- Whoever is refused by a limit is told so. -/
theorem Refuses.process (h : a.Refuses r limit) :
    (a.process r).1 = .responded (Cors.decorate a.settings r.headers (tooMany limit)) := by
  obtain ⟨henabled, ⟨hroute, body, hbody⟩, hexceeded⟩ := h
  have hcharge := charge_eq_some_iff.2 ⟨rfl, henabled, hexceeded⟩
  rw [process_of_route hroute, serve_eq, hbody]
  dsimp only
  rw [dispatch_fst, hcharge]

/-- Before it is logged, a request is told that there are too many if a limit refuses it. -/
theorem status_process_eq_iff :
    (responseOf (a.process r).1).status = 429 ↔ ∃ limit, a.Refuses r limit := by
  constructor
  · contrapose!
    intro hnone
    by_cases hroute : ∃ route, destination r.method r.path = .route route
    · obtain ⟨route, hroute⟩ := hroute
      have hserved := status_serve_ne hroute hnone
      rw [process_of_route hroute]
      cases houtcome : (a.serve route r).1 with
      | responded response =>
        rw [houtcome] at hserved
        dsimp only [responseOf]
        rwa [Cors.status_decorate]
      | escaped f => exact Nat.ne_of_beq_eq_false rfl
    · obtain ⟨response, hprocess, hstatus⟩ := process_of_no_route a (not_exists.1 hroute)
      rwa [hprocess]
  · rintro ⟨limit, hrefuses⟩
    rw [hrefuses.process]
    dsimp only [responseOf]
    rw [Cors.status_decorate]
    rfl

/-- Once it has been logged, that goes for a request that has a URL. -/
theorem status_handle_eq_iff :
    (responseOf (a.handle r).1).status = 429 ↔ a.FormsUrl r ∧ ∃ limit, a.Refuses r limit := by
  by_cases hurl : a.FormsUrl r
  · rw [hurl.handle, status_process_eq_iff, and_iff_right hurl]
  · rw [responseOf_handle hurl]
    exact iff_of_false (by decide) fun htold => hurl htold.1

end App

end

namespace App

open RateLimit (Key timesOf)

/-! ## Along the events -/

/-- The microseconds that pass in an event. -/
def Event.elapsed : Event → Int
  | .advance micros => micros
  | _ => 0

/-- The hit of an event at a time, if it is one. -/
def Event.hits (now : Int) : Event → List (Key × Int)
  | .request r => (r.key?.map fun key => (key, now)).toList
  | _ => []

/-- The hits of events that begin at a time. -/
def hits (now : Int) : List Event → List (Key × Int)
  | [] => []
  | e :: events => e.hits now ++ hits (now + e.elapsed) events

/-- An application that counts has the windows of the hits so far, none of which is yet to come. -/
structure Tallies (a : App) (hits : List (Key × Int)) : Prop where
  shows : a.settings.rateLimiting = true → a.limiter.Shows hits
  past : ∀ hit ∈ hits, hit.2 ≤ a.time

/-- An event leaves the settings alone, and has no say in whether a URL can be formed. -/
theorem happen_fixed (a : App) (e : Event) :
    (a.happen e).settings = a.settings ∧ (a.happen e).urlFault? = a.urlFault? := by
  cases e with
  | request r =>
    obtain ⟨world, hhandle⟩ := handle_snd a r
    rw [happen, hhandle]
    exact ⟨rfl, rfl⟩
  | setStatus | advance | lose | sabotage => exact ⟨rfl, rfl⟩

/-- The time after an event is later by what passes in it. -/
theorem happen_time (a : App) (e : Event) : (a.happen e).time = a.time + e.elapsed := by
  cases e with
  | request r =>
    obtain ⟨world, hhandle⟩ := handle_snd a r
    rw [happen, hhandle]
    exact (Int.add_zero a.time).symm
  | advance micros => rfl
  | setStatus | lose | sabotage => exact (Int.add_zero a.time).symm

variable {a : App} {before : List (Key × Int)}

/-- A request that comes last is tallied as it is counted for. -/
theorem Tallies.counted (h : a.Tallies before) (henabled : a.settings.rateLimiting = true)
    (r : Request) : (a.counted r).Shows (before ++ (Event.request r).hits a.time) := by
  rw [App.counted, Event.hits]
  cases r.key? with
  | none => simpa using h.shows henabled
  | some key =>
    dsimp only [Option.map_some, Option.toList_some]
    rw [if_pos henabled]
    exact (h.shows henabled).record h.past key

/-- After an event that does not turn back time, its hits are among those that are tallied. -/
theorem Tallies.happen (h : a.Tallies before) {e : Event} (hforward : 0 ≤ e.elapsed) :
    (a.happen e).Tallies (before ++ e.hits a.time) := by
  constructor
  · rw [(happen_fixed a e).1]
    intro henabled
    cases e with
    | request r =>
      obtain ⟨world, hhandle⟩ := handle_snd a r
      rw [App.happen, hhandle]
      exact h.counted henabled r
    | setStatus | advance | lose | sabotage =>
      change a.limiter.Shows (before ++ [])
      rw [List.append_nil]
      exact h.shows henabled
  · intro hit hhit
    rw [happen_time]
    rcases List.mem_append.1 hhit with hbefore | hnow
    · exact Int.le_trans (h.past hit hbefore) (Int.le_add_of_nonneg_right hforward)
    · cases e with
      | request r =>
        obtain ⟨key, -, rfl⟩ := Option.map_eq_some_iff.1 (Option.mem_toList.1 hnow)
        exact Int.le_add_of_nonneg_right hforward
      | setStatus | advance | lose | sabotage => cases hnow

/-- After any number of such events, so are the hits of all of them. -/
theorem Tallies.after (h : a.Tallies before) {events : List Event}
    (hforward : ∀ e ∈ events, 0 ≤ e.elapsed) :
    (a.after events).Tallies (before ++ hits a.time events) := by
  induction events generalizing a before with
  | nil =>
    rw [hits, List.append_nil]
    exact h
  | cons e events ih =>
    have hnext := ih (h.happen (hforward e List.mem_cons_self)) fun e' he' =>
      hforward e' (List.mem_cons_of_mem _ he')
    rw [happen_time, List.append_assoc] at hnext
    exact hnext

/-- No events change the settings, or have a say in whether a URL can be formed. -/
theorem after_fixed (a : App) (events : List Event) :
    (a.after events).settings = a.settings ∧ (a.after events).urlFault? = a.urlFault? := by
  induction events generalizing a with
  | nil => exact ⟨rfl, rfl⟩
  | cons e events ih =>
    obtain ⟨hsettings, hurl⟩ := ih (a.happen e)
    obtain ⟨hsettings', hurl'⟩ := happen_fixed a e
    exact ⟨hsettings.trans hsettings', hurl.trans hurl'⟩

/-- After some events, a limit refuses a request that gets to it if the load of its window is that
of the limit. -/
theorem refuses_after_iff (hfresh : a.limiter = []) {events : List Event}
    (hforward : ∀ e ∈ events, 0 ≤ e.elapsed) (r : Request) (limit : RateLimit) :
    (a.after events).Refuses r limit ↔
      a.settings.rateLimiting = true ∧ r.MeetsLimit limit ∧
        limit.perMinute ≤
          Window.load (a.after events).time (timesOf (· = r.key limit) (hits a.time events)) := by
  have hinitial : a.Tallies [] := ⟨fun _ => hfresh ▸ .nil, nofun⟩
  have htallies := hinitial.after hforward
  rw [List.nil_append] at htallies
  have hsettings := (after_fixed a events).1
  constructor
  · rintro ⟨henabled, hmeets, hexceeded⟩
    rw [(htallies.shows henabled).count] at hexceeded
    exact ⟨hsettings ▸ henabled, hmeets, hexceeded⟩
  · rintro ⟨henabled, hmeets, hexceeded⟩
    rw [← hsettings] at henabled
    rw [← (htallies.shows henabled).count] at hexceeded
    exact ⟨henabled, hmeets, hexceeded⟩

/-- The times at which requests of an address have got to the check of a limit. -/
def timesFor (limit : RateLimit) (address : Text) (hits : List (Key × Int)) : List Int :=
  timesOf (fun key => key.limit = limit ∧ key.client = address) hits

/-- A request that gets to the check of a limit is told that there are too many if that limit
refuses it and it has a URL. -/
theorem status_handle_eq_iff_of_meets {r : Request} {limit : RateLimit} (h : r.MeetsLimit limit) :
    (responseOf (a.handle r).1).status = 429 ↔ a.FormsUrl r ∧ a.Refuses r limit := by
  rw [status_handle_eq_iff]
  constructor
  · rintro ⟨hurl, limit', hrefuses⟩
    rw [h.unique hrefuses.meets]
    exact ⟨hurl, hrefuses⟩
  · exact fun ⟨hurl, hrefuses⟩ => ⟨hurl, limit, hrefuses⟩

/-- Where an address has asked for the path of a limit itself only, the hits with the key of a
request are those of its address and that limit. -/
theorem timesOf_key_eq {r : Request} {limit : RateLimit} {hits : List (Key × Int)}
    (hpath : r.path = limit.path)
    (hpaths : ∀ hit ∈ hits, hit.1.limit = limit → hit.1.client = r.address →
      hit.1.path = limit.path) :
    timesOf (· = r.key limit) hits = timesFor limit r.address hits := by
  refine RateLimit.timesOf_congr fun hit hhit => ?_
  have hown := hpaths hit hhit
  rcases hit with ⟨⟨limit', client, path⟩, time⟩
  dsimp only at hown
  simp only [Request.key, hpath, RateLimit.Key.mk.injEq, decide_eq_decide]
  constructor
  · rintro ⟨rfl, rfl, -⟩
    exact ⟨rfl, rfl⟩
  · rintro ⟨rfl, rfl⟩
    exact ⟨rfl, rfl, hown rfl rfl⟩

/-- What is told to a request to an application that has started without windows, whatever has
happened since. There are too many requests exactly if limits are enabled, the request gets to the
check of one, and the window that is open for its key is full; a request without a URL is counted,
but not told so. Where an address has put no line feed behind the path of a limit, that is its
window for this limit. What became of the requests before is not asked, and of the headers of a
request only the content type matters to what it is counted for. -/
theorem limits_exact {a : App} (hfresh : a.limiter = []) {events : List Event}
    (hforward : ∀ e ∈ events, 0 ≤ e.elapsed) (r : Request) :
    let b := a.after events
    let response := responseOf (b.handle r).1
    let earlier := hits a.time events
    (response.status = 429 ↔
      a.FormsUrl r ∧ a.settings.rateLimiting = true ∧ ∃ limit, r.MeetsLimit limit ∧
        limit.perMinute ≤ Window.load b.time (timesOf (· = r.key limit) earlier)) ∧
    (∀ limit, r.MeetsLimit limit →
      (response.status = 429 →
        response = Cors.decorate a.settings r.headers (tooMany limit)) ∧
      (r.path = limit.path ∨ r.path = limit.path ++ [.scalar '\n']) ∧
      (r.path = limit.path →
        (∀ hit ∈ earlier, hit.1.limit = limit → hit.1.client = r.address →
          hit.1.path = limit.path) →
        (response.status = 429 ↔ a.FormsUrl r ∧ a.settings.rateLimiting = true ∧
          limit.perMinute ≤ Window.load b.time (timesFor limit r.address earlier)))) ∧
    (∀ key, r.key? = some key ↔ ∃ limit, r.MeetsLimit limit ∧ r.key limit = key) ∧
    ∀ headers, header? headers "content-type" = header? r.headers "content-type" →
      ({ r with headers } : Request).key? = r.key? := by
  intro b response earlier
  have hrefuses := refuses_after_iff hfresh hforward r
  obtain ⟨hsettings, hsame⟩ := after_fixed a events
  have hurl : b.FormsUrl r ↔ a.FormsUrl r := by
    rw [FormsUrl, FormsUrl, hsame]
  refine ⟨?_, fun limit hmeets => ⟨fun hstatus => ?_, hmeets.path, fun hpath hpaths => ?_⟩,
    fun _ => Request.key?_eq_some_iff, fun _ => r.key?_headers⟩
  · calc response.status = 429
      _ ↔ b.FormsUrl r ∧ ∃ limit, b.Refuses r limit := status_handle_eq_iff
      _ ↔ a.FormsUrl r ∧ ∃ limit, a.settings.rateLimiting = true ∧ r.MeetsLimit limit ∧
          limit.perMinute ≤ Window.load b.time (timesOf (· = r.key limit) earlier) :=
        and_congr hurl (exists_congr hrefuses)
      _ ↔ _ := and_congr_right' exists_and_left
  · obtain ⟨hformed, hrefused⟩ := (status_handle_eq_iff_of_meets hmeets).1 hstatus
    have htold := hrefused.process
    rw [hsettings, ← hformed.handle] at htold
    exact congrArg responseOf htold
  · rw [status_handle_eq_iff_of_meets hmeets, hurl, hrefuses, timesOf_key_eq hpath hpaths,
      and_iff_right hmeets]

/-- A request without headers and body. -/
def bareRequest (method path : Text) (client : Option Text) : Request :=
  ⟨method, path, [], [], [], client⟩

/-- An eleventh creation is one too many while the window is open, and no longer when it has
closed. -/
theorem limits_exact_eleventh :
    let a : App := ⟨{}, ⟨.empty, Sample.supply⟩, [], 0, [], [], fun _ => none⟩
    let knock := bareRequest "POST" "/api/lobbies" (some "10.0.0.1")
    let full : List Event := List.replicate 10 (.request knock) ++ [.advance 59999999]
    let closed := full ++ [.advance 1]
    a.limiter = [] ∧ a.FormsUrl knock ∧ (∀ e ∈ full, 0 ≤ e.elapsed) ∧
      (∀ e ∈ closed, 0 ≤ e.elapsed) ∧
      (responseOf ((a.after full).handle knock).1).status = 429 ∧
      (responseOf ((a.after closed).handle knock).1).status ≠ 429 := by
  intro a knock full closed
  have hfull : ∀ e ∈ full, 0 ≤ e.elapsed := by decide +kernel
  have hclosed : ∀ e ∈ closed, 0 ≤ e.elapsed := by decide +kernel
  have hmeets : knock.MeetsLimit .createLobby := ⟨by decide +kernel, .absent, rfl⟩
  have hpath : knock.path = RateLimit.createLobby.path := rfl
  have hfullPaths : ∀ hit ∈ hits a.time full, hit.1.limit = .createLobby →
      hit.1.client = knock.address → hit.1.path = RateLimit.createLobby.path := by
    decide +kernel
  have hclosedPaths : ∀ hit ∈ hits a.time closed, hit.1.limit = .createLobby →
      hit.1.client = knock.address → hit.1.path = RateLimit.createLobby.path := by
    decide +kernel
  have hten : Window.load (a.after full).time
      (timesFor .createLobby knock.address (hits a.time full)) = 10 := by
    decide +kernel
  have hnone : Window.load (a.after closed).time
      (timesFor .createLobby knock.address (hits a.time closed)) = 0 := by
    decide +kernel
  have hfresh : a.limiter = [] := rfl
  have henabled : a.settings.rateLimiting = true := rfl
  have hurl : a.FormsUrl knock := rfl
  clear_value a knock full closed
  obtain ⟨-, hopen, -⟩ := limits_exact hfresh hfull knock
  obtain ⟨-, hlater, -⟩ := limits_exact hfresh hclosed knock
  have hrefused := ((hopen .createLobby hmeets).2.2 hpath hfullPaths).2
    ⟨hurl, henabled, Nat.le_of_eq hten.symm⟩
  refine ⟨hfresh, hurl, hfull, hclosed, hrefused, fun hstatus => ?_⟩
  obtain ⟨-, -, hexceeded⟩ := ((hlater .createLobby hmeets).2.2 hpath hclosedPaths).1 hstatus
  rw [hnone] at hexceeded
  exact absurd hexceeded (by decide)

/-- Ten creations at the path with a line feed behind it leave an address all that it has at the
path itself. -/
theorem limit_exceeded :
    ¬ ∀ (a : App) (events : List Event) (r : Request) (limit : RateLimit), a.limiter = [] →
      a.settings.rateLimiting = true → (∀ e ∈ events, 0 ≤ e.elapsed) → a.FormsUrl r →
      r.MeetsLimit limit →
      ((responseOf ((a.after events).handle r).1).status = 429 ↔
        limit.perMinute ≤
          Window.load (a.after events).time (timesFor limit r.address (hits a.time events))) := by
  intro h
  let a : App := ⟨{}, ⟨.empty, Sample.supply⟩, [], 0, [], [], fun _ => none⟩
  let detour : List Event := List.replicate 10 (.request (bareRequest "POST" "/api/lobbies\n" none))
  let r := bareRequest "POST" "/api/lobbies" none
  have hload : Window.load (a.after detour).time
      (timesFor .createLobby r.address (hits 0 detour)) = 10 := by
    decide +kernel
  have hstatus : (responseOf ((a.after detour).handle r).1).status = 401 := by decide +kernel
  have htold := (h a detour r .createLobby rfl rfl (by decide +kernel) rfl
    ⟨by decide +kernel, .absent, rfl⟩).2 (Nat.le_of_eq hload.symm)
  exact absurd (hstatus.symm.trans htold) (by decide)

end App

end Http

end GameLobby
