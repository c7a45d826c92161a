import GameLobby.History
import GameLobby.Proofs.Outcomes
import GameLobby.Proofs.Sound

/-!
# The moves of a service

Whatever a step does to sound tables is one of five moves (`Service.step_move`): nothing, a new
lobby with its leader, a new player, the end of active memberships, or another text for a stage. An
invariant of the tables is shown once for each move. `Tables.Reachable` are the tables that a
history leads to from empty ones, and they are sound (`Tables.Reachable.sound`).
-/

namespace GameLobby

/-- The ways in which a step can change the tables, under a limit on the players of a lobby. -/
inductive Tables.Move (maxPlayers : Int) (t : Tables) : Tables → Prop
  | stay : Move maxPlayers t t
  /-- A waiting lobby with a random code is entered, and its leader as its first member. -/
  | create (user : UserRow) (lobby : LobbyRow) (membership : Uuid) (joinedAt : Timestamp)
      (random : ∃ e, lobby.joinCode = (JoinCode.random JoinCode.size e).1)
      (waiting : lobby.status = Status.waiting.label)
      (leader : lobby.leaderId = user.id)
      (newCode : lobby.joinCode ∉ t.lobbies.map (·.joinCode))
      (newLobby : lobby.id ∉ t.lobbies.map (·.id))
      (newMember : membership ∉ t.members.map (·.id)) :
      Move maxPlayers t (((t.putUser user).addLobby lobby).addMember
        ⟨membership, lobby.id, user.id, joinedAt, true, none⟩)
  /-- A user without an active membership in a waiting lobby with a free seat takes one. -/
  | join (user : UserRow) (lobby : LobbyRow) (membership : Uuid) (joinedAt : Timestamp)
      (known : lobby ∈ t.lobbies)
      (waiting : lobby.status = Status.waiting.label)
      (seat : t.activeCount lobby.id < maxPlayers)
      (absent : t.isActiveMember lobby.id user.id = false)
      (newMember : membership ∉ t.members.map (·.id)) :
      Move maxPlayers t ((t.putUser user).addMember
        ⟨membership, lobby.id, user.id, joinedAt, true, none⟩)
  /-- Memberships end, all of them active ones. -/
  | finish (p : MemberRow → Bool) (leftAt : Timestamp)
      (active : ∀ m ∈ t.members, p m → m.isActive) :
      Move maxPlayers t (t.updateMembers p (.ended leftAt))
  | restage (lobby : Uuid) (status : Text) : Move maxPlayers t (t.setStatus lobby status)

/-- Moves keep the tables sound. -/
theorem Tables.Sound.move {t t' : Tables} {maxPlayers : Int} (h : t.Sound)
    (hmove : t.Move maxPlayers t') : t'.Sound := by
  cases hmove with
  | stay => exact h
  | create user lobby membership joinedAt _ _ leader newCode newLobby newMember =>
    have huser := mem_putUser_self t user
    have hlobby : ((t.putUser user).addLobby lobby).Sound :=
      (h.putUser user).addLobby (by rwa [putUser_lobbies]) (by rwa [putUser_lobbies])
        (by rwa [leader])
    refine hlobby.addMember (by simpa using newMember) huser (by simp) (by simp) ?_
    refine Bool.eq_false_iff.2 fun hactive => newLobby ?_
    obtain ⟨m, hm, hid, -⟩ := isActiveMember_iff.1 hactive
    rw [addLobby_members, putUser_members] at hm
    have hin : m.lobbyId = lobby.id := hid
    exact hin ▸ h.memberLobbies m hm
  | join user lobby membership joinedAt known _ _ absent newMember =>
    refine (h.putUser user).addMember (by simpa using newMember) (mem_putUser_self t user) ?_
      (by simp) ?_
    · rw [putUser_lobbies]
      exact List.mem_map_of_mem known
    · rw [isActiveMember, putUser_members]
      exact absent
  | finish p leftAt _ => exact h.updateMembers_ended p leftAt
  | restage lobby status => exact h.setStatus lobby status

/-! ## Operations are moves -/

namespace World

variable (rules : Rules) (t : Tables) (s : Supply)

/-- A creation is a move, whatever comes of it. -/
theorem perform_create_move (caller : Caller) :
    t.Move rules.maxPlayers (perform {} (.create rules caller) ⟨t, s⟩).2.tables := by
  rw [perform_create]
  split
  · exact .stay
  split
  · exact .stay
  split
  · exact .stay
  next code e hfree =>
  split
  · exact .stay
  next hlobby =>
  split
  · exact .stay
  next hmember =>
  refine .create ⟨caller.userId, caller.username, s.time 0⟩
    ⟨s.id 0, code, caller.userId, Status.waiting.label, s.time 1, s.time 1⟩ (s.id 1) (s.time 2)
    (Tables.freeCode_eq_random hfree) rfl rfl
    (Tables.lobbyByCode?_eq_none_iff.1 (Tables.freeCode_fresh hfree))
    (Tables.lobby?_eq_none_iff.1 (Option.not_isSome_iff_eq_none.1 hlobby)) ?_
  simpa using hmember

/-- Entering a caller whom a lobby takes in, under a new identifier, is a move. -/
theorem withPlayer_move {t : Tables} {rules : Rules} {caller : Caller} {code : Text} {lobby : Lobby}
    (hallow : t.admission rules caller code = .ok lobby)
    (hnew : ¬ t.members.any (·.id = s.id 0) = true) :
    t.Move rules.maxPlayers (t.withPlayer s caller lobby.id) := by
  obtain ⟨row, hrow, hlobby, hwaiting, hseat, habsent⟩ := Tables.admission_ok hallow
  obtain ⟨hstatus, hl⟩ := LobbyRow.lobby?_ok hlobby
  have hid : lobby.id = row.id := by rw [hl]
  rw [hwaiting] at hstatus
  rw [hid] at hseat habsent ⊢
  refine .join ⟨caller.userId, caller.username, s.time 0⟩ row (s.id 0) (s.time 1)
    (Tables.mem_of_lobbyByCode? hrow).1 (Status.ofLabel?_eq_some_iff.1 hstatus) hseat habsent ?_
  simpa using hnew

/-- A join is a move, whatever comes of it. -/
theorem perform_join_move (caller : Caller) (typed : Text) :
    t.Move rules.maxPlayers (perform {} (.join rules caller typed) ⟨t, s⟩).2.tables := by
  rw [perform_join]
  split
  · exact .stay
  split
  · exact .stay
  next lobby hallow =>
  split
  · exact .stay
  split
  · exact .stay
  next hmember => exact withPlayer_move s hallow hmember

/-- A read leaves the tables as they are. -/
theorem perform_read_tables (caller : Caller) (lobby : Uuid) :
    (perform {} (.read caller lobby) ⟨t, s⟩).2.tables = t := by
  rw [perform_read]
  split
  · rfl
  · split <;> rfl

theorem perform_kick_move (caller : Caller) (lobby target : Uuid) :
    t.Move rules.maxPlayers (perform {} (.kick caller lobby target) ⟨t, s⟩).2.tables := by
  rw [perform_kick]
  split
  · exact .stay
  split
  · exact .stay
  split
  · split
    · exact .finish _ _ fun m _ hm => (of_decide_eq_true hm).2.2
    · exact .stay
  · exact .stay

theorem perform_setActive_move {t : Tables} (h : t.Sound) (lobby membership : Uuid)
    (active : Bool) :
    t.Move rules.maxPlayers (perform {} (.setActive lobby membership active) ⟨t, s⟩).2.tables := by
  rw [perform_setActive]
  split
  · exact .stay
  split
  · next hactive =>
    cases active with
    | true =>
      simp only [↓reduceIte, h.updateMembers_reopened hactive]
      exact .stay
    | false =>
      refine .finish _ _ fun m hm hp => ?_
      obtain ⟨hid, -⟩ := of_decide_eq_true hp
      obtain ⟨k, hk, hkid, -, hopen⟩ := Tables.isActiveMembership_iff.1 hactive
      rw [h.member_ext hm hk (hid.trans hkid.symm)]
      exact hopen
  · exact .stay

/-- Under rules whose deadline is not over from the start, operations run unhindered. -/
theorem conditions_of_not_expired {rules : Rules} (h : rules.expired = false) :
    rules.conditions [] = {} := by
  rw [Rules.conditions, h]

/-- A command on sound tables makes a move. -/
theorem execute_move (rules : Rules) {w : World} (h : w.tables.Sound) (c : Command) :
    w.tables.Move rules.maxPlayers (w.execute rules [] c).2.tables := by
  cases hexp : rules.expired with
  | true =>
    have hstay : ∀ {α : Type} (op : Operation α),
        (w.perform (rules.conditions []) op).2.tables = w.tables :=
      fun op => perform_tables_of_expired hexp op w
    cases c with
    | create caller => exact hstay (.create rules caller) ▸ .stay
    | join caller typed => exact hstay (.join rules caller typed) ▸ .stay
    | read caller lobby => exact hstay (.read caller lobby) ▸ .stay
    | kick caller lobby target => exact hstay (.kick caller lobby target) ▸ .stay
    | setActive lobby membership active =>
      exact hstay (.setActive lobby membership active) ▸ .stay
  | false =>
    have hc := conditions_of_not_expired hexp
    obtain ⟨t, s⟩ := w
    cases c <;> simp only [execute, hc]
    case create caller => exact perform_create_move rules t s caller
    case join caller typed => exact perform_join_move rules t s caller typed
    case read caller lobby => rw [perform_read_tables]; exact .stay
    case kick caller lobby target => exact perform_kick_move rules t s caller lobby target
    case setActive lobby membership active =>
      exact perform_setActive_move rules s h lobby membership active

end World

/-! ## Histories -/

namespace Service

/-- A step that is a command comes to what the command does when it is executed. -/
theorem step_command_iff {s s' : Service} {c : Command} {r : Except Failure Result} :
    s.step (.command c) = (r, s') ↔
      ∃ w, s.world.execute s.rules [] c = (r, w) ∧ s' = { s with world := w } := by
  rw [step]
  constructor
  · intro h
    cases h
    exact ⟨_, rfl, rfl⟩
  · rintro ⟨w, hrun, rfl⟩
    rw [hrun]

/-- A step on sound tables makes a move. -/
theorem step_move {s : Service} (h : s.world.tables.Sound) (x : Step) :
    s.world.tables.Move s.rules.maxPlayers (s.step x).2.world.tables := by
  cases x with
  | command c => exact World.execute_move s.rules h c
  | setStatus lobby status => exact .restage lobby status
  | advance micros => exact .stay
  | adopt rules => exact .stay

/-- Sound tables stay sound along a history. -/
theorem sound_after {s : Service} (h : s.world.tables.Sound) (steps : List Step) :
    (s.after steps).world.tables.Sound := by
  induction steps generalizing s with
  | nil => exact h
  | cons x rest ih => exact ih (h.move (step_move h x))

end Service

/-- The tables that some history leads to from empty ones. -/
def Tables.Reachable (t : Tables) : Prop :=
  ∃ rules supply steps, ((Service.fresh rules supply).after steps).world.tables = t

/-- Whatever happens, the tables are sound. -/
theorem Tables.Reachable.sound {t : Tables} (h : t.Reachable) : t.Sound := by
  obtain ⟨rules, supply, steps, rfl⟩ := h
  exact Service.sound_after Sound.empty steps

/-- A service that some history leads to from empty tables. -/
def Service.Reachable (s : Service) : Prop :=
  ∃ rules supply steps, (fresh rules supply).after steps = s

theorem Service.Reachable.tables {s : Service} (h : s.Reachable) : s.world.tables.Reachable := by
  obtain ⟨rules, supply, steps, rfl⟩ := h
  exact ⟨rules, supply, steps, rfl⟩

/-- What comes after something that can be reached can be reached. -/
theorem Service.Reachable.after {s : Service} (h : s.Reachable) (steps : List Step) :
    (s.after steps).Reachable := by
  obtain ⟨rules, supply, past, rfl⟩ := h
  exact ⟨rules, supply, past ++ steps, after_append _ past steps⟩

/-! ## A lobby to look at

Ann opens a lobby, whose code is LMNOPQ, from empty tables.
-/

namespace Sample

def ann : Caller := ⟨.ofNat 1, "Ann"⟩
def bob : Caller := ⟨.ofNat 2, "Bob"⟩
def cleo : Caller := ⟨.ofNat 3, "Cleo"⟩

/-- Supplies with nothing laid out in advance and a clock that moves by a second. -/
def supply : Supply := ⟨⟨[], 0, 1000000⟩, ⟨[], 0⟩, ⟨[], 0⟩⟩

/-- The world after Ann has opened her lobby. -/
def opened : World :=
  ((Service.fresh {} supply).after [.command (.create ann)]).world

/-- The sample world with Ann's lobby can be reached. -/
theorem reachable_opened : opened.tables.Reachable :=
  ⟨{}, supply, [.command (.create ann)], by rw [opened]⟩

end Sample

end GameLobby
