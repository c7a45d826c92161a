import GameLobby.Proofs.Addresses
import GameLobby.Proofs.Join
import GameLobby.Proofs.Seats

/-!
# Free seats are handed out in order

Callers who join a waiting lobby one after another get its free seats in their order, and those who
come later are told that it is full (`Joiner.Answered`). A caller whose name has a lone surrogate is
the one exception: while there are seats the entry of the user fails, and the seat goes to the next
one. So how many get a seat does not depend on the order.

What one join does to a service that expects the others behind it is `Service.Serves`, and the law
for any number of them follows by induction.
-/

namespace GameLobby

/-- Somebody who wants to join a lobby: a caller with what they type for its code. -/
structure Joiner where
  caller : Caller
  typed : Text
  deriving DecidableEq, Repr

namespace Joiner

/-- The step of a history in which somebody joins. -/
def step (j : Joiner) : Step :=
  .command (.join j.caller j.typed)

/-- Whether a user can be entered under the name of the caller. -/
def storable (j : Joiner) : Bool :=
  (encodable j.caller.username).isOk

/-- A joiner can be stored whose name has no surrogate. -/
theorem storable_iff {j : Joiner} : j.storable = true ↔ ¬ j.caller.username.HasSurrogate := by
  rw [← encodable_iff, storable]
  cases encodable j.caller.username with
  | error f => exact iff_of_false Bool.false_ne_true nofun
  | ok _ => exact iff_of_true rfl rfl

theorem storable_eq_false {j : Joiner} (h : j.caller.username.HasSurrogate) : j.storable = false :=
  Bool.eq_false_iff.2 fun hstored => storable_iff.1 hstored h

/-- What somebody is answered who finds a number of free seats in a lobby. -/
inductive Answered (l : LobbyRow) (maxPlayers : Int) (j : Joiner) :
    Nat → Except Failure Result → Prop
  | seated (free : Nat) (stored : ¬ j.caller.username.HasSurrogate) (d : LobbyDetail)
      (lobby : d.lobby = ⟨l.id, l.joinCode, l.leaderId, .waiting, l.createdAt, l.updatedAt⟩) :
      Answered l maxPlayers j (free + 1) (.ok (.detail d))
  /-- The entry of a user whose name has a lone surrogate fails. -/
  | unencodableName (free : Nat) (surrogate : j.caller.username.HasSurrogate) (first last : Nat)
      (point : CodePoint) (at_ : j.caller.username.firstSurrogates? = some (first, last, point)) :
      Answered l maxPlayers j (free + 1) (.error (.unencodable first last point))
  | full : Answered l maxPlayers j 0 (.error (.refused (Operation.full maxPlayers)))

/-- Whoever finds a seat and can be entered is answered with the lobby, and nobody else. -/
theorem Answered.isOk {l : LobbyRow} {maxPlayers : Int} {j : Joiner} {free : Nat}
    {r : Except Failure Result} (h : j.Answered l maxPlayers free r) :
    r.isOk = (decide (0 < free) && j.storable) := by
  cases h with
  | seated free stored d lobby =>
    rw [storable_iff.2 stored, decide_eq_true (Nat.succ_pos free)]
    rfl
  | unencodableName free surrogate first last point at_ =>
    rw [storable_eq_false surrogate, Bool.and_false]
    rfl
  | full => rfl

/-- Those of some joiners who have been answered with the lobby. -/
def seated (joiners : List Joiner) (answers : List (Except Failure Result)) : List Joiner :=
  ((joiners.zip answers).filter (·.2.isOk)).map (·.1)

end Joiner

namespace Tables

/-- The users with an active membership in a lobby. -/
def activeUsers (t : Tables) (lobby : Uuid) : List Uuid :=
  (t.members.filter fun m => m.lobbyId = lobby ∧ m.isActive).map (·.userId)

/-- A number of identifiers, the next ones of a supply, are different, and no membership has any of
them. -/
structure Unused (t : Tables) (s : Supply) (n : Nat) : Prop where
  new : ∀ i < n, ¬ ∃ m ∈ t.members, m.id = s.id i
  distinct : ∀ i < n, ∀ k < i, s.id k ≠ s.id i

section
variable {t : Tables} {l : LobbyRow} {typed : Text}

/-- In tables whose codes have the form of one, a spelling of a lobby's code leads to it. -/
theorem Formed.leadsTo (h : t.Formed) (hl : l ∈ t.lobbies) (hsame : typed.SameButCase l.joinCode) :
    t.LeadsTo typed l := by
  have hupper : typed.upper = l.joinCode := Text.upper_of_sameButCase (h l hl).letters hsame
  refine ⟨hsame.length_eq.trans (h l hl).length, ?_, hl, hupper.symm⟩
  rw [← Text.hasSurrogate_upper, hupper]
  exact (encodable_iff _).1 (h l hl).encodable

/-- A player who joins comes last. -/
theorem activeUsers_withPlayer (t : Tables) (s : Supply) (caller : Caller) (lobby : Uuid) :
    (t.withPlayer s caller lobby).activeUsers lobby = t.activeUsers lobby ++ [caller.userId] := by
  simp [activeUsers, withPlayer, List.filter_append]

/-- A player who joins takes one seat. -/
theorem activeCount_withPlayer (t : Tables) (s : Supply) (caller : Caller) (lobby : Uuid) :
    (t.withPlayer s caller lobby).activeCount lobby = t.activeCount lobby + 1 := by
  rw [withPlayer, activeCount_addMember _ _ rfl, activeCount_putUser, if_pos rfl]

/-- Among the active memberships behind a join, only the new one is of the player who joins. -/
theorem absent_withPlayer {s : Supply} {caller : Caller} {lobby user : Uuid}
    (habsent : ¬ ∃ m ∈ t.members, m.lobbyId = lobby ∧ m.userId = user ∧ m.isActive)
    (hother : caller.userId ≠ user) :
    ¬ ∃ m ∈ (t.withPlayer s caller lobby).members,
      m.lobbyId = lobby ∧ m.userId = user ∧ m.isActive := by
  rintro ⟨m, hm, hinside, huser, hactive⟩
  rcases List.mem_append.1 hm with hm | hm
  · exact habsent ⟨m, by simpa using hm, hinside, huser, hactive⟩
  · rw [List.mem_singleton.1 hm] at huser
    exact hother huser

/-- Behind a join, the identifiers that were to come behind its own are unused. -/
theorem Unused.withPlayer {s : Supply} {n : Nat} (h : t.Unused s (n + 1)) (caller : Caller)
    (lobby : Uuid) (e : Entropy) :
    (t.withPlayer s caller lobby).Unused (s.drawn 2 1 e) n := by
  constructor
  · rintro i hi ⟨m, hm, hid⟩
    rw [Supply.id_drawn, Nat.add_comm] at hid
    rcases List.mem_append.1 hm with hm | hm
    · exact h.new (i + 1) (Nat.succ_lt_succ hi) ⟨m, by simpa using hm, hid⟩
    · rw [List.mem_singleton.1 hm] at hid
      exact h.distinct (i + 1) (Nat.succ_lt_succ hi) 0 (Nat.succ_pos i) hid
  · intro i hi k hk
    rw [Supply.id_drawn, Supply.id_drawn, Nat.add_comm 1 i, Nat.add_comm 1 k]
    exact h.distinct (i + 1) (Nat.succ_lt_succ hi) (k + 1) (Nat.succ_lt_succ hk)

end

end Tables

namespace Service

/-- The seats of a lobby that nobody has taken. -/
def freeSeats (s : Service) (lobby : Uuid) : Nat :=
  (s.rules.maxPlayers - s.world.tables.activeCount lobby).toNat

/-- Some callers are about to join a waiting lobby, one after another: they are different, none of
them is there already, they know its code, and there are identifiers for those who get in. -/
structure Expects (s : Service) (l : LobbyRow) (joiners : List Joiner) : Prop where
  sound : s.world.tables.Sound
  formed : s.world.tables.Formed
  inTime : s.rules.expired = false
  known : l ∈ s.world.tables.lobbies
  waiting : l.status = Text.ofString Status.waiting.label
  distinct : (joiners.map (·.caller.userId)).Nodup
  absent : ∀ j ∈ joiners, ¬ ∃ m ∈ s.world.tables.members,
    m.lobbyId = l.id ∧ m.userId = j.caller.userId ∧ m.isActive
  spelt : ∀ j ∈ joiners, j.typed.SameButCase l.joinCode
  ids : s.world.tables.Unused s.world.supply
    (min (s.freeSeats l.id) (joiners.countP (·.storable)))

/-- The first of them joins: what they are answered, and the service that expects the others. -/
structure Serves (s : Service) (l : LobbyRow) (j : Joiner) (rest : List Joiner)
    (r : Except Failure Result) (s' : Service) : Prop where
  step : s.step j.step = (r, s')
  rules : s'.rules = s.rules
  answered : j.Answered l s.rules.maxPlayers (s.freeSeats l.id) r
  seats : s'.freeSeats l.id = s.freeSeats l.id - if j.storable then 1 else 0
  users : s'.world.tables.activeUsers l.id =
    s.world.tables.activeUsers l.id ++ if r.isOk then [j.caller.userId] else []
  expects : s'.Expects l rest

section
variable {s : Service} {l : LobbyRow} {j : Joiner} {rest : List Joiner}

/-! ## One join -/

/-- Where the first one leaves the tables as they are, the others find what they need. -/
theorem Expects.tail (h : s.Expects l (j :: rest)) {supply : Supply}
    (hids : ∀ n, supply.id n = s.world.supply.id n) :
    Expects { s with world := ⟨s.world.tables, supply⟩ } l rest where
  sound := h.sound
  formed := h.formed
  inTime := h.inTime
  known := h.known
  waiting := h.waiting
  distinct := (List.nodup_cons.1 h.distinct).2
  absent k hk := h.absent k (.tail _ hk)
  spelt k hk := h.spelt k (.tail _ hk)
  ids := by
    have hfewer : min (s.freeSeats l.id) (rest.countP (·.storable)) ≤
        min (s.freeSeats l.id) ((j :: rest).countP (·.storable)) := by
      rw [List.countP_cons]
      omega
    constructor
    · intro i hi
      rw [hids]
      exact h.ids.new i (Nat.lt_of_lt_of_le hi hfewer)
    · intro i hi k hk
      rw [hids, hids]
      exact h.ids.distinct i (Nat.lt_of_lt_of_le hi hfewer) k hk

/-- Whoever comes too late is told that the lobby is full. -/
theorem Expects.serves_full (h : s.Expects l (j :: rest)) (hseats : s.freeSeats l.id = 0) :
    s.Serves l j rest (.error (.refused (Operation.full s.rules.maxPlayers))) s := by
  have hleads := h.formed.leadsTo h.known (h.spelt j (.head _))
  have hfull : s.rules.maxPlayers ≤ s.world.tables.activeCount l.id := by
    rw [freeSeats] at hseats
    omega
  have hrefuse := hleads.admission_of_status h.sound h.waiting s.rules j.caller
  rw [if_neg (not_not_intro rfl), if_pos hfull] at hrefuse
  have hrun := World.execute_join_refused h.inTime hleads.normalize hrefuse
  refine ⟨step_command_iff.2 ⟨_, hrun, rfl⟩, rfl, ?_, ?_, ?_, h.tail fun _ => rfl⟩
  · rw [hseats]
    exact .full
  · rw [hseats, Nat.zero_sub]
  · exact (List.append_nil _).symm

/-- Where there is a seat, the lobby takes the first one in. -/
theorem Expects.admits (h : s.Expects l (j :: rest)) (hseats : 0 < s.freeSeats l.id) :
    s.world.tables.Admits s.rules j.caller j.typed l := by
  refine ⟨h.formed.leadsTo h.known (h.spelt j (.head _)), h.waiting, ?_, h.absent j (.head _)⟩
  rw [freeSeats] at hseats
  omega

/-- Whoever finds a seat and has a name that cannot be stored leaves the seat to the next one. -/
theorem Expects.serves_unencodable (h : s.Expects l (j :: rest)) {free : Nat}
    (hseats : s.freeSeats l.id = free + 1) (hname : j.caller.username.HasSurrogate) :
    ∃ r s', s.Serves l j rest r s' := by
  obtain ⟨first, last, point, hfirst⟩ := hname.exists_first
  have hrun := World.execute_join_unencodable h.inTime h.sound (h.admits (by omega)) hfirst
  refine ⟨_, _, step_command_iff.2 ⟨_, hrun, rfl⟩, rfl, ?_, ?_, ?_, h.tail fun n => ?_⟩
  · rw [hseats]
    exact .unencodableName free hname first last point hfirst
  · rw [Joiner.storable_eq_false hname]
    rfl
  · exact (List.append_nil _).symm
  · rw [Supply.id_drawn, Nat.zero_add]

/-- Whoever finds a seat takes it. -/
theorem Expects.serves_seated (h : s.Expects l (j :: rest)) {free : Nat}
    (hseats : s.freeSeats l.id = free + 1) (hname : ¬ j.caller.username.HasSurrogate) :
    ∃ r s', s.Serves l j rest r s' := by
  have hstored : j.storable = true := Joiner.storable_iff.2 hname
  have htaker : (j :: rest).countP (·.storable) = rest.countP (·.storable) + 1 :=
    List.countP_cons_of_pos hstored
  have hids := h.ids
  rw [hseats, htaker, Nat.add_min_add_right] at hids
  have hrun := World.execute_join_seated h.inTime h.sound (h.admits (by omega)) hname
    (hids.new 0 (Nat.succ_pos _))
  have hmove := World.execute_move s.rules h.sound (.join j.caller j.typed)
  rw [hrun] at hmove
  have hfree : Service.freeSeats ⟨s.rules, ⟨s.world.tables.withPlayer s.world.supply j.caller l.id,
      s.world.supply.drawn 2 1 s.world.supply.entropy⟩⟩ l.id = free := by
    simp only [freeSeats, Tables.activeCount_withPlayer] at hseats ⊢
    omega
  refine ⟨_, _, step_command_iff.2 ⟨_, hrun, rfl⟩, rfl, ?_, ?_, Tables.activeUsers_withPlayer ..,
    ?_⟩
  · rw [hseats]
    exact .seated free hname _ rfl
  · rw [hfree, hseats, hstored]
    rfl
  · obtain ⟨hother, hdistinct⟩ := List.nodup_cons.1 h.distinct
    refine ⟨h.sound.move hmove, h.formed.move hmove, h.inTime, ?_, h.waiting, hdistinct,
      fun k hk => ?_, fun k hk => h.spelt k (.tail _ hk), ?_⟩
    · simpa [Tables.withPlayer] using h.known
    · refine Tables.absent_withPlayer (h.absent k (.tail _ hk)) fun hsame => hother ?_
      exact List.mem_map.2 ⟨k, hk, hsame.symm⟩
    · rw [hfree]
      exact hids.withPlayer j.caller l.id s.world.supply.entropy

/-- Whatever the first one is answered, the service expects the others behind it. -/
theorem Expects.serves (h : s.Expects l (j :: rest)) : ∃ r s', s.Serves l j rest r s' := by
  cases hseats : s.freeSeats l.id with
  | zero => exact ⟨_, _, h.serves_full hseats⟩
  | succ free =>
    by_cases hname : j.caller.username.HasSurrogate
    · exact h.serves_unencodable hseats hname
    · exact h.serves_seated hseats hname

/-! ## One join after another -/

/-- Everybody is answered according to the seats that those before them have left. -/
theorem Expects.answered {joiners : List Joiner} (h : s.Expects l joiners) {i : Nat}
    (hi : joiners[i]? = some j) :
    ∃ r, (s.run (joiners.map Joiner.step)).1[i]? = some r ∧
      j.Answered l s.rules.maxPlayers
        (s.freeSeats l.id - (joiners.take i).countP (·.storable)) r := by
  induction joiners generalizing s i with
  | nil => cases hi
  | cons k rest ih =>
    obtain ⟨r, s', hserves⟩ := h.serves
    rw [List.map_cons, run, hserves.step]
    cases i with
    | zero =>
      obtain rfl : k = j := Option.some.inj hi
      exact ⟨r, rfl, hserves.answered⟩
    | succ i =>
      obtain ⟨r', hr', hanswered⟩ := ih hserves.expects hi
      refine ⟨r', hr', ?_⟩
      rw [hserves.rules, hserves.seats, Nat.sub_sub] at hanswered
      rwa [List.take_succ_cons, List.countP_cons, Nat.add_comm]

/-- The active users are joined by those who are answered with the lobby. -/
theorem Expects.activeUsers {joiners : List Joiner} (h : s.Expects l joiners) :
    (s.run (joiners.map Joiner.step)).2.world.tables.activeUsers l.id =
      s.world.tables.activeUsers l.id ++
        (Joiner.seated joiners (s.run (joiners.map Joiner.step)).1).map (·.caller.userId) := by
  induction joiners generalizing s with
  | nil => exact (List.append_nil _).symm
  | cons k rest ih =>
    obtain ⟨r, s', hserves⟩ := h.serves
    rw [List.map_cons, run, hserves.step]
    dsimp only
    rw [ih hserves.expects, hserves.users, List.append_assoc]
    simp only [Joiner.seated, List.zip_cons_cons, List.filter_cons]
    split <;> simp

/-- As many are answered with the lobby as there are seats, or callers who can be entered. -/
theorem Expects.countP_isOk {joiners : List Joiner} (h : s.Expects l joiners) :
    (s.run (joiners.map Joiner.step)).1.countP (·.isOk) =
      min (s.freeSeats l.id) (joiners.countP (·.storable)) := by
  induction joiners generalizing s with
  | nil => exact (Nat.min_zero _).symm
  | cons k rest ih =>
    obtain ⟨r, s', hserves⟩ := h.serves
    rw [List.map_cons, run, hserves.step]
    dsimp only
    rw [List.countP_cons, ih hserves.expects, hserves.seats, List.countP_cons,
      hserves.answered.isOk]
    cases k.storable
    · simp
    · simp only [Bool.and_true, decide_eq_true_eq, ↓reduceIte]
      split <;> omega

end

/-- Callers who join a waiting lobby one after another get the free seats in their order. Everybody
is answered according to the seats that those before them have left, so where all names can be
stored the first ones get the seats and the others are told that the lobby is full. The active users
are then those from before and those who have been answered with the lobby, and in whatever order
the callers had come, there would have been as many of the latter. -/
theorem free_seats_in_order {s : Service} (h : s.world.tables.Reachable)
    (hexp : s.rules.expired = false) {l : LobbyRow} (hl : l ∈ s.world.tables.lobbies)
    (hwaiting : l.status = Text.ofString Status.waiting.label) {joiners : List Joiner}
    (hdistinct : (joiners.map (·.caller.userId)).Nodup)
    (habsent : ∀ j ∈ joiners, ¬ ∃ m ∈ s.world.tables.members,
      m.lobbyId = l.id ∧ m.userId = j.caller.userId ∧ m.isActive)
    (hspelt : ∀ j ∈ joiners, j.typed.SameButCase l.joinCode)
    (hids : s.world.tables.Unused s.world.supply
      (min (s.freeSeats l.id) (joiners.countP (·.storable)))) :
    ∃ answers s', s.run (joiners.map Joiner.step) = (answers, s') ∧
    (∀ (i : Nat) (j : Joiner), joiners[i]? = some j → ∃ r, answers[i]? = some r ∧
      j.Answered l s.rules.maxPlayers
        (s.freeSeats l.id - (joiners.take i).countP (·.storable)) r) ∧
    ((∀ j ∈ joiners, ¬ j.caller.username.HasSurrogate) → ∀ i < joiners.length,
      (i < s.freeSeats l.id → ∃ d, answers[i]? = some (.ok (.detail d)) ∧ d.lobby.id = l.id) ∧
      (s.freeSeats l.id ≤ i →
        answers[i]? = some (.error (.refused (Operation.full s.rules.maxPlayers))))) ∧
    s'.world.tables.activeUsers l.id = s.world.tables.activeUsers l.id ++
      (Joiner.seated joiners answers).map (·.caller.userId) ∧
    ∀ joiners' : List Joiner, joiners'.Perm joiners →
      (s.run (joiners'.map Joiner.step)).1.countP (·.isOk) =
        min (s.freeSeats l.id) (joiners.countP (·.storable)) := by
  have hexpects : s.Expects l joiners :=
    ⟨h.sound, h.formed, hexp, hl, hwaiting, hdistinct, habsent, hspelt, hids⟩
  refine ⟨_, _, rfl, fun i j hi => hexpects.answered hi, fun hstored i hi => ?_,
    hexpects.activeUsers, fun joiners' hperm => ?_⟩
  · have hbefore : (joiners.take i).countP (·.storable) = i := by
      rw [List.countP_eq_length.2, List.length_take, Nat.min_eq_left (Nat.le_of_lt hi)]
      exact fun j hj => Joiner.storable_iff.2 (hstored j (List.mem_of_mem_take hj))
    obtain ⟨r, hr, hanswered⟩ := hexpects.answered (List.getElem?_eq_getElem hi)
    rw [hbefore] at hanswered
    refine ⟨fun hfree => ?_, fun hfull => ?_⟩
    · obtain ⟨left, hleft⟩ := Nat.exists_eq_add_one.2 (Nat.sub_pos_of_lt hfree)
      rw [hleft] at hanswered
      cases hanswered with
      | seated _ _ d lobby => exact ⟨d, hr, congrArg Lobby.id lobby⟩
      | unencodableName _ surrogate => exact absurd surrogate (hstored _ (List.getElem_mem hi))
    · rw [Nat.sub_eq_zero_of_le hfull] at hanswered
      cases hanswered
      exact hr
  · have hexpects' : s.Expects l joiners' :=
      ⟨h.sound, h.formed, hexp, hl, hwaiting, (hperm.map _).nodup_iff.2 hdistinct,
        fun j hj => habsent j (hperm.mem_iff.1 hj), fun j hj => hspelt j (hperm.mem_iff.1 hj),
        hperm.countP_eq _ ▸ hids⟩
    rw [hexpects'.countP_isOk, hperm.countP_eq]

open Sample in
/-- There is one free seat in Ann's lobby. A caller whose name is a lone surrogate does not take it,
so Bob gets it, and Cleo is told that the lobby is full. -/
theorem free_seats_in_order_one :
    let s : Service := ⟨{ maxPlayers := 2 }, opened⟩
    let joiners : List Joiner :=
      [⟨⟨.ofNat 4, [.surrogate 0]⟩, "LMNOPQ"⟩, ⟨bob, "lmnopq"⟩, ⟨cleo, "LmNoPq"⟩]
    s.world.tables.Reachable ∧ s.rules.expired = false ∧
      ∃ l ∈ s.world.tables.lobbies, s.freeSeats l.id = 1 ∧
        (∀ j ∈ joiners, j.typed.SameButCase l.joinCode) ∧
        (s.run (joiners.map Joiner.step)).1.map (·.isOk) = [false, true, false] ∧
        (s.run (joiners.map Joiner.step)).1[2]? = some (.error (.refused (Operation.full 2))) ∧
        (s.run (joiners.map Joiner.step)).2.world.tables.activeUsers l.id =
          [ann.userId, bob.userId] := by
  intro s joiners
  have hexp : s.rules.expired = false := by decide +kernel
  obtain ⟨l, hl, hwaiting, hcode, hseats, habsent, hann⟩ : ∃ l ∈ s.world.tables.lobbies,
      l.status = Text.ofString Status.waiting.label ∧ l.joinCode = Text.ofString "LMNOPQ" ∧
      s.freeSeats l.id = 1 ∧
      (∀ j ∈ joiners, ¬ ∃ m ∈ s.world.tables.members,
        m.lobbyId = l.id ∧ m.userId = j.caller.userId ∧ m.isActive) ∧
      s.world.tables.activeUsers l.id = [ann.userId] := by
    decide +kernel
  have hspelt : ∀ j ∈ joiners, j.typed.SameButCase l.joinCode := by
    rw [hcode]
    unfold Text.SameButCase
    decide +kernel
  have htakers : min (s.freeSeats l.id) (joiners.countP (·.storable)) = 1 := by
    rw [hseats]
    decide +kernel
  have hids : s.world.tables.Unused s.world.supply 1 := ⟨by decide +kernel, by decide +kernel⟩
  obtain ⟨answers, s', hrun, hanswers, -, husers, -⟩ := free_seats_in_order (s := s)
    reachable_opened hexp hl hwaiting (by decide +kernel) habsent hspelt (htakers ▸ hids)
  have hseated : Joiner.seated joiners (s.run (joiners.map Joiner.step)).1 = [⟨bob, "lmnopq"⟩] := by
    decide +kernel
  have hok : (s.run (joiners.map Joiner.step)).1.map (·.isOk) = [false, true, false] := by
    decide +kernel
  obtain ⟨r, hr, hanswered⟩ := hanswers 2 ⟨cleo, "LmNoPq"⟩ rfl
  have hbefore : s.freeSeats l.id - (joiners.take 2).countP (·.storable) = 0 := by
    rw [hseats]
    decide +kernel
  rw [hbefore] at hanswered
  cases hanswered
  rw [hrun] at hseated hok ⊢
  rw [hseated, hann] at husers
  exact ⟨reachable_opened, hexp, l, hl, hseats, hspelt, hok, hr, husers⟩

/-- A caller whose name is a lone surrogate joins Ann's lobby by its code, with an unused
identifier. There are free seats, and the join fails. -/
theorem free_seats_surrogate :
    let s : Service := ⟨{}, Sample.opened⟩
    let j : Joiner := ⟨⟨.ofNat 2, [.surrogate 0]⟩, "LMNOPQ"⟩
    s.world.tables.Reachable ∧ s.rules.expired = false ∧
      s.world.tables.Unused s.world.supply 1 ∧
      ∃ l ∈ s.world.tables.lobbies, l.status = Text.ofString Status.waiting.label ∧
        j.typed = l.joinCode ∧ 0 < s.freeSeats l.id ∧
        (¬ ∃ m ∈ s.world.tables.members,
          m.lobbyId = l.id ∧ m.userId = j.caller.userId ∧ m.isActive) ∧
        (s.run [j.step]).1 = [.error (.unencodable 0 0 (.surrogate 0))] ∧
        ¬ ∃ a, (s.run [j.step]).1 = [.ok a] := by
  intro s j
  have hfail : (s.run [j.step]).1 = [.error (.unencodable 0 0 (.surrogate 0))] := by
    decide +kernel
  obtain ⟨l, hl, hfacts⟩ : ∃ l ∈ s.world.tables.lobbies,
      l.status = Text.ofString Status.waiting.label ∧ j.typed = l.joinCode ∧
      0 < s.freeSeats l.id ∧ ¬ ∃ m ∈ s.world.tables.members,
        m.lobbyId = l.id ∧ m.userId = j.caller.userId ∧ m.isActive := by
    decide +kernel
  obtain ⟨hwaiting, hcode, hseats, habsent⟩ := hfacts
  refine ⟨Sample.reachable_opened, by decide +kernel, ⟨by decide +kernel, by decide +kernel⟩, l, hl,
    hwaiting, hcode, hseats, habsent, hfail, ?_⟩
  rintro ⟨a, ha⟩
  rw [hfail] at ha
  cases ha

end Service

end GameLobby
