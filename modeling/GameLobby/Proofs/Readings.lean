import GameLobby.Proofs.Accounts
import GameLobby.Proofs.Create
import GameLobby.Proofs.Join
import GameLobby.Proofs.Removals

/-!
# The clock readings of a history

A command reads the clock as often as its transaction comes to it, and when it fails the readings
are gone all the same. How often that is does not depend on what the clock shows, so a command that
is carried out on a clock which counts tells the number (`World.countReadings`), and the readings of
a history are the elements of its supplies with these numbers (`Service.readings`). Statements about
when things happened take from the clock no more than the order of these readings.

What a step does to the tables carries readings of that very step (`Tables.Dated`), so the
memberships of a history have begun at some of its readings, in the same order
(`Service.joinedAt_sublist`).
-/

namespace GameLobby

/-- A clock that shows how often it has been read. -/
def Clock.counter : Clock := ⟨[], 0, 1⟩

/-- The supplies with another clock. -/
def Supply.withClock (s : Supply) (clock : Clock) : Supply := { s with clock }

namespace World

/-- The number of clock readings that a command takes, whether it succeeds or not. -/
def countReadings (rules : Rules) (w : World) (c : Command) : Nat :=
  (execute rules [] ⟨w.tables, w.supply.withClock .counter⟩ c).2.supply.clock.now.toNat

/-- The clock readings that a command takes. -/
def readings (rules : Rules) (w : World) (c : Command) : List Timestamp :=
  (List.range (w.countReadings rules c)).map w.supply.time

end World

namespace Service

/-- The clock readings that a step takes. -/
def stepReadings (s : Service) : Step → List Timestamp
  | .command c => s.world.readings s.rules c
  | _ => []

/-- The clock readings that a history takes, in their order. -/
def readings (s : Service) : List Step → List Timestamp
  | [] => []
  | x :: rest => s.stepReadings x ++ (s.step x).2.readings rest

end Service

/-! ## Counting -/

/-- The number of clock readings that a command takes when it succeeds. -/
def Command.readingsOnSuccess : Command → Nat
  | .create _ => 3
  | .join .. => 2
  | .read .. => 0
  | .kick .. => 1
  | .setActive _ _ active => if active then 0 else 1

/-- What starts from supplies reads the clock a number of times, whatever the clock shows, and this
number is known if it succeeds. -/
def ReadsClock {α : Type} (onSuccess : Nat) (s : Supply) (run : Supply → Except Failure α × World) :
    Prop :=
  ∃ n, (∀ clock, (run (s.withClock clock)).2.supply.clock = Nat.repeat (·.read.2) n clock) ∧
    ((run s).1.isOk → n = onSuccess)

/-- The form of an answer has no part in what is read. -/
theorem ReadsClock.map {α β : Type} {n : Nat} {s : Supply}
    {run : Supply → Except Failure α × World} (h : ReadsClock n s run) (g : α → β) :
    ReadsClock n s fun s => ((run s).1.map g, (run s).2) := by
  obtain ⟨k, hclock, hok⟩ := h
  refine ⟨k, hclock, fun h => hok ?_⟩
  dsimp only at h
  cases hrun : (run s).1 with
  | error f => rw [hrun] at h; cases h
  | ok a => rfl

/-- A clock that counts has counted its readings. -/
theorem Clock.repeat_read_counter (n : Nat) :
    Nat.repeat (·.read.2) n Clock.counter = ⟨[], n, 1⟩ := by
  induction n with
  | zero => rfl
  | succ n ih =>
    rw [Nat.repeat, ih]
    rfl

namespace World

section
variable (t : Tables) (s : Supply)

/-- A question that meets the deadline reads the clock once or not at all. -/
theorem spend_supply_clock (q : Query) : ∃ n, ∀ clock,
    (spend ⟨t, s.withClock clock⟩ q).supply.clock = Nat.repeat (·.read.2) n clock := by
  cases q with
  | setMemberActive lobby membership active =>
    cases active with
    | true => exact ⟨0, fun _ => rfl⟩
    | false => exact ⟨1, fun _ => rfl⟩
  | upsertUser | deactivateMember | createLobby | addMember => exact ⟨1, fun _ => rfl⟩
  | _ => exact ⟨0, fun _ => rfl⟩

/-- The clock has no part in any of the conditions of an operation, so these can be looked at
first. -/
theorem perform_create_readsClock (rules : Rules) (caller : Caller) :
    ReadsClock 3 s fun s => perform {} (.create rules caller) ⟨t, s⟩ := by
  have hentropy : ∀ clock, (s.withClock clock).entropy = s.entropy := fun _ => rfl
  have hids : ∀ clock n, (s.withClock clock).id n = s.id n := fun _ _ => rfl
  simp only [ReadsClock, perform_create, hentropy, hids]
  cases encodable caller.username with
  | error f => exact ⟨1, fun _ => rfl, nofun⟩
  | ok _ =>
  by_cases hretries : rules.maxRetries < 1
  · simp only [if_pos hretries]
    exact ⟨1, fun _ => rfl, nofun⟩
  simp only [if_neg hretries]
  cases t.freeCode rules.maxRetries.toNat s.entropy with | mk found e =>
  cases found with
  | none => exact ⟨1, fun _ => rfl, nofun⟩
  | some code =>
  dsimp only
  by_cases hlobby : (t.lobby? (s.id 0)).isSome
  · simp only [if_pos hlobby]
    exact ⟨2, fun _ => rfl, nofun⟩
  simp only [if_neg hlobby]
  split
  · exact ⟨3, fun _ => rfl, nofun⟩
  · exact ⟨3, fun _ => rfl, fun _ => rfl⟩

/-- A join that succeeds takes two readings. -/
theorem perform_join_readsClock (rules : Rules) (caller : Caller) (typed : Text) :
    ReadsClock 2 s fun s => perform {} (.join rules caller typed) ⟨t, s⟩ := by
  have hids : ∀ clock n, (s.withClock clock).id n = s.id n := fun _ _ => rfl
  simp only [ReadsClock, perform_join, hids]
  cases JoinCode.normalize typed with
  | error r => exact ⟨0, fun _ => rfl, nofun⟩
  | ok code =>
  dsimp only
  cases t.admission rules caller code with
  | error f => exact ⟨0, fun _ => rfl, nofun⟩
  | ok lobby =>
  dsimp only
  cases encodable caller.username with
  | error f => exact ⟨1, fun _ => rfl, nofun⟩
  | ok _ =>
  dsimp only
  split
  · exact ⟨2, fun _ => rfl, nofun⟩
  · exact ⟨2, fun _ => rfl, fun _ => rfl⟩

/-- A read takes none. -/
theorem perform_read_readsClock (caller : Caller) (lobby : Uuid) :
    ReadsClock 0 s fun s => perform {} (.read caller lobby) ⟨t, s⟩ := by
  refine ⟨0, fun clock => ?_, fun _ => rfl⟩
  simp only [perform_read]
  split
  · rfl
  · split <;> rfl

/-- A kick that succeeds takes one reading. -/
theorem perform_kick_readsClock (caller : Caller) (lobby target : Uuid) :
    ReadsClock 1 s fun s => perform {} (.kick caller lobby target) ⟨t, s⟩ := by
  simp only [ReadsClock, perform_kick]
  split
  · exact ⟨0, fun _ => rfl, nofun⟩
  cases t.lobby? lobby with
  | none => exact ⟨0, fun _ => rfl, nofun⟩
  | some row =>
  dsimp only
  split
  · split
    · exact ⟨1, fun _ => rfl, fun _ => rfl⟩
    · exact ⟨0, fun _ => rfl, nofun⟩
  · exact ⟨0, fun _ => rfl, nofun⟩

/-- A membership is ended at one reading, and reopened without any. -/
theorem perform_setActive_readsClock (lobby membership : Uuid) (active : Bool) :
    ReadsClock (if active then 0 else 1) s
      fun s => perform {} (.setActive lobby membership active) ⟨t, s⟩ := by
  simp only [ReadsClock, perform_setActive]
  split
  · exact ⟨0, fun _ => rfl, nofun⟩
  split
  · cases active with
    | true => exact ⟨0, fun _ => rfl, fun _ => rfl⟩
    | false => exact ⟨1, fun _ => rfl, fun _ => rfl⟩
  · exact ⟨0, fun _ => rfl, nofun⟩

end

section
variable {α : Type} {t : Tables} {s : Supply} {rules : Rules}

/-- Operations that read the clock a number of times before their deadline do so past it. -/
theorem perform_readsClock {n : Nat} {op : Operation α} (hop : op.AsksFirst)
    (h : ReadsClock n s fun s => perform {} op ⟨t, s⟩) :
    ReadsClock n s fun s => perform (rules.conditions []) op ⟨t, s⟩ := by
  cases hexp : rules.expired with
  | false =>
    rw [conditions_of_not_expired hexp]
    exact h
  | true =>
    have hc : (rules.conditions []).expired = true := hexp
    cases op with
    | refused r => exact h
    | transact body =>
      obtain ⟨q, next, rfl⟩ := hop
      obtain ⟨k, hspend⟩ := spend_supply_clock t s q
      simp only [ReadsClock, perform_ask_of_expired hc]
      exact ⟨k, hspend, nofun⟩

/-- A command that succeeds takes as many readings as its kind says. -/
theorem execute_readsClock (rules : Rules) (c : Command) :
    ReadsClock c.readingsOnSuccess s fun s => execute rules [] ⟨t, s⟩ c := by
  cases c with
  | create caller =>
    have hop := Operation.asksFirst_create rules caller
    exact (perform_readsClock hop (perform_create_readsClock t s rules caller)).map _
  | join caller typed =>
    have hop := Operation.asksFirst_join rules caller typed
    exact (perform_readsClock hop (perform_join_readsClock t s rules caller typed)).map _
  | read caller lobby =>
    have hop := Operation.asksFirst_read caller lobby
    exact (perform_readsClock hop (perform_read_readsClock t s caller lobby)).map _
  | kick caller lobby target =>
    have hop := Operation.asksFirst_kick caller lobby target
    exact (perform_readsClock hop (perform_kick_readsClock t s caller lobby target)).map _
  | setActive lobby membership active =>
    have hop := Operation.asksFirst_setActive lobby membership active
    exact (perform_readsClock hop (perform_setActive_readsClock t s lobby membership active)).map _

end

section
variable (rules : Rules) (w : World) (c : Command)

/-- The count is that of any clock: a command leaves the clock behind the readings that are counted,
and a command that succeeds takes as many as it says. -/
theorem execute_clock :
    (w.execute rules [] c).2.supply.clock =
        Nat.repeat (·.read.2) (w.countReadings rules c) w.supply.clock ∧
      ((w.execute rules [] c).1.isOk → w.countReadings rules c = c.readingsOnSuccess) := by
  obtain ⟨n, hclock, hok⟩ := execute_readsClock (t := w.tables) (s := w.supply) rules c
  have hcount : w.countReadings rules c = n := by
    rw [countReadings, hclock, Clock.repeat_read_counter]
    rfl
  rw [hcount]
  exact ⟨hclock w.supply.clock, hok⟩

end

/-! ## Creations and joins that succeed -/

section
variable {w : World} {rules : Rules} {caller : Caller}

/-- A creation that succeeds shows the lobby that it has entered. -/
theorem execute_create_ok {a : Result} (h : (w.execute rules [] (.create caller)).1 = .ok a) :
    ∃ code e, w.supply.id 0 ∉ w.tables.lobbies.map (·.id) ∧
      w.execute rules [] (.create caller) =
        (.ok (.detail ⟨⟨w.supply.id 0, code, caller.userId, .waiting, w.supply.time 1,
          w.supply.time 1⟩, (w.tables.withLobby w.supply caller code).playersOf (w.supply.id 0)⟩),
          ⟨w.tables.withLobby w.supply caller code, w.supply.drawn 3 2 e⟩) := by
  have hexp := not_expired_of_execute_ok h
  rw [execute_create hexp, perform_create] at h ⊢
  split at h
  · cases h
  split at h
  · cases h
  next hretries =>
  rw [if_neg hretries]
  split at h
  · cases h
  next code e hfree =>
  split at h
  · cases h
  next hlobby =>
  split at h
  · cases h
  next hmember =>
  rw [if_neg hlobby, if_neg hmember]
  exact ⟨code, e, Tables.lobby?_eq_none_iff.1 (Option.not_isSome_iff_eq_none.1 hlobby), rfl⟩

/-- A join that succeeds has entered a caller who has not been there, and shows the lobby. -/
theorem execute_join_ok (hsound : w.tables.Sound) {typed : Text} {a : Result}
    (h : (w.execute rules [] (.join caller typed)).1 = .ok a) :
    ∃ l ∈ w.tables.lobbies, ∃ lobby, l.lobby? = .ok lobby ∧ lobby.id = l.id ∧
      w.tables.isActiveMember l.id caller.userId = false ∧
      w.execute rules [] (.join caller typed) =
        (.ok (.detail ⟨lobby, (w.tables.withPlayer w.supply caller l.id).playersOf l.id⟩),
          ⟨w.tables.withPlayer w.supply caller l.id, w.supply.drawn 2 1 w.supply.entropy⟩) := by
  have hexp := not_expired_of_execute_ok h
  rw [execute_join hexp, perform_join] at h ⊢
  split at h
  · cases h
  next code hcode =>
  split at h
  · cases h
  next lobby hallow =>
  split at h
  · cases h
  split at h
  · cases h
  next hmember =>
  obtain ⟨row, hrow, hlobby, -, -, habsent⟩ := Tables.admission_ok hallow
  have hid : lobby.id = row.id := by rw [(LobbyRow.lobby?_ok hlobby).2]
  have hread := hsound.detail?_withPlayer hrow hlobby w.supply caller
  rw [if_neg hmember, hread]
  rw [hid] at habsent ⊢
  exact ⟨row, (Tables.mem_of_lobbyByCode? hrow).1, lobby, hlobby, hid, habsent, rfl⟩

end

end World

/-! ## Dated rows -/

namespace Tables

/-- What a step does to the tables: each row that it enters and each membership that it ends carries
one of the clock readings that the step takes. -/
inductive Dated (t : Tables) : List Timestamp → Tables → Prop
  | stay (times : List Timestamp) : Dated t times t
  | create (caller : Caller) (code : Text) (s : Supply)
      (newLobby : s.id 0 ∉ t.lobbies.map (·.id)) :
      Dated t [s.time 0, s.time 1, s.time 2] (t.withLobby s caller code)
  | join (caller : Caller) (lobby : LobbyRow) (s : Supply) (known : lobby ∈ t.lobbies)
      (absent : t.isActiveMember lobby.id caller.userId = false) :
      Dated t [s.time 0, s.time 1] (t.withPlayer s caller lobby.id)
  | finish (m : MemberRow) (leftAt : Timestamp) (member : m ∈ t.members)
      (active : m.isActive = true) : Dated t [leftAt] (t.endMember m leftAt)
  | restage (lobby : Uuid) (status : Text) : Dated t [] (t.setStatus lobby status)

section
variable (t : Tables) (s : Supply) (caller : Caller)

@[simp] theorem withLobby_lobbies (code : Text) :
    (t.withLobby s caller code).lobbies = t.lobbies ++
      [⟨s.id 0, code, caller.userId, Status.waiting.label, s.time 1, s.time 1⟩] :=
  congrArg (· ++ _) (putUser_lobbies ..)

@[simp] theorem withLobby_members (code : Text) :
    (t.withLobby s caller code).members =
      t.members ++ [⟨s.id 1, s.id 0, caller.userId, s.time 2, true, none⟩] :=
  congrArg (· ++ _) (putUser_members ..)

@[simp] theorem withPlayer_lobbies (lobby : Uuid) :
    (t.withPlayer s caller lobby).lobbies = t.lobbies :=
  putUser_lobbies ..

@[simp] theorem withPlayer_members (lobby : Uuid) :
    (t.withPlayer s caller lobby).members =
      t.members ++ [⟨s.id 0, lobby, caller.userId, s.time 1, true, none⟩] :=
  congrArg (· ++ _) (putUser_members ..)

end

end Tables

namespace World

/-- A command that succeeds takes as many readings as it says. -/
theorem readings_of_ok {w : World} {rules : Rules} {c : Command} {a : Result}
    (h : (w.execute rules [] c).1 = .ok a) :
    w.readings rules c = (List.range c.readingsOnSuccess).map w.supply.time := by
  rw [readings, (execute_clock rules w c).2 (by rw [h]; rfl)]

/-- Every new timestamp of a command is one of its readings. -/
theorem execute_dated {w : World} (hsound : w.tables.Sound) (rules : Rules) (c : Command) :
    w.tables.Dated (w.readings rules c) (w.execute rules [] c).2.tables := by
  cases hr : (w.execute rules [] c).1 with
  | error f =>
    rw [(execute_allOrNothing hsound rules c).1 f hr]
    exact .stay _
  | ok a =>
    have hexp := not_expired_of_execute_ok hr
    rw [readings_of_ok hr]
    cases c with
    | create caller =>
      obtain ⟨code, e, hnew, hrun⟩ := execute_create_ok hr
      rw [hrun]
      exact .create caller code w.supply hnew
    | join caller typed =>
      obtain ⟨l, hl, lobby, -, -, habsent, hrun⟩ := execute_join_ok hsound hr
      rw [hrun]
      exact .join caller l w.supply hl habsent
    | read caller lobby =>
      have hsame := perform_read_tables w.tables w.supply caller lobby
      simp only [execute, conditions_of_not_expired hexp, hsame]
      exact .stay _
    | kick caller lobby target =>
      obtain ⟨r, w', houtcome⟩ := KickOutcome.total hsound caller lobby target
      rw [houtcome.execute hsound hexp] at hr ⊢
      cases houtcome with
      | kicked other leads m inside user active ends =>
        rw [(hsound.ends_iff ends.mem).1 ends]
        exact .finish m (w.supply.time 0) ends.mem active
      | oneself | unknownLobby | notLeader | notThere => cases hr
    | setActive lobby membership active =>
      obtain ⟨r, w', houtcome⟩ := SetActiveOutcome.total hsound lobby membership active
      rw [houtcome.execute hsound hexp] at hr ⊢
      cases houtcome with
      | dismissed known m named inside active ends =>
        rw [(hsound.ends_iff ends.mem).1 ends]
        exact .finish m (w.supply.time 0) ends.mem active
      | kept => exact .stay _
      | unknownLobby | notThere => cases hr

end World

/-! ## Along a history -/

namespace Service

variable {s : Service}

/-- Every new timestamp of a step is one of its readings. -/
theorem step_dated (hsound : s.world.tables.Sound) (x : Step) :
    s.world.tables.Dated (s.stepReadings x) (s.step x).2.world.tables := by
  cases x with
  | command c => exact World.execute_dated hsound s.rules c
  | setStatus lobby status => exact .restage lobby status
  | advance micros => exact .stay _
  | adopt rules => exact .stay _

/-- A statement about the tables and the readings so far stays true whatever a step does. -/
def Keeps (holds : Tables → List Timestamp → Prop) : Prop :=
  ∀ {t t' past times}, t.Sound → t.Dated times t' → holds t past → holds t' (past ++ times)

/-- What steps keep to their readings, histories keep to theirs. -/
theorem Keeps.after {holds : Tables → List Timestamp → Prop} (hkeeps : Keeps holds)
    {past : List Timestamp} (hsound : s.world.tables.Sound) (h : holds s.world.tables past)
    (steps : List Step) :
    holds (s.after steps).world.tables (past ++ s.readings steps) := by
  induction steps generalizing s past with
  | nil =>
    rw [readings, List.append_nil]
    exact h
  | cons x rest ih =>
    have hnext := hkeeps hsound (step_dated hsound x) h
    rw [readings, ← List.append_assoc]
    exact ih (hsound.move (step_move hsound x)) hnext

/-- The memberships that are entered begin at readings of the clock, one after the other. -/
theorem keeps_joinedAt_sublist :
    Keeps fun t past => (t.members.map (·.joinedAt)).Sublist past := by
  intro t t' past times _ hdated hpast
  cases hdated with
  | stay => exact hpast.trans (List.sublist_append_left _ _)
  | create caller code s newLobby =>
    rw [Tables.withLobby_members, List.map_append]
    exact hpast.append (by simp)
  | join caller lobby s known absent =>
    rw [Tables.withPlayer_members, List.map_append]
    exact hpast.append (by simp)
  | finish m leftAt member active =>
    rw [Tables.endMember, Tables.map_members_updateMembers t _ (.ended leftAt) (·.joinedAt)
      fun _ => rfl]
    exact hpast.trans (List.sublist_append_left _ _)
  | restage lobby status => simpa using hpast

/-- The times at which memberships began are among the readings, in their order. -/
theorem joinedAt_sublist (rules : Rules) (supply : Supply) (steps : List Step) :
    (((fresh rules supply).after steps).world.tables.members.map (·.joinedAt)).Sublist
      ((fresh rules supply).readings steps) := by
  have hempty : ((fresh rules supply).world.tables.members.map (·.joinedAt)).Sublist [] :=
    List.nil_sublist []
  exact keeps_joinedAt_sublist.after Tables.Sound.empty hempty steps

end Service

end GameLobby
