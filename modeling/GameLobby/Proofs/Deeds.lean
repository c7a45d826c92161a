import GameLobby.Proofs.Rollback

/-!
# What a command that succeeds has done

A move (`Tables.Move`) tells how the tables may change, but not which command has changed them. On
sound tables a command that succeeds does exactly one thing (`Tables.Deed`): it enters a lobby with
its leader, enters a player, ends one active membership, or does nothing but look. A kick and the
setting of an active flag are written as changes to all rows of a class; that there is one such row
and no more is what the tables being sound says.

A step that is no command that succeeds leaves the tables alone, but for the stage of a lobby
(`Service.step_deed`).
-/

namespace GameLobby

namespace Tables

/-- The tables with one membership ended. -/
def endMember (t : Tables) (m : MemberRow) (leftAt : Timestamp) : Tables :=
  t.updateMembers (fun k => k = m) (.ended leftAt)

/-- What a command that succeeds does to the tables. -/
inductive Deed (t : Tables) : Command → Tables → Prop
  | create (caller : Caller) (code : Text) (s : Supply)
      (newCode : code ∉ t.lobbies.map (·.joinCode)) (newLobby : s.id 0 ∉ t.lobbies.map (·.id))
      (newMember : s.id 1 ∉ t.members.map (·.id)) :
      Deed t (.create caller) (t.withLobby s caller code)
  | join (caller : Caller) (typed : Text) (lobby : LobbyRow) (s : Supply)
      (known : lobby ∈ t.lobbies) (absent : t.isActiveMember lobby.id caller.userId = false)
      (newMember : s.id 0 ∉ t.members.map (·.id)) (length : typed.length = JoinCode.size)
      (code : lobby.joinCode = typed.upper) :
      Deed t (.join caller typed) (t.withPlayer s caller lobby.id)
  | read (caller : Caller) (lobby : Uuid) : Deed t (.read caller lobby) t
  /-- The leader ends the active membership of someone else. -/
  | kick (caller : Caller) (lobby : LobbyRow) (m : MemberRow) (leftAt : Timestamp)
      (known : lobby ∈ t.lobbies) (leads : lobby.leaderId = caller.userId) (member : m ∈ t.members)
      (inside : m.lobbyId = lobby.id) (active : m.isActive = true)
      (other : m.userId ≠ caller.userId) :
      Deed t (.kick caller lobby.id m.userId) (t.endMember m leftAt)
  | dismiss (m : MemberRow) (leftAt : Timestamp) (member : m ∈ t.members)
      (active : m.isActive = true) :
      Deed t (.setActive m.lobbyId m.id false) (t.endMember m leftAt)
  /-- A membership that is active already is set active. -/
  | keep (lobby membership : Uuid) : Deed t (.setActive lobby membership true) t

section
variable {t : Tables}

/-! ## One membership that ends -/

/-- A membership that has ended is in the table as one that has. -/
theorem mem_endMember_self {m : MemberRow} (hm : m ∈ t.members) (leftAt : Timestamp) :
    m.ended leftAt ∈ (t.endMember m leftAt).members :=
  List.mem_map.2 ⟨m, hm, if_pos (by simp)⟩

/-- Where one membership has ended, the other ones are as they were. -/
theorem mem_endMember_of_ne {m k : MemberRow} (hk : k ∈ t.members) (hne : k ≠ m)
    (leftAt : Timestamp) : k ∈ (t.endMember m leftAt).members :=
  List.mem_map.2 ⟨k, hk, if_neg (by simpa using hne)⟩

/-- A class that has one membership ends with it. -/
theorem updateMembers_eq_endMember {p : MemberRow → Bool} {m : MemberRow} (hm : p m = true)
    (honly : ∀ k ∈ t.members, p k = true → k = m) (leftAt : Timestamp) :
    t.updateMembers p (.ended leftAt) = t.endMember m leftAt := by
  have hrows : ∀ k ∈ t.members, (if p k then k.ended leftAt else k) =
      if decide (k = m) then k.ended leftAt else k := by
    intro k hk
    by_cases heq : k = m
    · rw [heq, hm, if_pos rfl, if_pos (decide_eq_true rfl)]
    · rw [if_neg (mt (honly k hk) heq), if_neg (by simpa using heq)]
  rw [endMember, updateMembers, updateMembers, List.map_congr_left hrows]

/-- A list with at most one row of a class has no two different ones. -/
theorem eq_of_countP_le_one {α : Type} {p : α → Bool} {rows : List α} (h : rows.countP p ≤ 1)
    {a b : α} (ha : a ∈ rows) (hb : b ∈ rows) (hpa : p a = true) (hpb : p b = true) : a = b := by
  rw [List.countP_eq_length_filter] at h
  have hfa : a ∈ rows.filter p := List.mem_filter.2 ⟨ha, hpa⟩
  have hfb : b ∈ rows.filter p := List.mem_filter.2 ⟨hb, hpb⟩
  match hrows : rows.filter p, h with
  | [], _ => rw [hrows] at hfa; cases hfa
  | [x], _ =>
    rw [hrows, List.mem_singleton] at hfa hfb
    rw [hfa, hfb]

/-- Two active memberships of one user in one lobby are the same. -/
theorem Sound.activeMember_ext (h : t.Sound) {m k : MemberRow} (hm : m ∈ t.members)
    (hk : k ∈ t.members) (hlobby : k.lobbyId = m.lobbyId) (huser : k.userId = m.userId)
    (hma : m.isActive = true) (hka : k.isActive = true) : k = m :=
  eq_of_countP_le_one (h.oneActive m.lobbyId m.userId) hk hm
    (by simp [MemberRow.isActiveOf, hlobby, huser, hka]) (by simp [MemberRow.isActiveOf, hma])

/-- With all active memberships of a user in a lobby, the only one of them ends. -/
theorem Sound.updateMembers_ofUser (h : t.Sound) {m : MemberRow} (hm : m ∈ t.members)
    (hactive : m.isActive = true) (leftAt : Timestamp) :
    t.updateMembers (fun k => k.lobbyId = m.lobbyId ∧ k.userId = m.userId ∧ k.isActive)
      (.ended leftAt) = t.endMember m leftAt := by
  refine updateMembers_eq_endMember (by simp [hactive]) (fun k hk hp => ?_) leftAt
  obtain ⟨hlobby, huser, hopen⟩ := of_decide_eq_true hp
  exact h.activeMember_ext hm hk hlobby huser hactive hopen

/-- With all memberships under an identifier in a lobby, the only one of them ends. -/
theorem Sound.updateMembers_ofId (h : t.Sound) {m : MemberRow} (hm : m ∈ t.members)
    (leftAt : Timestamp) :
    t.updateMembers (fun k => k.id = m.id ∧ k.lobbyId = m.lobbyId) (.ended leftAt) =
      t.endMember m leftAt :=
  updateMembers_eq_endMember (by simp)
    (fun _ hk hp => h.member_ext hk hm (of_decide_eq_true hp).1) leftAt

end

end Tables

namespace World

section
variable {α : Type} {rules : Rules}

/-- An operation that succeeds has met no deadline. -/
theorem conditions_of_ok {op : Operation α} (hop : op.AsksFirst) {w : World} {a : α}
    (h : (w.perform (rules.conditions []) op).1 = .ok a) : rules.conditions [] = {} := by
  rw [perform_eq_settle] at h
  cases hrun : w.attempt (rules.conditions []) op with | mk r w' =>
  cases r with
  | error f =>
    rw [hrun] at h
    cases h
  | ok closing => exact conditions_of_commit hop hrun

/-- A command that succeeds has met no deadline. -/
theorem conditions_of_execute_ok {w : World} {c : Command} {a : Result}
    (h : (w.execute rules [] c).1 = .ok a) : rules.conditions [] = {} := by
  cases c with
  | create caller =>
    obtain ⟨_, hd, -⟩ := of_map_ok h
    exact conditions_of_ok (Operation.asksFirst_create rules caller) hd
  | join caller typed =>
    obtain ⟨_, hd, -⟩ := of_map_ok h
    exact conditions_of_ok (Operation.asksFirst_join rules caller typed) hd
  | read caller lobby =>
    obtain ⟨_, hd, -⟩ := of_map_ok h
    exact conditions_of_ok (Operation.asksFirst_read caller lobby) hd
  | kick caller lobby target =>
    obtain ⟨_, hd, -⟩ := of_map_ok h
    exact conditions_of_ok (Operation.asksFirst_kick caller lobby target) hd
  | setActive lobby membership active =>
    obtain ⟨_, hd, -⟩ := of_map_ok h
    exact conditions_of_ok (Operation.asksFirst_setActive lobby membership active) hd

/-- A command that succeeds has done so before its deadline. -/
theorem not_expired_of_execute_ok {w : World} {c : Command} {a : Result}
    (h : (w.execute rules [] c).1 = .ok a) : rules.expired = false :=
  congrArg Conditions.expired (conditions_of_execute_ok h)

end

variable {t : Tables} {s : Supply}

/-- A creation that succeeds has opened a lobby: of the ways in which it ends, only the last tells
of one. -/
theorem perform_create_deed {rules : Rules} {caller : Caller} {d : LobbyDetail}
    (h : (perform {} (.create rules caller) ⟨t, s⟩).1 = .ok d) :
    t.Deed (.create caller) (perform {} (.create rules caller) ⟨t, s⟩).2.tables := by
  rw [perform_create] at h ⊢
  split at h
  · cases h
  split at h
  · cases h
  next hretries =>
  rw [if_neg hretries]
  split at h
  · cases h
  next code e hfree =>
  split at h
  · cases h
  next hlobby =>
  split at h
  · cases h
  next hmember =>
  rw [if_neg hlobby, if_neg hmember]
  exact .create caller code s (Tables.lobbyByCode?_eq_none_iff.1 (Tables.freeCode_fresh hfree))
    (Tables.lobby?_eq_none_iff.1 (Option.not_isSome_iff_eq_none.1 hlobby)) (by simpa using hmember)

/-- A join that succeeds has let its caller into the lobby with the code. -/
theorem perform_join_deed {rules : Rules} {caller : Caller} {typed : Text} {d : LobbyDetail}
    (h : (perform {} (.join rules caller typed) ⟨t, s⟩).1 = .ok d) :
    t.Deed (.join caller typed) (perform {} (.join rules caller typed) ⟨t, s⟩).2.tables := by
  rw [perform_join] at h ⊢
  split at h
  · cases h
  next code hcode =>
  split at h
  · cases h
  next lobby hallow =>
  split at h
  · cases h
  split at h
  · cases h
  next hmember =>
  rw [if_neg hmember]
  obtain ⟨hlength, rfl⟩ := JoinCode.normalize_ok hcode
  obtain ⟨row, hrow, hlobby, -, -, habsent⟩ := Tables.admission_ok hallow
  obtain ⟨hknown, hjoinCode⟩ := Tables.mem_of_lobbyByCode? hrow
  have hid : lobby.id = row.id := by rw [(LobbyRow.lobby?_ok hlobby).2]
  rw [hid] at habsent ⊢
  exact .join caller typed row s hknown habsent (by simpa using hmember) hlength hjoinCode

/-- A kick that succeeds has ended the membership of its target. -/
theorem perform_kick_deed (hsound : t.Sound) {caller : Caller} {lobby target : Uuid}
    (h : (perform {} (.kick caller lobby target) ⟨t, s⟩).1 = .ok ()) :
    t.Deed (.kick caller lobby target)
      (perform {} (.kick caller lobby target) ⟨t, s⟩).2.tables := by
  rw [perform_kick] at h ⊢
  split at h
  · cases h
  next hother =>
  rw [if_neg hother]
  split at h
  · cases h
  next row hrow =>
  split at h
  · next hleads =>
    split at h
    · next hactive =>
      rw [if_pos hleads, if_pos hactive]
      obtain ⟨m, hm, rfl, rfl, hopen⟩ := Tables.isActiveMember_iff.1 hactive
      have hknown : row ∈ t.lobbies := List.mem_of_find?_eq_some hrow
      have hid : row.id = m.lobbyId := by simpa using List.find?_some hrow
      dsimp only
      rw [hsound.updateMembers_ofUser hm hopen, ← hid]
      exact .kick caller row m _ hknown hleads.symm hm hid.symm hopen hother
    · cases h
  · cases h

/-- A change of the active flag that succeeds has ended the membership, or left it active. -/
theorem perform_setActive_deed (hsound : t.Sound) {lobby membership : Uuid} {active : Bool}
    (h : (perform {} (.setActive lobby membership active) ⟨t, s⟩).1 = .ok ()) :
    t.Deed (.setActive lobby membership active)
      (perform {} (.setActive lobby membership active) ⟨t, s⟩).2.tables := by
  rw [perform_setActive] at h ⊢
  split at h
  · cases h
  next hsome =>
  rw [if_neg hsome]
  split at h
  · next hactive =>
    rw [if_pos hactive]
    cases active with
    | true =>
      simp only [↓reduceIte, hsound.updateMembers_reopened hactive]
      exact .keep lobby membership
    | false =>
      obtain ⟨m, hm, rfl, rfl, hopen⟩ := Tables.isActiveMembership_iff.1 hactive
      simp only [Bool.false_eq_true, ↓reduceIte]
      rw [hsound.updateMembers_ofId hm]
      exact .dismiss m _ hm hopen
  · cases h

/-- A command that succeeds on sound tables does its deed. -/
theorem execute_deed {rules : Rules} {w : World} (hsound : w.tables.Sound) {c : Command}
    {a : Result} (h : (w.execute rules [] c).1 = .ok a) :
    w.tables.Deed c (w.execute rules [] c).2.tables := by
  have hopen := conditions_of_execute_ok h
  obtain ⟨t, s⟩ := w
  cases c with
  | create caller =>
    obtain ⟨d, hd, -⟩ := of_map_ok h
    simp only [execute, hopen] at hd ⊢
    exact perform_create_deed hd
  | join caller typed =>
    obtain ⟨d, hd, -⟩ := of_map_ok h
    simp only [execute, hopen] at hd ⊢
    exact perform_join_deed hd
  | read caller lobby =>
    obtain ⟨d, hd, -⟩ := of_map_ok h
    simp only [execute, hopen, perform_read_tables]
    exact .read caller lobby
  | kick caller lobby target =>
    obtain ⟨⟨⟩, hd, -⟩ := of_map_ok h
    simp only [execute, hopen] at hd ⊢
    exact perform_kick_deed hsound hd
  | setActive lobby membership active =>
    obtain ⟨⟨⟩, hd, -⟩ := of_map_ok h
    simp only [execute, hopen] at hd ⊢
    exact perform_setActive_deed hsound hd

end World

/-! ## Histories -/

/-- The command of a step that has been carried out. -/
def Step.carriedOut? : Step → Except Failure Result → Option Command
  | .command c, .ok _ => some c
  | _, _ => none

/-- Only a command is carried out. -/
theorem Step.eq_of_carriedOut? {x : Step} {r : Except Failure Result} {c : Command}
    (h : x.carriedOut? r = some c) : x = .command c := by
  unfold carriedOut? at h
  split at h
  · cases h
    rfl
  · cases h

namespace Service

/-- The commands of a history that have been carried out, in their order. -/
def carriedOut (s : Service) (steps : List Step) : List Command :=
  (steps.zip (s.run steps).1).filterMap fun (x, r) => x.carriedOut? r

theorem carriedOut_nil (s : Service) : s.carriedOut [] = [] := rfl

/-- What a history carries out is what its first step does, and then the rest. -/
theorem carriedOut_cons (s : Service) (x : Step) (rest : List Step) :
    s.carriedOut (x :: rest) =
      (x.carriedOut? (s.step x).1).toList ++ (s.step x).2.carriedOut rest := by
  have hzip : (x :: rest).zip (s.run (x :: rest)).1 =
      (x, (s.step x).1) :: rest.zip ((s.step x).2.run rest).1 := rfl
  rw [carriedOut, hzip, List.filterMap_cons]
  cases h : x.carriedOut? (s.step x).1 <;> simp [h, carriedOut]

/-- What a step does to sound tables: the deed of a command that is carried out, or at most another
text for the stage of a lobby. -/
inductive Does (s : Service) (x : Step) : Prop
  | deed (c : Command) (carriedOut : x.carriedOut? (s.step x).1 = some c)
      (deed : s.world.tables.Deed c (s.step x).2.world.tables)
  | stay (none : x.carriedOut? (s.step x).1 = none)
      (same : (s.step x).2.world.tables = s.world.tables)
  | restage (lobby : Uuid) (status : Text) (none : x.carriedOut? (s.step x).1 = none)
      (restaged : (s.step x).2.world.tables = s.world.tables.setStatus lobby status)

/-- Every step of a service does what it is listed to do. -/
theorem step_does {s : Service} (h : s.world.tables.Sound) (x : Step) : s.Does x := by
  cases x with
  | setStatus lobby status => exact .restage lobby status rfl rfl
  | advance micros => exact .stay rfl rfl
  | adopt rules => exact .stay rfl rfl
  | command c =>
    have hresult : (s.step (.command c)).1 = (s.world.execute s.rules [] c).1 := rfl
    have htables : (s.step (.command c)).2.world = (s.world.execute s.rules [] c).2 := rfl
    cases hr : (s.world.execute s.rules [] c).1 with
    | error f =>
      refine .stay (by rw [hresult, hr]; rfl) ?_
      rw [htables, (World.execute_allOrNothing h s.rules c).1 f hr]
    | ok a =>
      refine .deed c (by rw [hresult, hr]; rfl) ?_
      rw [htables]
      exact World.execute_deed h hr

/-- A statement about the tables and the commands carried out so far stays true along a history if
each of these commands keeps it and the stages of lobbies have no part in it. -/
structure Lasts (holds : Tables → List Command → Prop) : Prop where
  deed : ∀ {t t' : Tables} {done : List Command} {c : Command}, t.Sound → holds t done →
    t.Deed c t' → holds t' (done ++ [c])
  setStatus : ∀ {t : Tables} {done : List Command}, holds t done → ∀ lobby status,
    holds (t.setStatus lobby status) done

section
variable {holds : Tables → List Command → Prop} {s : Service} {done : List Command}

/-- What lasts holds after one more step. -/
theorem Lasts.step (hlasts : Lasts holds) (hsound : s.world.tables.Sound)
    (h : holds s.world.tables done) (x : Step) :
    holds (s.step x).2.world.tables (done ++ (x.carriedOut? (s.step x).1).toList) := by
  cases step_does hsound x with
  | deed c carriedOut deed =>
    rw [carriedOut]
    exact hlasts.deed hsound h deed
  | stay none same =>
    rw [none, same]
    simpa using h
  | restage lobby status none restaged =>
    rw [none, restaged]
    simpa using hlasts.setStatus h lobby status

/-- What lasts holds after any history. -/
theorem Lasts.after (hlasts : Lasts holds) (hsound : s.world.tables.Sound)
    (h : holds s.world.tables done) (steps : List Step) :
    holds (s.after steps).world.tables (done ++ s.carriedOut steps) := by
  induction steps generalizing s done with
  | nil => rwa [carriedOut_nil, List.append_nil]
  | cons x rest ih =>
    have hnext := ih (hsound.move (step_move hsound x)) (hlasts.step hsound h x)
    rwa [List.append_assoc, ← carriedOut_cons] at hnext

end

end Service

end GameLobby
