import GameLobby.Proofs.Questions

/-!
# How each transaction ends

A transaction ends well or badly before it is committed or undone (`World.attempt`). Each of the
five operations has one equation, on tables `t` and supplies `s` before the deadline and with all
tables there: how its transaction ends, with which tables and with what drawn. A transaction that
ends badly may have written by then, which the equations show. Whatever is known about an operation
is read off its equation, so this module alone follows the programs.
-/

namespace GameLobby

open Program

section
variable {α : Type} {c : Conditions}

namespace World

/-- How the transaction of an operation ends, before it is committed or undone. -/
def attempt (c : Conditions) (op : Operation α) (w : World) :
    Except Failure (Closing α) × World :=
  match op with
  | .refused r => (.error (.refused r), w)
  | .transact body => runProgram c body w

/-- A transaction that ends well is committed; one that ends badly is undone, but what it has drawn
stays drawn. -/
def settle (c : Conditions) (w : World) :
    Except Failure (Closing α) × World → Except Failure α × World
  | (.error f, w') => (.error f, ⟨w.tables, w'.supply⟩)
  | (.ok closing, w') => (w'.close c closing, w')

/-- An operation is an attempt at its transaction, and what is made of it then. -/
theorem perform_eq_settle (op : Operation α) (w : World) :
    w.perform c op = w.settle c (w.attempt c op) := by
  cases op with
  | refused r => rfl
  | transact body =>
    rw [perform, attempt]
    cases runProgram c body w with | mk r w' =>
    cases r <;> rfl

end World

end

/-! ## The tables after creating and joining -/

/-- The tables with a lobby that a caller has created. -/
def Tables.withLobby (t : Tables) (s : Supply) (caller : Caller) (code : Text) : Tables :=
  ((t.putUser ⟨caller.userId, caller.username, s.time 0⟩).addLobby
    ⟨s.id 0, code, caller.userId, Status.waiting.label, s.time 1, s.time 1⟩).addMember
    ⟨s.id 1, s.id 0, caller.userId, s.time 2, true, none⟩

/-- The tables with a caller who has joined a lobby. -/
def Tables.withPlayer (t : Tables) (s : Supply) (caller : Caller) (lobby : Uuid) : Tables :=
  (t.putUser ⟨caller.userId, caller.username, s.time 0⟩).addMember
    ⟨s.id 0, lobby, caller.userId, s.time 1, true, none⟩

/-- The lobby that a caller may join by a code, or the first reason why not. -/
def Tables.admission (t : Tables) (rules : Rules) (caller : Caller) (code : Text) :
    Except Failure Lobby :=
  match encodable code with
  | .error f => .error f
  | .ok () =>
    match t.lobbyByCode? code with
    | none => .error (.refused (Operation.noLobbyWith code))
    | some row =>
      match row.lobby? with
      | .error f => .error f
      | .ok lobby =>
        if !lobby.isJoinable then .error (.refused RefusalClass.lobbyNotJoinable.refusal)
        else if rules.maxPlayers ≤ t.activeCount lobby.id then
          .error (.refused (Operation.full rules.maxPlayers))
        else if t.isActiveMember lobby.id caller.userId then
          .error (.refused RefusalClass.alreadyInLobby.refusal)
        else .ok lobby

/-- An admitted caller finds a waiting lobby with the code, a free seat there, and is not there
already. -/
theorem Tables.admission_ok {t : Tables} {rules : Rules} {caller : Caller} {code : Text}
    {lobby : Lobby} (h : t.admission rules caller code = .ok lobby) :
    ∃ row, t.lobbyByCode? code = some row ∧ row.lobby? = .ok lobby ∧ lobby.status = .waiting ∧
      t.activeCount lobby.id < rules.maxPlayers ∧
      t.isActiveMember lobby.id caller.userId = false := by
  rw [admission] at h
  split at h
  · cases h
  split at h
  · cases h
  next row hrow =>
  split at h
  · cases h
  next l hl =>
  split at h
  · cases h
  next hjoin =>
  split at h
  · cases h
  next hseat =>
  split at h
  · cases h
  next habsent =>
  cases h
  refine ⟨row, hrow, hl, ?_, Int.not_le.1 hseat, Bool.eq_false_iff.2 habsent⟩
  simpa [Lobby.isJoinable, Status.isJoinable] using hjoin

/-- Setting the active flag of a membership that is active, with something else to do where the
write finds no membership. -/
def Operation.setActiveOr (other : Program (Closing Unit)) (lobby membership : Uuid)
    (active : Bool) : Operation Unit :=
  .transact do
    match ← query (.leader lobby) with
    | none => refuse RefusalClass.lobbyNotFound.refusal
    | some _ =>
      if ← query (.isActiveMembership lobby membership) then
        if ← query (.setMemberActive lobby membership active) then pure (.answer (.ok ()))
        else other
      else refuse RefusalClass.playerNotFound.refusal

/-- What is laid down for a write that finds no membership is one more refusal. -/
theorem Operation.setActiveOr_refuse :
    setActiveOr (refuse RefusalClass.playerNotFound.refusal) = setActive :=
  rfl

namespace World

variable (t : Tables) (s : Supply)

/-! ## Ending memberships -/

/-- Kicking: not oneself, by the leader only, and only an active member. -/
theorem attempt_kick (caller : Caller) (lobby target : Uuid) :
    attempt {} (.kick caller lobby target) ⟨t, s⟩ =
      if target = caller.userId then (.error (.refused RefusalClass.cannotKickSelf.refusal), ⟨t, s⟩)
      else
        match t.lobby? lobby with
        | none => (.error (.refused RefusalClass.lobbyNotFound.refusal), ⟨t, s⟩)
        | some row =>
          if caller.userId = row.leaderId then
            if t.isActiveMember lobby target then
              (.ok (.answer (.ok ())), ⟨t.updateMembers
                (fun m => m.lobbyId = lobby ∧ m.userId = target ∧ m.isActive) (.ended (s.time 0)),
                s.drawn 1 0 s.entropy⟩)
            else (.error (.refused RefusalClass.playerNotInLobby.refusal), ⟨t, s⟩)
          else (.error (.refused
            (RefusalClass.forbidden.saying "Only the lobby leader can do this")), ⟨t, s⟩) := by
  have hguard := runProgram_requireLeader caller lobby ⟨t, s⟩
  rw [Operation.kick]
  split
  · rfl
  rw [attempt]
  cases h : t.lobby? lobby with
  | none =>
    simp only [h] at hguard
    rw [runProgram_bind_error (runProgram_discard_error hguard)]
  | some row =>
    simp only [h] at hguard ⊢
    split at hguard
    · next hlead =>
      have hask : answer ⟨t, s⟩ (.isActiveMember lobby target) =
        (.ok (t.isActiveMember lobby target), ⟨t, s⟩) := rfl
      have hwrite : answer ⟨t, s⟩ (.deactivateMember lobby target) = _ :=
        answer_deactivateMember t s 0 0 s.entropy lobby target
      rw [if_pos hlead, runProgram_bind_ok (runProgram_discard_ok hguard),
        runProgram_query_ok hask]
      cases t.isActiveMember lobby target with
      | false => rfl
      | true => rw [if_pos rfl, if_pos rfl, runProgram_query_ok hwrite]; rfl
    · next hlead => rw [if_neg hlead, runProgram_bind_error (runProgram_discard_error hguard)]

/-- Setting the active flag: of an active membership in the lobby only. The write finds what the
check has found, so whatever else there is to do does not come about. -/
theorem attempt_setActiveOr (other : Program (Closing Unit)) (lobby membership : Uuid)
    (active : Bool) :
    attempt {} (.setActiveOr other lobby membership active) ⟨t, s⟩ =
      if (t.lobby? lobby).isNone then
        (.error (.refused RefusalClass.lobbyNotFound.refusal), ⟨t, s⟩)
      else if t.isActiveMembership lobby membership then
        (.ok (.answer (.ok ())), ⟨t.updateMembers
          (fun m => m.id = membership ∧ m.lobbyId = lobby)
          (if active then .reopened else .ended (s.time 0)),
          s.drawn (if active then 0 else 1) 0 s.entropy⟩)
      else (.error (.refused RefusalClass.playerNotFound.refusal), ⟨t, s⟩) := by
  have hleader : answer ⟨t, s⟩ (.leader lobby) =
    (.ok ((t.lobby? lobby).map (·.leaderId)), ⟨t, s⟩) := rfl
  have hactive : answer ⟨t, s⟩ (.isActiveMembership lobby membership) =
    (.ok (t.isActiveMembership lobby membership), ⟨t, s⟩) := rfl
  have hwrite : answer ⟨t, s⟩ (.setMemberActive lobby membership active) = _ :=
    answer_setMemberActive t s 0 0 s.entropy lobby membership active
  rw [Operation.setActiveOr, attempt, runProgram_query_ok hleader]
  cases t.lobby? lobby with
  | none => rfl
  | some row =>
    simp only [Option.map_some, Option.isNone_some, Bool.false_eq_true, ↓reduceIte]
    rw [runProgram_query_ok hactive]
    cases hm : t.isActiveMembership lobby membership with
    | false => rfl
    | true =>
      have hfound : (t.members.any fun m => m.id = membership ∧ m.lobbyId = lobby) = true := by
        obtain ⟨m, hmem, hid, hlobby, -⟩ := Tables.isActiveMembership_iff.1 hm
        exact List.any_eq_true.2 ⟨m, hmem, by simp [hid, hlobby]⟩
      rw [hfound] at hwrite
      rw [if_pos rfl, if_pos rfl, runProgram_query_ok hwrite]
      cases active <;> rfl

/-- Setting the active flag: an active membership in the lobby ends at a reading, or is reopened
without one. -/
theorem attempt_setActive (lobby membership : Uuid) (active : Bool) :
    attempt {} (.setActive lobby membership active) ⟨t, s⟩ =
      if (t.lobby? lobby).isNone then
        (.error (.refused RefusalClass.lobbyNotFound.refusal), ⟨t, s⟩)
      else if t.isActiveMembership lobby membership then
        (.ok (.answer (.ok ())), ⟨t.updateMembers
          (fun m => m.id = membership ∧ m.lobbyId = lobby)
          (if active then .reopened else .ended (s.time 0)),
          s.drawn (if active then 0 else 1) 0 s.entropy⟩)
      else (.error (.refused RefusalClass.playerNotFound.refusal), ⟨t, s⟩) := by
  rw [← Operation.setActiveOr_refuse, attempt_setActiveOr]

/-! ## Reading -/

/-- Reading: by the leader and by whoever has, or had, a membership. -/
theorem attempt_read (caller : Caller) (lobby : Uuid) :
    attempt {} (.read caller lobby) ⟨t, s⟩ =
      match t.lobby? lobby with
      | none => (.error (.refused RefusalClass.lobbyNotFound.refusal), ⟨t, s⟩)
      | some row =>
        if caller.userId = row.leaderId ∨ t.hasMembership lobby caller.userId then
          (row.lobby?.map fun l => .answer (.ok ⟨l, t.playersOf lobby⟩), ⟨t, s⟩)
        else (.error (.refused
          (RefusalClass.forbidden.saying "You are not a member of this lobby")), ⟨t, s⟩) := by
  have hguard := runProgram_requireMember caller lobby ⟨t, s⟩
  rw [Operation.read, attempt]
  cases h : t.lobby? lobby with
  | none =>
    simp only [h] at hguard
    rw [runProgram_bind_error (runProgram_discard_error hguard)]
  | some row =>
    simp only [h] at hguard ⊢
    split at hguard
    · next hmay =>
      have hdetail : answer ⟨t, s⟩ (.detail lobby) =
        (row.lobby?.map fun l => some ⟨l, t.playersOf lobby⟩, ⟨t, s⟩) := by
          simp only [answer, Tables.detail?, h]
      rw [if_pos hmay, runProgram_bind_ok (runProgram_discard_ok hguard)]
      cases hl : row.lobby? with
      | error f => rw [hl] at hdetail; rw [runProgram_query_error hdetail]; rfl
      | ok l => rw [hl] at hdetail; rw [runProgram_query_ok hdetail]; rfl
    · next hmay => rw [if_neg hmay, runProgram_bind_error (runProgram_discard_error hguard)]

/-! ## Joining -/

/-- The checks of a join only look. -/
theorem runProgram_checkJoin (rules : Rules) (caller : Caller) (code : Text) (w : World) :
    runProgram {} (Operation.checkJoin rules caller code) w =
      (w.tables.admission rules caller code, w) := by
  have hcode : w.answer (.lobbyByCode code) = (w.lobbyByCode code, w) := rfl
  rw [Operation.checkJoin, Tables.admission]
  rw [lobbyByCode] at hcode
  cases hstore : encodable code with
  | error f => simp only [hstore] at hcode; rw [runProgram_query_error hcode]
  | ok _ =>
    simp only [hstore] at hcode ⊢
    cases hrow : w.tables.lobbyByCode? code with
    | none => simp only [hrow] at hcode; rw [runProgram_query_ok hcode]; rfl
    | some row =>
      simp only [hrow] at hcode ⊢
      cases hlobby : row.lobby? with
      | error f =>
        have hfail : w.answer (.lobbyByCode code) = (.error f, w) := by rw [hcode, hlobby]; rfl
        rw [runProgram_query_error hfail]
      | ok lobby =>
        have hfound : w.answer (.lobbyByCode code) = (.ok (some lobby), w) := by
          rw [hcode, hlobby]; rfl
        rw [runProgram_query_ok hfound]
        have hcount : w.answer (.activeCount lobby.id) =
          (.ok (some (w.tables.activeCount lobby.id : Int)), w) := rfl
        have hmember : w.answer (.isActiveMember lobby.id caller.userId) =
          (.ok (w.tables.isActiveMember lobby.id caller.userId), w) := rfl
        dsimp only
        split
        · rfl
        rw [runProgram_query_ok hcount]
        change runProgram {} (if rules.maxPlayers ≤ (w.tables.activeCount lobby.id : Int) then _
          else _) w = _
        split
        · rfl
        rw [runProgram_query_ok hmember]
        cases w.tables.isActiveMember lobby.id caller.userId <;> rfl

/-- Joining: by a code of six characters, where the checks admit the caller. -/
theorem attempt_join (rules : Rules) (caller : Caller) (typed : Text) :
    attempt {} (.join rules caller typed) ⟨t, s⟩ =
      match JoinCode.normalize typed with
      | .error r => (.error (.refused r), ⟨t, s⟩)
      | .ok code =>
        match t.admission rules caller code with
        | .error f => (.error f, ⟨t, s⟩)
        | .ok lobby =>
          match encodable caller.username with
          | .error f => (.error f, ⟨t, s.drawn 1 0 s.entropy⟩)
          | .ok () =>
            if t.members.any (·.id = s.id 0) then
              (.error (.broken (.unique .members "id")),
                ⟨t.putUser ⟨caller.userId, caller.username, s.time 0⟩, s.drawn 2 1 s.entropy⟩)
            else
              (.ok (.readDetail lobby.id Operation.found),
                ⟨t.withPlayer s caller lobby.id, s.drawn 2 1 s.entropy⟩) := by
  rw [Operation.join]
  cases JoinCode.normalize typed with
  | error r => rfl
  | ok code =>
    have hcheck := runProgram_checkJoin rules caller code ⟨t, s⟩
    dsimp only
    rw [attempt]
    cases hallow : t.admission rules caller code with
    | error f => rw [hallow] at hcheck; rw [runProgram_bind_error hcheck]
    | ok lobby =>
      rw [hallow] at hcheck
      rw [runProgram_bind_ok hcheck]
      cases hname : encodable caller.username with
      | error f =>
        have hwrite : answer ⟨t, s⟩ (.upsertUser caller.userId caller.username) = _ :=
          answer_upsertUser_error t s 0 0 s.entropy hname caller.userId
        rw [runProgram_query_error hwrite]
      | ok _ =>
        have hwrite : answer ⟨t, s⟩ (.upsertUser caller.userId caller.username) = _ :=
          answer_upsertUser t s 0 0 s.entropy hname caller.userId
        rw [runProgram_query_ok hwrite]
        dsimp only
        rw [← Tables.putUser_members t ⟨caller.userId, caller.username, s.time 0⟩]
        cases hused : (t.putUser _).members.any (·.id = s.id 0) with
        | true =>
          rw [runProgram_query_error (answer_addMember_taken _ s 1 0 s.entropy hused _ _)]
          rfl
        | false =>
          rw [runProgram_query_ok (answer_addMember _ s 1 0 s.entropy hused _ _)]
          rfl

/-! ## Creating -/

/-- Entering a lobby under a code that is not in use, with its leader as its first member. -/
theorem runProgram_enterLobby {code : Text} {e : Entropy} (hstore : encodable code = .ok ())
    (hcode : t.lobbyByCode? code = none) (leader : Uuid) :
    let row : LobbyRow := ⟨s.id 0, code, leader, Status.waiting.label, s.time 1, s.time 1⟩
    let entered := (t.addLobby row).addMember ⟨s.id 1, s.id 0, leader, s.time 2, true, none⟩
    runProgram {} (do
      let lobby ← require .newLobby (← query (.createLobby code leader))
      query (.addMember lobby.id leader)
      let detail ← query (.detail lobby.id)
      pure (Closing.answer (Operation.found detail))) ⟨t, s.drawn 1 0 e⟩ =
      if (t.lobby? (s.id 0)).isSome then
        (.error (.broken (.unique .lobbies "id")), ⟨t, s.drawn 2 1 e⟩)
      else if t.members.any (·.id = s.id 1) then
        (.error (.broken (.unique .members "id")), ⟨t.addLobby row, s.drawn 3 2 e⟩)
      else
        (.ok (.answer (.ok ⟨⟨s.id 0, code, leader, .waiting, s.time 1, s.time 1⟩,
          entered.playersOf (s.id 0)⟩)), ⟨entered, s.drawn 3 2 e⟩) := by
  intro row entered
  by_cases hlobby : (t.lobby? (s.id 0)).isSome
  · have hwrite := answer_createLobby_taken t s 1 0 e hstore hcode hlobby leader
    rw [if_pos hlobby, runProgram_query_error hwrite]
  have hid : t.lobby? (s.id 0) = none := Option.not_isSome_iff_eq_none.1 hlobby
  have hwrite := answer_createLobby t s 1 0 e hstore hcode hid leader
  rw [if_neg hlobby, runProgram_query_ok hwrite, runProgram_bind_ok rfl]
  have hrows : (t.addLobby row).members = t.members := rfl
  rw [← hrows]
  cases hused : (t.addLobby row).members.any (·.id = s.id 1) with
  | true =>
    rw [runProgram_query_error (answer_addMember_taken (t.addLobby row) s 2 1 e hused _ _)]
    rfl
  | false =>
    have hdetail := answer_detail_addLobby (l := row) hid rfl
    rw [runProgram_query_ok (answer_addMember (t.addLobby row) s 2 1 e hused _ _),
      runProgram_query_ok (hdetail _ _)]
    rfl

/-- Creating: with a code that is not in use, if one is found, and identifiers that are not. -/
theorem attempt_create (rules : Rules) (caller : Caller) :
    attempt {} (.create rules caller) ⟨t, s⟩ =
      match encodable caller.username with
      | .error f => (.error f, ⟨t, s.drawn 1 0 s.entropy⟩)
      | .ok () =>
        let u := t.putUser ⟨caller.userId, caller.username, s.time 0⟩
        if rules.maxRetries < 1 then (.error .noAttempts, ⟨u, s.drawn 1 0 s.entropy⟩)
        else
          match t.freeCode rules.maxRetries.toNat s.entropy with
          | (none, e) =>
            (.error (.refused (allTaken rules.maxRetries.toNat)), ⟨u, s.drawn 1 0 e⟩)
          | (some code, e) =>
            if (t.lobby? (s.id 0)).isSome then
              (.error (.broken (.unique .lobbies "id")), ⟨u, s.drawn 2 1 e⟩)
            else if t.members.any (·.id = s.id 1) then
              (.error (.broken (.unique .members "id")), ⟨u.addLobby
                ⟨s.id 0, code, caller.userId, Status.waiting.label, s.time 1, s.time 1⟩,
                s.drawn 3 2 e⟩)
            else
              (.ok (.answer (.ok ⟨⟨s.id 0, code, caller.userId, .waiting, s.time 1, s.time 1⟩,
                (t.withLobby s caller code).playersOf (s.id 0)⟩)),
                ⟨t.withLobby s caller code, s.drawn 3 2 e⟩) := by
  rw [Operation.create, attempt]
  cases hname : encodable caller.username with
  | error f =>
    have hwrite : answer ⟨t, s⟩ (.upsertUser caller.userId caller.username) = _ :=
      answer_upsertUser_error t s 0 0 s.entropy hname caller.userId
    rw [runProgram_query_error hwrite]
  | ok _ =>
    have hwrite : answer ⟨t, s⟩ (.upsertUser caller.userId caller.username) = _ :=
      answer_upsertUser t s 0 0 s.entropy hname caller.userId
    rw [runProgram_query_ok hwrite]
    simp only [Tables.withLobby]
    generalize hu : t.putUser ⟨caller.userId, caller.username, s.time 0⟩ = u
    have hlobbies : u.lobbies = t.lobbies := by rw [← hu, Tables.putUser_lobbies]
    have hmembers : u.members = t.members := by rw [← hu, Tables.putUser_members]
    have hclaim := runProgram_claimCode u s 1 0 rules.maxRetries s.entropy
    rw [Tables.freeCode_congr hlobbies] at hclaim
    split at hclaim
    · next hr => rw [if_pos hr, runProgram_bind_error hclaim]
    next hr =>
    rw [if_neg hr]
    cases hfree : t.freeCode rules.maxRetries.toNat s.entropy with | mk found e =>
    rw [hfree] at hclaim
    cases found with
    | none => rw [runProgram_bind_error hclaim]
    | some code =>
      dsimp only at hclaim ⊢
      have hcode : u.lobbyByCode? code = none := by
        rw [Tables.lobbyByCode?, hlobbies]
        exact Tables.freeCode_fresh hfree
      have hstore : encodable code = .ok () := by
        obtain ⟨_, rfl⟩ := Tables.freeCode_eq_random hfree
        exact JoinCode.encodable_random _ _
      have henter := runProgram_enterLobby u s hstore hcode caller.userId (e := e)
      rw [Tables.lobby?, hlobbies, hmembers] at henter
      rw [runProgram_bind_ok hclaim]
      exact henter

end World

end GameLobby
