import GameLobby.Proofs.Attempts

/-!
# What each operation does

One equation for each of the five operations, on tables `t` and supplies `s` before the deadline and
with all tables there: its result, the tables after it and what it has drawn. Each follows from the
way in which the transaction of the operation ends.
-/

namespace GameLobby

open Program

namespace World

section
variable {α : Type} {c : Conditions}

/-- The answer after a commit is made from the detail of the lobby as it is then. -/
theorem close_readDetail (w : World) (lobby : Uuid) (next : Option LobbyDetail → Except Failure α) :
    w.close {} (.readDetail lobby next) = (w.tables.detail? lobby).bind next := by
  have hask : (w.consult [] (.detail lobby)).1 = w.tables.detail? lobby := by
    rw [consult_nil]; rfl
  simp only [close, hask]
  cases w.tables.detail? lobby <;> rfl

end

variable (t : Tables) (s : Supply)

/-- Kicking: not oneself, by the leader only, and only an active member. -/
theorem perform_kick (caller : Caller) (lobby target : Uuid) :
    perform {} (.kick caller lobby target) ⟨t, s⟩ =
      if target = caller.userId then (.error (.refused RefusalClass.cannotKickSelf.refusal), ⟨t, s⟩)
      else
        match t.lobby? lobby with
        | none => (.error (.refused RefusalClass.lobbyNotFound.refusal), ⟨t, s⟩)
        | some row =>
          if caller.userId = row.leaderId then
            if t.isActiveMember lobby target then
              (.ok (), ⟨t.updateMembers
                (fun m => m.lobbyId = lobby ∧ m.userId = target ∧ m.isActive) (.ended (s.time 0)),
                s.drawn 1 0 s.entropy⟩)
            else (.error (.refused RefusalClass.playerNotInLobby.refusal), ⟨t, s⟩)
          else (.error (.refused
            (RefusalClass.forbidden.saying "Only the lobby leader can do this")), ⟨t, s⟩) := by
  rw [perform_eq_settle, attempt_kick]
  split
  · rfl
  cases t.lobby? lobby with
  | none => rfl
  | some row =>
    dsimp only
    split
    · split <;> rfl
    · rfl

/-- Setting the active flag: of an active membership in the lobby only. -/
theorem perform_setActive (lobby membership : Uuid) (active : Bool) :
    perform {} (.setActive lobby membership active) ⟨t, s⟩ =
      if (t.lobby? lobby).isNone then
        (.error (.refused RefusalClass.lobbyNotFound.refusal), ⟨t, s⟩)
      else if t.isActiveMembership lobby membership then
        (.ok (), ⟨t.updateMembers (fun m => m.id = membership ∧ m.lobbyId = lobby)
          (if active then .reopened else .ended (s.time 0)),
          s.drawn (if active then 0 else 1) 0 s.entropy⟩)
      else (.error (.refused RefusalClass.playerNotFound.refusal), ⟨t, s⟩) := by
  rw [perform_eq_settle, attempt_setActive]
  split
  · rfl
  split <;> rfl

/-- Reading: by the leader and by whoever has, or had, a membership. -/
theorem perform_read (caller : Caller) (lobby : Uuid) :
    perform {} (.read caller lobby) ⟨t, s⟩ =
      match t.lobby? lobby with
      | none => (.error (.refused RefusalClass.lobbyNotFound.refusal), ⟨t, s⟩)
      | some row =>
        if caller.userId = row.leaderId ∨ t.hasMembership lobby caller.userId then
          (row.lobby?.map fun l => ⟨l, t.playersOf lobby⟩, ⟨t, s⟩)
        else (.error (.refused
          (RefusalClass.forbidden.saying "You are not a member of this lobby")), ⟨t, s⟩) := by
  rw [perform_eq_settle, attempt_read]
  cases t.lobby? lobby with
  | none => rfl
  | some row =>
    dsimp only
    split
    · cases row.lobby? <;> rfl
    · rfl

/-- Joining: by a code of six characters, where the checks admit the caller. -/
theorem perform_join (rules : Rules) (caller : Caller) (typed : Text) :
    perform {} (.join rules caller typed) ⟨t, s⟩ =
      match JoinCode.normalize typed with
      | .error r => (.error (.refused r), ⟨t, s⟩)
      | .ok code =>
        match t.admission rules caller code with
        | .error f => (.error f, ⟨t, s⟩)
        | .ok lobby =>
          match encodable caller.username with
          | .error f => (.error f, ⟨t, s.drawn 1 0 s.entropy⟩)
          | .ok () =>
            if t.members.any (·.id = s.id 0) then
              (.error (.broken (.unique .members "id")), ⟨t, s.drawn 2 1 s.entropy⟩)
            else
              (((t.withPlayer s caller lobby.id).detail? lobby.id).bind Operation.found,
                ⟨t.withPlayer s caller lobby.id, s.drawn 2 1 s.entropy⟩) := by
  rw [perform_eq_settle, attempt_join]
  cases JoinCode.normalize typed with
  | error r => rfl
  | ok code =>
    dsimp only
    cases t.admission rules caller code with
    | error f => rfl
    | ok lobby =>
      dsimp only
      cases encodable caller.username with
      | error f => rfl
      | ok _ =>
        dsimp only
        split
        · rfl
        · rw [settle, close_readDetail]

/-- Creating: with a code that is not in use, if one is found, and identifiers that are not. -/
theorem perform_create (rules : Rules) (caller : Caller) :
    perform {} (.create rules caller) ⟨t, s⟩ =
      match encodable caller.username with
      | .error f => (.error f, ⟨t, s.drawn 1 0 s.entropy⟩)
      | .ok () =>
        if rules.maxRetries < 1 then (.error .noAttempts, ⟨t, s.drawn 1 0 s.entropy⟩)
        else
          match t.freeCode rules.maxRetries.toNat s.entropy with
          | (none, e) =>
            (.error (.refused (allTaken rules.maxRetries.toNat)), ⟨t, s.drawn 1 0 e⟩)
          | (some code, e) =>
            if (t.lobby? (s.id 0)).isSome then
              (.error (.broken (.unique .lobbies "id")), ⟨t, s.drawn 2 1 e⟩)
            else if t.members.any (·.id = s.id 1) then
              (.error (.broken (.unique .members "id")), ⟨t, s.drawn 3 2 e⟩)
            else
              (.ok ⟨⟨s.id 0, code, caller.userId, .waiting, s.time 1, s.time 1⟩,
                (t.withLobby s caller code).playersOf (s.id 0)⟩,
                ⟨t.withLobby s caller code, s.drawn 3 2 e⟩) := by
  rw [perform_eq_settle, attempt_create]
  cases encodable caller.username with
  | error f => rfl
  | ok _ =>
    dsimp only
    split
    · rfl
    cases t.freeCode rules.maxRetries.toNat s.entropy with | mk found e =>
    cases found with
    | none => rfl
    | some code =>
      dsimp only
      split
      · rfl
      split <;> rfl

end World

end GameLobby
