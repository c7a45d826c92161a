import GameLobby.Proofs.Rows
import GameLobby.Proofs.Running

/-!
# What each question answers

On tables `t` with supplies drawn from those of the start (`Supply.drawn`), each question that
writes has one equation for every way in which it ends: its answer, the tables after it and what it
has drawn. The guards ask questions that only look, and so are told as functions of the tables.
-/

namespace GameLobby

open Program

namespace World

/-! ## Questions that write -/

section
variable (t : Tables) (s : Supply) (a b : Nat) (e : Entropy)

/-- Entering a user whose name can be stored takes a reading. -/
theorem answer_upsertUser {name : Text} (h : encodable name = .ok ()) (user : Uuid) :
    answer ⟨t, s.drawn a b e⟩ (.upsertUser user name) =
      (.ok (), ⟨t.putUser ⟨user, name, s.time a⟩, s.drawn (a + 1) b e⟩) := by
  simp only [answer, upsertUser, reading, Supply.reading_drawn, h, withTables]

/-- A name that cannot be stored fails after the reading has been taken. -/
theorem answer_upsertUser_error {name : Text} {f : Failure} (h : encodable name = .error f)
    (user : Uuid) :
    answer ⟨t, s.drawn a b e⟩ (.upsertUser user name) =
      (.error f, ⟨t, s.drawn (a + 1) b e⟩) := by
  simp only [answer, upsertUser, reading, Supply.reading_drawn, h]

/-- A lobby with a new code and a new identifier is entered, waiting. -/
theorem answer_createLobby {code : Text} (hstore : encodable code = .ok ())
    (hcode : t.lobbyByCode? code = none) (hid : t.lobby? (s.id b) = none) (leader : Uuid) :
    answer ⟨t, s.drawn a b e⟩ (.createLobby code leader) =
      (.ok (some ⟨s.id b, code, leader, .waiting, s.time a, s.time a⟩),
        ⟨t.addLobby ⟨s.id b, code, leader, Status.waiting.label, s.time a, s.time a⟩,
          s.drawn (a + 1) (b + 1) e⟩) := by
  simp only [answer, createLobby, reading, freshId, Supply.reading_drawn, Supply.freshId_drawn,
    hstore, hcode, hid, Option.isSome_none, Bool.false_eq_true, ↓reduceIte, withTables, Except.map]

/-- A lobby with an identifier that is in use is not entered. -/
theorem answer_createLobby_taken {code : Text} (hstore : encodable code = .ok ())
    (hcode : t.lobbyByCode? code = none) (hid : (t.lobby? (s.id b)).isSome) (leader : Uuid) :
    answer ⟨t, s.drawn a b e⟩ (.createLobby code leader) =
      (.error (.broken (.unique .lobbies "id")), ⟨t, s.drawn (a + 1) (b + 1) e⟩) := by
  simp only [answer, createLobby, reading, freshId, Supply.reading_drawn, Supply.freshId_drawn,
    hstore, hcode, hid, Option.isSome_none, Bool.false_eq_true, ↓reduceIte, Except.map]

/-- A membership with a new identifier is entered, active. -/
theorem answer_addMember (h : t.members.any (·.id = s.id b) = false) (lobby user : Uuid) :
    answer ⟨t, s.drawn a b e⟩ (.addMember lobby user) =
      (.ok (), ⟨t.addMember ⟨s.id b, lobby, user, s.time a, true, none⟩,
        s.drawn (a + 1) (b + 1) e⟩) := by
  have hadd : addMember lobby user ⟨t, s.drawn a b e⟩ = (.ok (s.id b, s.time a),
      ⟨t.addMember ⟨s.id b, lobby, user, s.time a, true, none⟩, s.drawn (a + 1) (b + 1) e⟩) :=
    if_neg (Bool.eq_false_iff.1 h)
  simp only [answer, hadd, Except.map]

/-- A membership with an identifier that is in use is not entered. -/
theorem answer_addMember_taken (h : t.members.any (·.id = s.id b) = true) (lobby user : Uuid) :
    answer ⟨t, s.drawn a b e⟩ (.addMember lobby user) =
      (.error (.broken (.unique .members "id")), ⟨t, s.drawn (a + 1) (b + 1) e⟩) := by
  have hadd : addMember lobby user ⟨t, s.drawn a b e⟩ =
      (.error (.broken (.unique .members "id")), ⟨t, s.drawn (a + 1) (b + 1) e⟩) :=
    if_pos h
  simp only [answer, hadd, Except.map]

/-- The active memberships of a user in a lobby are ended at one reading. -/
theorem answer_deactivateMember (lobby user : Uuid) :
    answer ⟨t, s.drawn a b e⟩ (.deactivateMember lobby user) =
      (.ok (), ⟨t.updateMembers (fun m => m.lobbyId = lobby ∧ m.userId = user ∧ m.isActive)
        (.ended (s.time a)), s.drawn (a + 1) b e⟩) :=
  rfl

/-- A membership of a lobby is ended at a reading, or reopened without one, and the answer says
whether there is one. -/
theorem answer_setMemberActive (lobby membership : Uuid) (active : Bool) :
    answer ⟨t, s.drawn a b e⟩ (.setMemberActive lobby membership active) =
      (.ok (t.members.any fun m => m.id = membership ∧ m.lobbyId = lobby),
        ⟨t.updateMembers (fun m => m.id = membership ∧ m.lobbyId = lobby)
          (if active then .reopened else .ended (s.time a)),
        s.drawn (if active then a else a + 1) b e⟩) := by
  cases active <;> rfl

end

/-- A waiting lobby that has been entered under a free identifier has a detail. -/
theorem answer_detail_addLobby {t : Tables} {l : LobbyRow} (hid : t.lobby? l.id = none)
    (hstatus : l.status = Status.waiting.label) (m : MemberRow) (s : Supply) :
    answer ⟨(t.addLobby l).addMember m, s⟩ (.detail l.id) =
      (.ok (some ⟨⟨l.id, l.joinCode, l.leaderId, .waiting, l.createdAt, l.updatedAt⟩,
        ((t.addLobby l).addMember m).playersOf l.id⟩), ⟨(t.addLobby l).addMember m, s⟩) := by
  have hrow : ((t.addLobby l).addMember m).lobby? l.id = some l := Tables.lobby?_addLobby hid
  simp only [answer, Tables.detail?, hrow, LobbyRow.lobby?_of_status hstatus, Except.map]

/-! ## Guards -/

/-- The leader of a lobby is asked for; without a lobby, that is refused. -/
theorem runProgram_resolveLeader (lobby : Uuid) (w : World) :
    runProgram {} (Guard.resolveLeader lobby) w =
      match w.tables.lobby? lobby with
      | some row => (.ok row.leaderId, w)
      | none => (.error (.refused RefusalClass.lobbyNotFound.refusal), w) := by
  have hask : w.answer (.leader lobby) = (.ok ((w.tables.lobby? lobby).map (·.leaderId)), w) := rfl
  rw [Guard.resolveLeader, runProgram_query_ok hask]
  cases w.tables.lobby? lobby <;> rfl

/-- The leader passes the check for leaders, and everybody else is refused. -/
theorem runProgram_requireLeader (caller : Caller) (lobby : Uuid) (w : World) :
    runProgram {} (Guard.requireLeader caller lobby) w =
      match w.tables.lobby? lobby with
      | some row =>
        if caller.userId = row.leaderId then (.ok row.leaderId, w)
        else (.error (.refused
          (RefusalClass.forbidden.saying "Only the lobby leader can do this")), w)
      | none => (.error (.refused RefusalClass.lobbyNotFound.refusal), w) := by
  have hleader := runProgram_resolveLeader lobby w
  rw [Guard.requireLeader]
  cases h : w.tables.lobby? lobby with
  | none => rw [h] at hleader; exact runProgram_bind_error hleader
  | some row =>
    rw [h] at hleader
    rw [runProgram_bind_ok hleader]
    dsimp only
    split <;> rfl

/-- The leader and whoever has a membership pass the check for members, and everybody else is
refused. -/
theorem runProgram_requireMember (caller : Caller) (lobby : Uuid) (w : World) :
    runProgram {} (Guard.requireMember caller lobby) w =
      match w.tables.lobby? lobby with
      | some row =>
        if caller.userId = row.leaderId ∨ w.tables.hasMembership lobby caller.userId then
          (.ok row.leaderId, w)
        else (.error (.refused
          (RefusalClass.forbidden.saying "You are not a member of this lobby")), w)
      | none => (.error (.refused RefusalClass.lobbyNotFound.refusal), w) := by
  have hleader := runProgram_resolveLeader lobby w
  rw [Guard.requireMember]
  cases h : w.tables.lobby? lobby with
  | none => rw [h] at hleader; exact runProgram_bind_error hleader
  | some row =>
    rw [h] at hleader
    rw [runProgram_bind_ok hleader]
    dsimp only
    by_cases hlead : caller.userId = row.leaderId
    · rw [if_pos hlead, if_pos (.inl hlead), runProgram_pure]
    · have hask : w.answer (.hasMembership lobby caller.userId) =
        (.ok (w.tables.hasMembership lobby caller.userId), w) := rfl
      rw [if_neg hlead, runProgram_query_ok hask]
      cases w.tables.hasMembership lobby caller.userId with
      | false => simp [hlead, runProgram_refuse]
      | true => simp

end World

end GameLobby
