import GameLobby.Proofs.Moves

/-!
# Seats

Nobody takes two seats in a lobby, and a lobby never has more active players than its limit allows,
or one where the limit is lower than that, since its leader enters it unchecked
(`Tables.SeatsWithin`). The limit may change along a history; what counts is the largest one under
which a command has run (`Service.rulesUsed`).
-/

namespace GameLobby

namespace Tables

section
variable (t : Tables) (lobby : Uuid)

/-! ## Counting active players -/

/-- Entering a user takes no seat. -/
theorem activeCount_putUser (u : UserRow) :
    (t.putUser u).activeCount lobby = t.activeCount lobby := by
  rw [activeCount, putUser_members, activeCount]

theorem activeCount_addLobby (l : LobbyRow) :
    (t.addLobby l).activeCount lobby = t.activeCount lobby :=
  rfl

theorem activeCount_setStatus (id : Uuid) (status : Text) :
    (t.setStatus id status).activeCount lobby = t.activeCount lobby :=
  rfl

/-- An active membership counts in its lobby. -/
theorem activeCount_addMember {m : MemberRow} (h : m.isActive = true) :
    (t.addMember m).activeCount lobby =
      t.activeCount lobby + if m.lobbyId = lobby then 1 else 0 := by
  simp [activeCount, List.countP_append, List.countP_singleton, h]

/-- Ending memberships makes no player active. -/
theorem activeCount_updateMembers_ended (p : MemberRow → Bool) (at_ : Timestamp) :
    (t.updateMembers p (.ended at_)).activeCount lobby ≤ t.activeCount lobby := by
  rw [activeCount, updateMembers_members, List.countP_map]
  refine List.countP_mono_left fun m _ hm => ?_
  simp only [Function.comp_apply] at hm
  split at hm
  · simp [MemberRow.ended] at hm
  · exact hm

end

/-- A lobby that is not there has no players. -/
theorem Sound.activeCount_eq_zero {t : Tables} (h : t.Sound) {lobby : Uuid}
    (hnew : lobby ∉ t.lobbies.map (·.id)) : t.activeCount lobby = 0 := by
  refine List.countP_eq_zero.2 fun m hm hactive => hnew ?_
  have hin : m.lobbyId = lobby := (of_decide_eq_true hactive).1
  exact hin ▸ h.memberLobbies m hm

/-- No lobby has more active players than a limit, or than one. -/
def SeatsWithin (limit : Int) (t : Tables) : Prop :=
  ∀ lobby, (t.activeCount lobby : Int) ≤ max 1 limit

/-- Moves under at most a limit keep to it. -/
theorem SeatsWithin.move {t t' : Tables} {maxPlayers limit : Int} (h : t.SeatsWithin limit)
    (hsound : t.Sound) (hlimit : maxPlayers ≤ limit) (hmove : t.Move maxPlayers t') :
    t'.SeatsWithin limit := by
  intro id
  have hid := h id
  cases hmove with
  | stay => exact hid
  | create user lobby membership joinedAt _ _ _ _ newLobby _ =>
    rw [activeCount_addMember _ _ rfl, activeCount_addLobby, activeCount_putUser]
    split
    · next heq =>
      rw [← heq, hsound.activeCount_eq_zero newLobby]
      omega
    · omega
  | join user lobby membership joinedAt _ _ seat _ _ =>
    rw [activeCount_addMember _ _ rfl, activeCount_putUser]
    split
    · next heq =>
      have hlobby : lobby.id = id := heq
      rw [hlobby] at seat
      omega
    · omega
  | finish p leftAt _ =>
    have hle := activeCount_updateMembers_ended t id p leftAt
    omega
  | restage lobby status =>
    rw [activeCount_setStatus]
    exact hid

end Tables

namespace Service

/-! ## One seat for each player -/

/-- In a history of whatever kind, nobody ever has two active memberships in one lobby. -/
theorem active_memberships_le_one (rules : Rules) (supply : Supply) (steps : List Step)
    (lobby user : Uuid) :
    (((fresh rules supply).after steps).world.tables.members.countP fun m =>
      m.lobbyId = lobby ∧ m.userId = user ∧ m.isActive) ≤ 1 :=
  Tables.Reachable.sound ⟨rules, supply, steps, rfl⟩ |>.oneActive lobby user

/-! ## The limit of a lobby -/

/-- The rules under which the commands of a history run, from the rules at its start. -/
def rulesUsed (rules : Rules) : List Step → List Rules
  | [] => []
  | .command _ :: rest => rules :: rulesUsed rules rest
  | .adopt rules' :: rest => rulesUsed rules' rest
  | .setStatus .. :: rest | .advance _ :: rest => rulesUsed rules rest

/-- The first part of a history runs under rules of the whole. -/
theorem rulesUsed_append (rules : Rules) (xs ys : List Step) {r : Rules}
    (h : r ∈ rulesUsed rules xs) : r ∈ rulesUsed rules (xs ++ ys) := by
  induction xs generalizing rules with
  | nil => cases h
  | cons x xs ih =>
    cases x with
    | command c =>
      rcases List.mem_cons.1 h with rfl | h
      · exact .head _
      · exact .tail _ (ih rules h)
    | adopt rules' => exact ih rules' h
    | setStatus lobby status => exact ih rules h
    | advance micros => exact ih rules h

/-- What moves under at most a limit preserve holds along a history whose commands run under at most
that limit. -/
theorem preserved_after {limit : Int} {holds : Tables → Prop}
    (hmove : ∀ {t t' : Tables} {maxPlayers : Int}, holds t → t.Sound → maxPlayers ≤ limit →
      t.Move maxPlayers t' → holds t')
    {s : Service} (hsound : s.world.tables.Sound) (h : holds s.world.tables) (steps : List Step)
    (hlimit : ∀ r ∈ rulesUsed s.rules steps, r.maxPlayers ≤ limit) :
    holds (s.after steps).world.tables := by
  induction steps generalizing s with
  | nil => exact h
  | cons x rest ih =>
    have hsound' := hsound.move (step_move hsound x)
    cases x with
    | command c =>
      have hle : s.rules.maxPlayers ≤ limit := hlimit s.rules (.head _)
      exact ih hsound' (hmove h hsound hle (step_move hsound (.command c))) fun r hr =>
        hlimit r (.tail _ hr)
    | setStatus lobby status =>
      exact ih hsound' (hmove h hsound (Int.le_refl limit) (.restage lobby status)) hlimit
    | advance micros => exact ih hsound' h hlimit
    | adopt rules => exact ih hsound' h hlimit

/-- A history whose commands run under at most a limit keeps to it. -/
theorem seatsWithin_after {limit : Int} {s : Service} (hsound : s.world.tables.Sound)
    (h : s.world.tables.SeatsWithin limit) (steps : List Step)
    (hlimit : ∀ r ∈ rulesUsed s.rules steps, r.maxPlayers ≤ limit) :
    (s.after steps).world.tables.SeatsWithin limit :=
  preserved_after Tables.SeatsWithin.move hsound h steps hlimit

/-- Where all commands of a history run under a limit of at most `limit` players, no lobby ever has
more active players than that, or than the one that creates it. -/
theorem active_players_le {limit : Int} (rules : Rules) (supply : Supply) (steps : List Step)
    (hlimit : ∀ r ∈ rulesUsed rules steps, r.maxPlayers ≤ limit) {past : List Step}
    (hpast : past <+: steps) (lobby : Uuid) :
    (((fresh rules supply).after past).world.tables.activeCount lobby : Int) ≤ max 1 limit := by
  obtain ⟨rest, rfl⟩ := hpast
  have hempty : Tables.empty.SeatsWithin limit := fun id => by
    have : Tables.empty.activeCount id = 0 := rfl
    omega
  exact seatsWithin_after (s := fresh rules supply) Tables.Sound.empty hempty past
    (fun r hr => hlimit r (rulesUsed_append rules past rest hr)) lobby

open Sample in
/-- Cleo finds Ann's lobby full, and it stays so under rules without any seat. -/
theorem active_players_le_two :
    let steps : List Step := [.command (.create ann), .command (.join bob "LMNOPQ"),
      .command (.join cleo "LMNOPQ"), .adopt { maxPlayers := 0 }, .command (.join cleo "LMNOPQ")]
    (∀ r ∈ rulesUsed { maxPlayers := 2 } steps, r.maxPlayers ≤ 2) ∧ steps <+: steps ∧
      ((fresh { maxPlayers := 2 } supply).after steps).world.tables.activeCount
        (IdSource.serial 1) ≤
        max 1 (2 : Int) := by
  intro steps
  have hlimit : ∀ r ∈ rulesUsed { maxPlayers := 2 } steps, r.maxPlayers ≤ 2 := by decide +kernel
  exact ⟨hlimit, List.prefix_refl _, active_players_le _ supply steps hlimit (List.prefix_refl _) _⟩

end Service

end GameLobby
