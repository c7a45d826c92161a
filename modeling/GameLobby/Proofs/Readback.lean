import GameLobby.Proofs.Addresses
import GameLobby.Proofs.Names

/-!
# Reading back what was told

A creation reads the new lobby inside its transaction, and a join reads it once the transaction has
committed. Both tell what the tables show from then on (`Tables.Shows`), so every later read gives
the same answer: the detail on its own, the guarded read by anyone whom the detail lists, the
look-up of the join code and that of the leader. None of these reads changes anything.
-/

namespace GameLobby

namespace Tables

section
variable {t : Tables} {d : LobbyDetail}

/-- Whoever is listed for a lobby has, or had, a membership in it. -/
theorem hasMembership_of_mem_playersOf {lobby : Uuid} {p : Membership}
    (hp : p ∈ t.playersOf lobby) :
    t.hasMembership lobby p.userId := by
  obtain ⟨m, hm, hof, u, -, rfl⟩ := mem_playersOf_iff.1 hp
  exact hasMembership_iff.2 ⟨m, hm, hof, rfl⟩

/-- What is shown of a lobby comes from its row. -/
theorem Shows.exists_row (h : t.Shows d) :
    ∃ row, t.lobby? d.lobby.id = some row ∧ row.lobby? = .ok d.lobby :=
  let ⟨row, hrow, hlobby, _⟩ := lobby?_of_detail? h
  ⟨row, hrow, hlobby⟩

end

end Tables

namespace World

section
variable {w : World} {rules : Rules} {d : LobbyDetail}

/-- The look-up of the leader finds the one that is shown. -/
theorem leader_of_shows (h : w.tables.Shows d) : w.leader d.lobby.id = some d.lobby.leaderId := by
  obtain ⟨row, hrow, hlobby⟩ := h.exists_row
  rw [leader, hrow, (LobbyRow.lobby?_ok hlobby).2]
  rfl

/-- The look-up of the join code finds the lobby that is shown. -/
theorem lobbyByCode_of_shows (hsound : w.tables.Sound) (hformed : w.tables.Formed)
    (h : w.tables.Shows d) : w.lobbyByCode d.lobby.joinCode = .ok (some d.lobby) := by
  obtain ⟨row, hrow, hlobby⟩ := h.exists_row
  have hknown : row ∈ w.tables.lobbies := (Tables.mem_of_lobby? hrow).1
  have hcode : d.lobby.joinCode = row.joinCode := by rw [(LobbyRow.lobby?_ok hlobby).2]
  rw [lobbyByCode, hcode, (hformed row hknown).encodable]
  dsimp only
  rw [hsound.lobbyByCode?_of_mem hknown]
  dsimp only
  rw [hlobby]
  rfl

/-- Whoever is listed in what is shown reads just that. -/
theorem execute_read_of_shows (hexp : rules.expired = false) (h : w.tables.Shows d) {p : Membership}
    (hp : p ∈ d.players) {caller : Caller} (hcaller : caller.userId = p.userId) :
    w.execute rules [] (.read caller d.lobby.id) = (.ok (.detail d), w) := by
  obtain ⟨row, hrow, hlobby⟩ := h.exists_row
  have hplayers : d.players = w.tables.playersOf d.lobby.id := Tables.detail?_ok h
  have hmember : w.tables.hasMembership d.lobby.id caller.userId := by
    rw [hcaller]
    exact Tables.hasMembership_of_mem_playersOf (hplayers ▸ hp)
  obtain ⟨t, s⟩ := w
  simp only [execute, conditions_of_not_expired hexp, perform_read, hrow]
  rw [if_pos (.inr hmember), hlobby, ← hplayers]
  rfl

end

/-- When a command has answered with the detail of a lobby, every read gives it back and leaves the
world as it is: the tables, the clock, the identifiers and the entropy. -/
theorem detail_read_back {w w' : World} (h : w.tables.Reachable) {rules : Rules} {c : Command}
    {d : LobbyDetail} (hc : w.execute rules [] c = (.ok (.detail d), w')) :
    w'.answer (.detail d.lobby.id) = (.ok (some d), w') ∧
    (∀ p ∈ d.players, ∀ caller : Caller, caller.userId = p.userId →
      w'.execute rules [] (.read caller d.lobby.id) = (.ok (.detail d), w')) ∧
    w'.answer (.lobbyByCode d.lobby.joinCode) = (.ok (some d.lobby), w') ∧
    w'.answer (.leader d.lobby.id) = (.ok (some d.lobby.leaderId), w') := by
  have hok : (w.execute rules [] c).1 = .ok (.detail d) := by rw [hc]
  have hmove := execute_move rules h.sound c
  have hshows := execute_shows hok
  have hexp := not_expired_of_execute_ok hok
  rw [hc] at hmove hshows
  have hsound : w'.tables.Sound := h.sound.move hmove
  have hformed : w'.tables.Formed := h.formed.move hmove
  refine ⟨Prod.ext hshows rfl, fun p hp caller hcaller => ?_, ?_, ?_⟩
  · exact execute_read_of_shows hexp hshows hp hcaller
  · exact Prod.ext (lobbyByCode_of_shows hsound hformed hshows) rfl
  · exact Prod.ext (congrArg Except.ok (leader_of_shows hshows)) rfl

end World

open Sample in
/-- Bob has been kicked when Cleo joins Ann's lobby. The detail that she is told lists him, and he
reads the same. -/
theorem World.detail_read_back_kicked :
    let lobby := IdSource.serial 1
    let w := ((Service.fresh {} Sample.supply).after [.command (.create ann),
      .command (.join bob "LMNOPQ"), .command (.kick ann lobby bob.userId)]).world
    w.tables.Reachable ∧ ∃ d w', w.execute {} [] (.join cleo "lmnopq") = (.ok (.detail d), w') ∧
      (∃ p ∈ d.players, p.userId = bob.userId ∧ p.isActive = false) ∧
      w'.execute {} [] (.read bob d.lobby.id) = (.ok (.detail d), w') ∧
      w'.answer (.lobbyByCode d.lobby.joinCode) = (.ok (some d.lobby), w') := by
  intro lobby w
  have hw : w.tables.Reachable := ⟨_, _, _, rfl⟩
  have hok : (w.execute {} [] (.join cleo "lmnopq")).1.isOk := by decide +kernel
  have htells : (w.execute {} [] (.join cleo "lmnopq")).1.toOption ≠ some .done := by
    decide +kernel
  have honly : ∀ l ∈ (w.execute {} [] (.join cleo "lmnopq")).2.tables.lobbies, l.id = lobby := by
    decide +kernel
  obtain ⟨m, hm, hof, hbob, hended⟩ :
      ∃ m ∈ (w.execute {} [] (.join cleo "lmnopq")).2.tables.members,
        m.lobbyId = lobby ∧ m.userId = bob.userId ∧ m.isActive = false := by decide +kernel
  obtain ⟨u, hu⟩ : ∃ u,
      (w.execute {} [] (.join cleo "lmnopq")).2.tables.user? bob.userId = some u :=
    Option.isSome_iff_exists.1 (by decide +kernel)
  clear_value w lobby
  cases hrun : w.execute {} [] (.join cleo "lmnopq") with | mk r w' =>
  rw [hrun] at hok htells honly hm hu
  obtain f | (d | _) := r
  · cases hok
  · obtain ⟨hshows, hread, hcode, -⟩ := detail_read_back hw hrun
    obtain ⟨row, hrow, -⟩ := Tables.Shows.exists_row (congrArg Prod.fst hshows)
    obtain ⟨hknown, hid⟩ := Tables.mem_of_lobby? hrow
    obtain rfl : d.lobby.id = lobby := hid.symm.trans (honly row hknown)
    have hlisted : m.membership u.username ∈ d.players := by
      rw [Tables.detail?_ok (congrArg Prod.fst hshows)]
      exact Tables.mem_playersOf_iff.2 ⟨m, hm, hof, u, hbob ▸ hu, rfl⟩
    exact ⟨hw, d, w', rfl, ⟨_, hlisted, hbob, hended⟩, hread _ hlisted bob hbob.symm, hcode⟩
  · exact absurd rfl htells

end GameLobby
