import GameLobby.Proofs.Removals
import GameLobby.Proofs.Seating
import GameLobby.Proofs.Accounts

/-!
# A kick frees one seat and bans nobody

Whoever has been kicked may join again at once. That there is a seat rests on the whole history
under one limit: a lobby has no more active players than the limit allows or, where the limit is
below one, than its leader (`Tables.SeatsWithin`), and a player other than the leader could only
enter under a limit of at least one (`Tables.GuestsWithin`). So before the kick the players were
within the limit, and behind it there is room for one more (`Service.admits_kicked`).
-/

namespace GameLobby

namespace Tables

/-- Where somebody other than the leader has, or had, a membership in a lobby, a limit allows for a
player. -/
def GuestsWithin (limit : Int) (t : Tables) : Prop :=
  ∀ m ∈ t.members, ∀ l ∈ t.lobbies, l.id = m.lobbyId → m.userId ≠ l.leaderId → 1 ≤ limit

section
variable {t t' : Tables} {limit : Int}

/-! ## Players other than the leader -/

/-- Where no guest and no lobby is new, nobody has been let in against the limit. -/
theorem GuestsWithin.mono (h : t.GuestsWithin limit)
    (hmembers : ∀ m ∈ t'.members, ∃ k ∈ t.members, k.lobbyId = m.lobbyId ∧ k.userId = m.userId)
    (hlobbies : ∀ l ∈ t'.lobbies, ∃ k ∈ t.lobbies, k.id = l.id ∧ k.leaderId = l.leaderId) :
    t'.GuestsWithin limit := by
  intro m hm l hl hid hguest
  obtain ⟨m₀, hm₀, hlobby, huser⟩ := hmembers m hm
  obtain ⟨l₀, hl₀, hid₀, hleader⟩ := hlobbies l hl
  refine h m₀ hm₀ l₀ hl₀ (by rw [hid₀, hid, hlobby]) ?_
  rwa [huser, hleader]

/-- Moves under at most a limit let nobody in where it does not allow for a player. -/
theorem GuestsWithin.move {maxPlayers : Int} (h : t.GuestsWithin limit) (hsound : t.Sound)
    (hlimit : maxPlayers ≤ limit) (hmove : t.Move maxPlayers t') : t'.GuestsWithin limit := by
  cases hmove with
  | stay => exact h
  | create user lobby membership joinedAt _ _ leader _ newLobby _ =>
    intro m hm l hl hid hguest
    simp only [addMember_members, addLobby_members, putUser_members, addMember_lobbies,
      addLobby_lobbies, putUser_lobbies, List.mem_append, List.mem_singleton] at hm hl
    rcases hm with hm | rfl <;> rcases hl with hl | rfl
    · exact h m hm l hl hid hguest
    · exact absurd (hid ▸ hsound.memberLobbies m hm) newLobby
    · exact absurd (List.mem_map.2 ⟨l, hl, hid⟩) newLobby
    · exact absurd leader.symm hguest
  | join user lobby membership joinedAt _ _ seat _ _ =>
    intro _ _ _ _ _ _
    omega
  | finish p leftAt _ =>
    refine h.mono (fun m hm => ?_) fun l hl => ⟨l, hl, rfl, rfl⟩
    rcases mem_updateMembers hm with hm | ⟨k, hk, rfl⟩
    · exact ⟨m, hm, rfl, rfl⟩
    · exact ⟨k, hk, rfl, rfl⟩
  | restage lobby status =>
    refine h.mono (fun m hm => ⟨m, hm, rfl, rfl⟩) fun l hl => ?_
    obtain ⟨k, hk, rfl⟩ := List.mem_map.1 hl
    refine ⟨k, hk, ?_⟩
    split <;> exact ⟨rfl, rfl⟩

/-- A lobby with a player other than its leader has no more active players than a limit allows. -/
theorem SeatsWithin.activeCount_le (hseats : t.SeatsWithin limit) (hguests : t.GuestsWithin limit)
    {l : LobbyRow} {m : MemberRow} (hl : l ∈ t.lobbies) (hm : m ∈ t.members)
    (hinside : m.lobbyId = l.id) (hguest : m.userId ≠ l.leaderId) :
    (t.activeCount l.id : Int) ≤ limit := by
  have hone := hguests m hm l hl hinside.symm hguest
  have hcount := hseats l.id
  omega

/-! ## A membership that has ended -/

/-- A lobby has one active player less when a membership of one has ended. -/
theorem Sound.activeCount_endMember (h : t.Sound) {m : MemberRow} (hm : m ∈ t.members)
    (hactive : m.isActive = true) (leftAt : Timestamp) :
    (t.endMember m leftAt).activeCount m.lobbyId + 1 = t.activeCount m.lobbyId :=
  h.countP_endMember hm (by simp [hactive]) (by simp [MemberRow.ended])

/-- A user whose only active membership in a lobby has ended is not there. -/
theorem Sound.absent_endMember (h : t.Sound) {m : MemberRow} (hm : m ∈ t.members)
    (hactive : m.isActive = true) (leftAt : Timestamp) :
    ¬ ∃ k ∈ (t.endMember m leftAt).members,
      k.lobbyId = m.lobbyId ∧ k.userId = m.userId ∧ k.isActive := by
  rintro ⟨k, hk, hlobby, huser, hopen⟩
  obtain ⟨hold, hne⟩ := mem_of_mem_endMember hk hopen
  exact hne (h.activeMember_ext hm hold hlobby huser hactive hopen)

/-- The active memberships of a player in a lobby that they have just joined. -/
theorem filter_withPlayer {supply : Supply} {joiner : Caller} {lobby : Uuid}
    (habsent : ¬ ∃ m ∈ t.members, m.lobbyId = lobby ∧ m.userId = joiner.userId ∧ m.isActive) :
    (t.withPlayer supply joiner lobby).members.filter
        (fun m => m.lobbyId = lobby ∧ m.userId = joiner.userId ∧ m.isActive) =
      [⟨supply.id 0, lobby, joiner.userId, supply.time 1, true, none⟩] := by
  have hnone : t.members.filter
      (fun m => m.lobbyId = lobby ∧ m.userId = joiner.userId ∧ m.isActive) = [] := by
    refine List.filter_eq_nil_iff.2 fun m hm hthere => habsent ⟨m, hm, ?_⟩
    simpa using hthere
  rw [withPlayer, addMember_members, putUser_members, List.filter_append, hnone]
  simp

end

end Tables

namespace Service

/-- A service that has had its rules from the start. -/
def Steady (s : Service) : Prop :=
  ∃ supply steps, (∀ rules, Step.adopt rules ∉ steps) ∧ s = (fresh s.rules supply).after steps

section
variable {s s' : Service}

/-! ## A history under one limit -/

/-- The commands of a history without new rules run under those of its start. -/
theorem eq_of_mem_rulesUsed {rules r : Rules} {steps : List Step}
    (hfixed : ∀ rules', Step.adopt rules' ∉ steps) (hr : r ∈ rulesUsed rules steps) :
    r = rules := by
  induction steps with
  | nil => cases hr
  | cons x rest ih =>
    have hrest := ih fun rules' hmem => hfixed rules' (.tail _ hmem)
    cases x with
    | command c =>
      rcases List.mem_cons.1 hr with rfl | hr
      · rfl
      · exact hrest hr
    | adopt rules' => exact absurd (.head _) (hfixed rules')
    | setStatus | advance => exact hrest hr

/-- The tables of a steady service can be reached. -/
theorem Steady.reachable (h : s.Steady) : s.world.tables.Reachable := by
  obtain ⟨supply, steps, -, hs⟩ := h
  exact ⟨s.rules, supply, steps, congrArg (·.world.tables) hs.symm⟩

/-- What moves under the limit of its rules preserve holds of a service that has had them from the
start. -/
theorem Steady.preserved (h : s.Steady) {holds : Tables → Prop} (hempty : holds .empty)
    (hmove : ∀ {t t' : Tables} {maxPlayers : Int}, holds t → t.Sound →
      maxPlayers ≤ s.rules.maxPlayers → t.Move maxPlayers t' → holds t') :
    holds s.world.tables := by
  obtain ⟨supply, steps, hfixed, hs⟩ := h
  rw [hs]
  refine preserved_after (s := fresh s.rules supply) hmove Tables.Sound.empty hempty steps ?_
  intro r hr
  rw [eq_of_mem_rulesUsed hfixed hr]
  exact Int.le_refl _

/-- A lobby that a guest has been let into has no more players than it has seats. -/
theorem Steady.activeCount_le (h : s.Steady) {l : LobbyRow} {m : MemberRow}
    (hl : l ∈ s.world.tables.lobbies) (hm : m ∈ s.world.tables.members) (hinside : m.lobbyId = l.id)
    (hguest : m.userId ≠ l.leaderId) :
    (s.world.tables.activeCount l.id : Int) ≤ s.rules.maxPlayers := by
  have hseats : s.world.tables.SeatsWithin s.rules.maxPlayers :=
    h.preserved (fun _ => Int.le_trans (Int.zero_le_ofNat 1) (Int.le_max_left ..))
      Tables.SeatsWithin.move
  have hguests : s.world.tables.GuestsWithin s.rules.maxPlayers :=
    h.preserved (fun _ hm => nomatch hm) Tables.GuestsWithin.move
  exact hseats.activeCount_le hguests hl hm hinside hguest

/-! ## The kick -/

/-- A kick that succeeds ends the active membership of somebody who does not lead the lobby. -/
theorem kicked_of_step (h : s.world.tables.Reachable) {l : LobbyRow}
    (hl : l ∈ s.world.tables.lobbies) {caller : Caller} {target : Uuid}
    (hkick : s.step (.command (.kick caller l.id target)) = (.ok .done, s')) :
    ∃ m ∈ s.world.tables.members, m.lobbyId = l.id ∧ m.userId = target ∧ m.isActive = true ∧
      target ≠ l.leaderId ∧ s.rules.expired = false ∧
      s' = ⟨s.rules, ⟨s.world.tables.endMember m (s.world.supply.time 0),
        s.world.supply.drawn 1 0 s.world.supply.entropy⟩⟩ := by
  obtain ⟨w, hrun, rfl⟩ := step_command_iff.1 hkick
  have hexp := World.not_expired_of_execute_ok (congrArg Prod.fst hrun)
  cases KickOutcome.of_execute h.sound hexp hrun with
  | kicked other leads m inside user active ends =>
    obtain ⟨k, hk, hid, hleads⟩ := leads
    obtain rfl := h.sound.lobby_ext hk hl hid
    rw [(h.sound.ends_iff ends.mem).1 ends]
    exact ⟨m, ends.mem, inside, user, active, hleads ▸ other, hexp, rfl⟩

/-- Behind the kick, the lobby takes in whoever has been kicked. -/
theorem admits_kicked (h : s.Steady) {l : LobbyRow} (hl : l ∈ s.world.tables.lobbies)
    (hwaiting : l.status = Text.ofString Status.waiting.label) {m : MemberRow}
    (hm : m ∈ s.world.tables.members) (hinside : m.lobbyId = l.id) (hactive : m.isActive = true)
    (hguest : m.userId ≠ l.leaderId) (leftAt : Timestamp) {joiner : Caller}
    (hjoiner : joiner.userId = m.userId) {typed : Text} (hspelt : typed.SameButCase l.joinCode) :
    (s.world.tables.endMember m leftAt).Admits s.rules joiner typed l := by
  have hsound := h.reachable.sound
  have hformed : (s.world.tables.endMember m leftAt).Formed := h.reachable.formed
  refine ⟨hformed.leadsTo hl hspelt, hwaiting, ?_, ?_⟩
  · have hcount := hsound.activeCount_endMember hm hactive leftAt
    have hle := h.activeCount_le hl hm hinside hguest
    rw [hinside] at hcount
    omega
  · rw [hjoiner, ← hinside]
    exact hsound.absent_endMember hm hactive leftAt

end

/-- Under rules that have been the same from the start, somebody who has been kicked from a waiting
lobby and has a name that can be stored may join again at once: the lobby has as many active players
as before the kick, the membership that was ended by the kick is still there, and the new one is the
only active one. With another name the entry of the user fails, and nothing changes. -/
theorem kicked_may_return {s s' : Service} (h : s.Steady) {l : LobbyRow}
    (hl : l ∈ s.world.tables.lobbies) (hwaiting : l.status = Text.ofString Status.waiting.label)
    {caller : Caller} {target : Uuid}
    (hkick : s.step (.command (.kick caller l.id target)) = (.ok .done, s'))
    {joiner : Caller} (hjoiner : joiner.userId = target) {typed : Text}
    (hspelt : typed.SameButCase l.joinCode)
    (hnew : ¬ ∃ m ∈ s'.world.tables.members, m.id = s'.world.supply.id 0) :
    (¬ joiner.username.HasSurrogate →
      ∃ d s'', s'.step (.command (.join joiner typed)) = (.ok (.detail d), s'') ∧
        d.lobby.id = l.id ∧
        s''.world.tables.activeCount l.id = s.world.tables.activeCount l.id ∧
        (∃ m ∈ s.world.tables.members, m.lobbyId = l.id ∧ m.userId = target ∧ m.isActive = true ∧
          m.ended (s.world.supply.time 0) ∈ s''.world.tables.members) ∧
        s''.world.tables.members.filter
            (fun m => m.lobbyId = l.id ∧ m.userId = target ∧ m.isActive) =
          [⟨s'.world.supply.id 0, l.id, target, s'.world.supply.time 1, true, none⟩]) ∧
    ∀ first last point, joiner.username.firstSurrogates? = some (first, last, point) →
      ∃ s'', s'.step (.command (.join joiner typed)) =
          (.error (.unencodable first last point), s'') ∧
        s''.world.tables = s'.world.tables := by
  have hsound := h.reachable.sound
  obtain ⟨m, hm, hinside, huser, hactive, hguest, hexp, hs'⟩ :=
    kicked_of_step h.reachable hl hkick
  have hsound' : s'.world.tables.Sound := by
    have hmove := step_move hsound (.command (.kick caller l.id target))
    rw [hkick] at hmove
    exact hsound.move hmove
  subst hs' hjoiner
  have hadmits := admits_kicked h hl hwaiting hm hinside hactive (huser ▸ hguest)
    (s.world.supply.time 0) huser.symm hspelt
  refine ⟨fun hname => ?_, fun first last point hfirst => ?_⟩
  · have hrun := World.execute_join_seated hexp hsound' hadmits hname hnew
    refine ⟨_, _, step_command_iff.2 ⟨_, hrun, rfl⟩, rfl, ?_, ⟨m, hm, hinside, huser, hactive, ?_⟩,
      ?_⟩
    · have hcount := hsound.activeCount_endMember hm hactive (s.world.supply.time 0)
      rw [hinside] at hcount
      exact (Tables.activeCount_withPlayer ..).trans hcount
    · simp only [Tables.withPlayer, Tables.addMember_members, Tables.putUser_members]
      exact List.mem_append_left _ (Tables.mem_endMember_self hm (s.world.supply.time 0))
    · exact Tables.filter_withPlayer hadmits.absent
  · exact ⟨_, step_command_iff.2
      ⟨_, World.execute_join_unencodable hexp hsound' hadmits hfirst, rfl⟩, rfl⟩

open Sample in
/-- With Bob, Ann's lobby is full. He is kicked, and comes back. -/
theorem kicked_may_return_full :
    let lobby := IdSource.serial 1
    let s := (fresh { maxPlayers := 2 } supply).after [.command (.create ann),
      .command (.join bob "LMNOPQ")]
    s.Steady ∧ s.freeSeats lobby = 0 ∧
      ∃ s' d s'', s.step (.command (.kick ann lobby bob.userId)) = (.ok .done, s') ∧
        s'.step (.command (.join bob "lmnopq")) = (.ok (.detail d), s'') ∧
        s''.world.tables.activeCount lobby = 2 ∧
        (s''.world.tables.members.filter
          fun m => m.lobbyId = lobby ∧ m.userId = bob.userId ∧ m.isActive).length = 1 := by
  intro lobby s
  have hsteady : s.Steady := ⟨supply, _, by simp, rfl⟩
  obtain ⟨l, hl, hid, hwaiting, hcode, hseats, hcount⟩ :
    ∃ l ∈ s.world.tables.lobbies, l.id = lobby ∧
      l.status = Text.ofString Status.waiting.label ∧ l.joinCode = Text.ofString "LMNOPQ" ∧
      s.freeSeats lobby = 0 ∧ s.world.tables.activeCount lobby = 2 := by
    decide +kernel
  have hspelt : (Text.ofString "lmnopq").SameButCase l.joinCode := by
    rw [hcode, Text.SameButCase]
    decide +kernel
  have hname : ¬ bob.username.HasSurrogate := (encodable_iff _).1 (by decide +kernel)
  have hdone : (s.step (.command (.kick ann lobby bob.userId))).1 = .ok .done := by
    decide +kernel
  have hnew : ¬ ∃ m ∈ (s.step (.command (.kick ann lobby bob.userId))).2.world.tables.members,
      m.id = (s.step (.command (.kick ann lobby bob.userId))).2.world.supply.id 0 := by
    decide +kernel
  clear_value s lobby
  subst hid
  obtain ⟨s', hkick⟩ : ∃ s', s.step (.command (.kick ann l.id bob.userId)) = (.ok .done, s') :=
    ⟨_, Prod.ext hdone rfl⟩
  rw [hkick] at hnew
  obtain ⟨d, s'', hjoin, -, hsame, -, hone⟩ :=
    (kicked_may_return hsteady hl hwaiting hkick (rfl : bob.userId = _) hspelt hnew).1 hname
  exact ⟨hsteady, hseats, s', d, s'', hkick, hjoin, hsame.trans hcount, congrArg List.length hone⟩

open Sample in
/-- Bob is kicked from Ann's lobby and comes back under a name that is a lone surrogate. The
identifier for his membership is unused, and the join fails. -/
theorem kicked_surrogate :
    let lobby := IdSource.serial 1
    let joiner : Caller := ⟨bob.userId, [.surrogate 0]⟩
    let s := (fresh {} supply).after [.command (.create ann), .command (.join bob "LMNOPQ")]
    let kick := s.step (.command (.kick ann lobby bob.userId))
    s.Steady ∧ s.rules.expired = false ∧ kick.1 = .ok .done ∧
      (∃ l ∈ s.world.tables.lobbies, l.id = lobby ∧
        l.status = Text.ofString Status.waiting.label ∧ l.joinCode = Text.ofString "LMNOPQ") ∧
      (¬ ∃ m ∈ kick.2.world.tables.members, m.id = kick.2.world.supply.id 0) ∧
      (kick.2.step (.command (.join joiner "LMNOPQ"))).1 =
        .error (.unencodable 0 0 (.surrogate 0)) ∧
      ¬ ∃ a, (kick.2.step (.command (.join joiner "LMNOPQ"))).1 = .ok a := by
  intro lobby joiner s kick
  have hfail : (kick.2.step (.command (.join joiner "LMNOPQ"))).1 =
      .error (.unencodable 0 0 (.surrogate 0)) := by
    decide +kernel
  refine ⟨⟨supply, _, by simp, rfl⟩, by decide +kernel, by decide +kernel, by decide +kernel,
    by decide +kernel, hfail, ?_⟩
  rintro ⟨a, ha⟩
  rw [hfail] at ha
  cases ha

end Service

end GameLobby
