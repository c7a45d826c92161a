import GameLobby.Proofs.Deeds

/-!
# The leader of a lobby

A lobby and the membership of its leader are entered together, and only the leader kicks, but never
the leader. So a leader stays an active player of the lobby (`Tables.Led`) unless the membership is
set inactive (`Command.Unseats`), and even then there is still a membership of the leader. All this
is about one lobby, whatever happens in others.
-/

namespace GameLobby

/-- A command unseats the leader of a lobby if it sets a membership of the leader there inactive. -/
inductive Command.Unseats (t : Tables) (lobby : Uuid) : Command → Prop
  | dismiss (l : LobbyRow) (m : MemberRow) (membership : Uuid) (known : l ∈ t.lobbies)
      (same : l.id = lobby) (member : m ∈ t.members) (named : m.id = membership)
      (inside : m.lobbyId = lobby) (leads : m.userId = l.leaderId) :
      Unseats t lobby (.setActive lobby membership false)

/-- Setting a flag of somebody who leads no lobby unseats no leader. -/
theorem Command.not_unseats {t : Tables} {lobby membership : Uuid} {active : Bool}
    (h : ∀ l ∈ t.lobbies, ∀ m ∈ t.members, m.id = membership → m.userId ≠ l.leaderId) :
    ¬ (Command.setActive lobby membership active).Unseats t lobby := by
  intro hunseats
  cases hunseats with
  | dismiss l m _ hl _ hm hid _ hleads => exact h l hl m hm hid hleads

namespace Tables

/-- If there is a lobby under an identifier, its leader has a membership in it, one that is active
if that is asked for. -/
def Led (t : Tables) (lobby : Uuid) (active : Bool) : Prop :=
  ∀ l ∈ t.lobbies, l.id = lobby →
    ∃ m ∈ t.members, m.lobbyId = lobby ∧ m.userId = l.leaderId ∧ (active = true → m.isActive = true)

section
variable {t t' : Tables} {lobby : Uuid} {active : Bool}

/-- A lobby stays led while no row goes away. -/
theorem Led.mono (h : t.Led lobby active) (hlobbies : ∀ l ∈ t'.lobbies, l ∈ t.lobbies)
    (hmembers : ∀ m ∈ t.members, m ∈ t'.members) : t'.Led lobby active := by
  intro l hl hid
  obtain ⟨m, hm, hleads⟩ := h l (hlobbies l hl) hid
  exact ⟨m, hmembers m hm, hleads⟩

/-- A lobby stays led when a membership ends, unless it is one of the leader and is needed as an
active one. -/
theorem Led.endMember (h : t.Led lobby active) {m : MemberRow} (leftAt : Timestamp)
    (hother : active = true → ∀ l ∈ t.lobbies, l.id = lobby → m.lobbyId = lobby →
      m.userId ≠ l.leaderId) :
    (t.endMember m leftAt).Led lobby active := by
  intro l hl hid
  obtain ⟨k, hk, hinside, hleads, hactive⟩ := h l hl hid
  by_cases hkm : k = m
  · subst hkm
    exact ⟨k.ended leftAt, mem_endMember_self hk leftAt, hinside, hleads,
      fun hneeded => absurd hleads (hother hneeded l hl hid hinside)⟩
  · exact ⟨k, mem_endMember_of_ne hk hkm leftAt, hinside, hleads, hactive⟩

/-- What a command does leaves a lobby led, unless it unseats its leader. -/
theorem Led.deed {c : Command} (hsound : t.Sound) (h : t.Led lobby active) (hdeed : t.Deed c t')
    (hspared : active = true → ¬ c.Unseats t lobby) : t'.Led lobby active := by
  cases hdeed with
  | create caller code s newCode newLobby newMember =>
    intro l hl hid
    have hmembers : (t.withLobby s caller code).members =
        t.members ++ [⟨s.id 1, s.id 0, caller.userId, s.time 2, true, none⟩] := by
      simp [withLobby]
    rw [hmembers]
    have hlobbies : l ∈ t.lobbies ∨
        l = ⟨s.id 0, code, caller.userId, Status.waiting.label, s.time 1, s.time 1⟩ := by
      simpa [withLobby] using hl
    rcases hlobbies with hold | rfl
    · obtain ⟨m, hm, hleads⟩ := h l hold hid
      exact ⟨m, List.mem_append_left _ hm, hleads⟩
    · exact ⟨_, List.mem_concat_self, hid, rfl, fun _ => rfl⟩
  | join caller typed row s =>
    refine h.mono (fun l hl => ?_) (fun m hm => ?_)
    · simpa [withPlayer] using hl
    · simp [withPlayer, hm]
  | read => exact h
  | kick caller row m leftAt known leads member inside _ other =>
    refine h.endMember leftAt fun _ l hl hid hinside hleads => other ?_
    obtain rfl := hsound.lobby_ext hl known (hid.trans (hinside.symm.trans inside))
    exact hleads.trans leads
  | dismiss m leftAt member =>
    refine h.endMember leftAt fun hneeded l hl hid hinside hleads => hspared hneeded ?_
    rw [hinside]
    exact .dismiss l m m.id hl hid member rfl hinside hleads
  | keep => exact h

/-- The stage of a lobby has no part in who leads it. -/
theorem Led.setStatus (h : t.Led lobby active) (id : Uuid) (status : Text) :
    (t.setStatus id status).Led lobby active := by
  intro l hl hid
  obtain ⟨k, hk, rfl⟩ := List.mem_map.1 hl
  split at hid <;> split <;> exact h k hk hid

end

end Tables

namespace Service

/-- A history spares the leader of a lobby if no command that is carried out unseats them. -/
inductive Spares (lobby : Uuid) : Service → List Step → Prop
  | nil (s : Service) : Spares lobby s []
  | cons {s : Service} {x : Step} {rest : List Step}
      (spared : ∀ c, x.carriedOut? (s.step x).1 = some c → ¬ c.Unseats s.world.tables lobby)
      (further : Spares lobby (s.step x).2 rest) : Spares lobby s (x :: rest)

/-- A step leaves a lobby led, and its leader in it if nobody unseats them. -/
theorem led_step {s : Service} (hsound : s.world.tables.Sound) {lobby : Uuid} {active : Bool}
    (h : s.world.tables.Led lobby active) (x : Step)
    (hspared : active = true →
      ∀ c, x.carriedOut? (s.step x).1 = some c → ¬ c.Unseats s.world.tables lobby) :
    (s.step x).2.world.tables.Led lobby active := by
  cases step_does hsound x with
  | deed c carriedOut deed => exact h.deed hsound deed fun hneeded => hspared hneeded c carriedOut
  | stay _ same => rwa [same]
  | restage lobby status _ restaged =>
    rw [restaged]
    exact h.setStatus lobby status

/-- A lobby stays led along a history, by an active leader if the history spares them. -/
theorem led_after {s : Service} (hsound : s.world.tables.Sound) {lobby : Uuid} {active : Bool}
    (h : s.world.tables.Led lobby active) (steps : List Step)
    (hspares : active = true → s.Spares lobby steps) :
    (s.after steps).world.tables.Led lobby active := by
  induction steps generalizing s with
  | nil => exact h
  | cons x rest ih =>
    refine ih (hsound.move (step_move hsound x)) (led_step hsound h x fun hneeded => ?_)
      fun hneeded => ?_
    · cases hspares hneeded with
      | cons spared _ => exact spared
    · cases hspares hneeded with
      | cons _ further => exact further

/-- In a history of whatever kind, the leader of a lobby has a membership in it ever after. Unless
such a membership is set inactive on the way, the leader is a known user with exactly one active
membership there, so the lobby does not run empty. -/
theorem leader_stays (rules : Rules) (supply : Supply) (steps : List Step) {l : LobbyRow}
    (hl : l ∈ ((fresh rules supply).after steps).world.tables.lobbies) :
    let t := ((fresh rules supply).after steps).world.tables
    (∃ m ∈ t.members, m.lobbyId = l.id ∧ m.userId = l.leaderId) ∧
      ((fresh rules supply).Spares l.id steps →
        l.leaderId ∈ t.users.map (·.id) ∧
          (t.members.countP fun m =>
            m.lobbyId = l.id ∧ m.userId = l.leaderId ∧ m.isActive) = 1 ∧
          1 ≤ t.activeCount l.id) := by
  intro t
  have hsound : t.Sound := sound_after Tables.Sound.empty steps
  have hled : ∀ active, (active = true → (fresh rules supply).Spares l.id steps) →
      t.Led l.id active := fun active =>
    led_after (s := fresh rules supply) Tables.Sound.empty (fun _ h => nomatch h) steps
  constructor
  · obtain ⟨m, hm, hinside, hleads, -⟩ := hled false (fun h => nomatch h) l hl rfl
    exact ⟨m, hm, hinside, hleads⟩
  · intro hspares
    obtain ⟨m, hm, hinside, hleads, hactive⟩ := hled true (fun _ => hspares) l hl rfl
    have hone := hsound.oneActive l.id l.leaderId
    have hseat : 0 < t.members.countP (MemberRow.isActiveOf l.id l.leaderId) :=
      List.countP_pos_iff.2 ⟨m, hm, by simp [MemberRow.isActiveOf, hinside, hleads, hactive]⟩
    have hplayer : 0 < t.activeCount l.id :=
      List.countP_pos_iff.2 ⟨m, hm, by simp [hinside, hactive]⟩
    exact ⟨hsound.leaders l hl, Nat.le_antisymm hone hseat, hplayer⟩

/-- A command that does not unseat the leader of a lobby spares them, carried out or not. -/
theorem Spares.command {lobby : Uuid} {s : Service} {c : Command} {rest : List Step}
    (h : ¬ c.Unseats s.world.tables lobby) (further : Spares lobby (s.step (.command c)).2 rest) :
    Spares lobby s (.command c :: rest) := by
  refine .cons (fun c' hc => ?_) further
  obtain rfl := Step.command.inj (Step.eq_of_carriedOut? hc)
  exact h

open Sample in
/-- Ann tries to kick herself, Bob tries to kick Ann, and Bob's membership is set inactive. Ann is
left. -/
theorem leader_stays_alone :
    let lobby := IdSource.serial 1
    let steps : List Step := [.command (.create ann), .command (.join bob "LMNOPQ"),
      .command (.kick ann lobby ann.userId), .command (.kick bob lobby ann.userId),
      .command (.setActive lobby (IdSource.serial 3) false)]
    let t := ((fresh {} supply).after steps).world.tables
    (fresh {} supply).Spares lobby steps ∧ ∃ l ∈ t.lobbies, l.id = lobby ∧
      (t.members.countP fun m => m.lobbyId = l.id ∧ m.userId = l.leaderId ∧ m.isActive) = 1 := by
  intro lobby steps t
  have hspares : (fresh {} supply).Spares lobby steps :=
    .command nofun (.command nofun (.command nofun (.command nofun
      (.command (Command.not_unseats (by decide +kernel)) (.nil _)))))
  obtain ⟨l, hl, hid⟩ : ∃ l ∈ t.lobbies, l.id = lobby := by decide +kernel
  have hstays := (leader_stays {} supply steps hl).2 (by rw [hid]; exact hspares)
  exact ⟨hspares, l, hl, hid, hstays.2.1⟩

end Service

end GameLobby
