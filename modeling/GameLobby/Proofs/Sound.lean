import GameLobby.Proofs.Rows

/-!
# Sound tables

`Tables.Sound` collects what holds of the tables at any time: keys are unique, every reference finds
its row, a membership has an end exactly when it is over, and nobody has two active memberships in
one lobby. The store itself sees to the unique keys only, and the rest rests on what is checked
before a write. Every write keeps the tables sound under the checks that its operation makes.
Reopening an active membership, on sound tables, is no change at all
(`Tables.Sound.updateMembers_reopened`).
-/

namespace GameLobby

/-- An active membership of a user in a lobby. -/
def MemberRow.isActiveOf (lobby user : Uuid) (m : MemberRow) : Bool :=
  m.lobbyId = lobby ∧ m.userId = user ∧ m.isActive

namespace Tables

/-- What holds of the tables at any time. -/
structure Sound (t : Tables) : Prop where
  userIds : (t.users.map (·.id)).Nodup
  lobbyIds : (t.lobbies.map (·.id)).Nodup
  joinCodes : (t.lobbies.map (·.joinCode)).Nodup
  memberIds : (t.members.map (·.id)).Nodup
  leaders : ∀ l ∈ t.lobbies, l.leaderId ∈ t.users.map (·.id)
  memberUsers : ∀ m ∈ t.members, m.userId ∈ t.users.map (·.id)
  memberLobbies : ∀ m ∈ t.members, m.lobbyId ∈ t.lobbies.map (·.id)
  leftAt : ∀ m ∈ t.members, m.leftAt = none ↔ m.isActive
  oneActive : ∀ lobby user, t.members.countP (MemberRow.isActiveOf lobby user) ≤ 1

/-- A list of different keys with a new key behind it. -/
theorem nodup_map_concat {α κ : Type} {key : α → κ} {rows : List α} {r : α}
    (hrows : (rows.map key).Nodup) (hr : key r ∉ rows.map key) :
    ((rows ++ [r]).map key).Nodup := by
  rw [List.map_append, List.nodup_append]
  refine ⟨hrows, by simp, ?_⟩
  rintro a ha b hb rfl
  rw [List.map_singleton, List.mem_singleton] at hb
  exact hr (hb ▸ ha)

/-- Whoever is not in a lobby has no active membership there. -/
theorem countP_isActiveOf_eq_zero {t : Tables} {lobby user : Uuid}
    (h : t.isActiveMember lobby user = false) :
    t.members.countP (MemberRow.isActiveOf lobby user) = 0 := by
  refine List.countP_eq_zero.2 fun m hm hactive => Bool.eq_false_iff.1 h ?_
  exact isActiveMember_iff.2 ⟨m, hm, by simpa [MemberRow.isActiveOf] using hactive⟩

namespace Sound

theorem empty : Sound Tables.empty := by
  constructor <;> simp [Tables.empty]

section
variable {t : Tables}

/-- Known users stay known. -/
theorem mem_putUser {t : Tables} {id : Uuid} (u : UserRow) (h : id ∈ t.users.map (·.id)) :
    id ∈ (t.putUser u).users.map (·.id) := by
  rw [putUser_users]
  split
  · exact h
  · rw [List.map_append]; exact List.mem_append_left _ h

/-- A user who is entered is known. -/
theorem mem_putUser_self (t : Tables) (u : UserRow) : u.id ∈ (t.putUser u).users.map (·.id) := by
  rw [putUser_users]
  split
  · assumption
  · simp

/-- Entering a user. -/
theorem putUser (h : Sound t) (u : UserRow) : Sound (t.putUser u) where
  userIds := by
    rw [putUser_users]
    split
    · exact h.userIds
    · next hu => exact nodup_map_concat h.userIds hu
  lobbyIds := by rw [putUser_lobbies]; exact h.lobbyIds
  joinCodes := by rw [putUser_lobbies]; exact h.joinCodes
  memberIds := by rw [putUser_members]; exact h.memberIds
  leaders := by
    rw [putUser_lobbies]
    exact fun l hl => mem_putUser u (h.leaders l hl)
  memberUsers := by
    rw [putUser_members]
    exact fun m hm => mem_putUser u (h.memberUsers m hm)
  memberLobbies := by rw [putUser_members, putUser_lobbies]; exact h.memberLobbies
  leftAt := by rw [putUser_members]; exact h.leftAt
  oneActive := by rw [putUser_members]; exact h.oneActive

/-- Entering a lobby with a new identifier and a new code, led by a known user. -/
theorem addLobby (h : Sound t) {l : LobbyRow} (hid : l.id ∉ t.lobbies.map (·.id))
    (hcode : l.joinCode ∉ t.lobbies.map (·.joinCode)) (hleader : l.leaderId ∈ t.users.map (·.id)) :
    Sound (t.addLobby l) where
  userIds := h.userIds
  lobbyIds := nodup_map_concat h.lobbyIds hid
  joinCodes := nodup_map_concat h.joinCodes hcode
  memberIds := h.memberIds
  leaders := by
    intro k hk
    rcases List.mem_append.1 hk with hk | hk
    · exact h.leaders k hk
    · rw [List.mem_singleton.1 hk]; exact hleader
  memberUsers := h.memberUsers
  memberLobbies := by
    intro m hm
    rw [addLobby_lobbies, List.map_append]
    exact List.mem_append_left _ (h.memberLobbies m hm)
  leftAt := h.leftAt
  oneActive := h.oneActive

/-- Entering an active membership with a new identifier, of a known user in a known lobby without
an active membership there. -/
theorem addMember (h : Sound t) {m : MemberRow} (hid : m.id ∉ t.members.map (·.id))
    (huser : m.userId ∈ t.users.map (·.id)) (hlobby : m.lobbyId ∈ t.lobbies.map (·.id))
    (hleft : m.leftAt = none ↔ m.isActive)
    (habsent : t.isActiveMember m.lobbyId m.userId = false) : Sound (t.addMember m) where
  userIds := h.userIds
  lobbyIds := h.lobbyIds
  joinCodes := h.joinCodes
  memberIds := nodup_map_concat h.memberIds hid
  leaders := h.leaders
  memberUsers := by
    intro k hk
    rcases List.mem_append.1 hk with hk | hk
    · exact h.memberUsers k hk
    · rw [List.mem_singleton.1 hk]; exact huser
  memberLobbies := by
    intro k hk
    rcases List.mem_append.1 hk with hk | hk
    · exact h.memberLobbies k hk
    · rw [List.mem_singleton.1 hk]; exact hlobby
  leftAt := by
    intro k hk
    rcases List.mem_append.1 hk with hk | hk
    · exact h.leftAt k hk
    · rw [List.mem_singleton.1 hk]; exact hleft
  oneActive := by
    intro lobby user
    rw [addMember_members, List.countP_append, List.countP_singleton]
    split
    · next hm =>
      obtain ⟨rfl, rfl, -⟩ : m.lobbyId = lobby ∧ m.userId = user ∧ m.isActive = true := by
        simpa [MemberRow.isActiveOf] using hm
      have hzero := countP_isActiveOf_eq_zero habsent
      omega
    · exact h.oneActive lobby user

/-- Ending memberships. -/
theorem updateMembers_ended (h : Sound t) (p : MemberRow → Bool) (at_ : Timestamp) :
    Sound (t.updateMembers p (.ended at_)) := by
  refine ⟨h.userIds, h.lobbyIds, h.joinCodes, ?_, h.leaders, ?_, ?_, ?_, ?_⟩
  · rw [map_members_updateMembers t p (.ended at_) (·.id) fun _ => rfl]
    exact h.memberIds
  · intro m hm
    rcases mem_updateMembers hm with hm | ⟨k, hk, rfl⟩
    · exact h.memberUsers m hm
    · exact h.memberUsers k hk
  · intro m hm
    rcases mem_updateMembers hm with hm | ⟨k, hk, rfl⟩
    · exact h.memberLobbies m hm
    · exact h.memberLobbies k hk
  · intro m hm
    rcases mem_updateMembers hm with hm | ⟨k, hk, rfl⟩
    · exact h.leftAt m hm
    · simp [MemberRow.ended]
  · intro lobby user
    refine Nat.le_trans ?_ (h.oneActive lobby user)
    rw [updateMembers_members, List.countP_map]
    refine List.countP_mono_left fun m _ hm => ?_
    simp only [Function.comp_apply] at hm
    split at hm
    · simp [MemberRow.isActiveOf, MemberRow.ended] at hm
    · exact hm

/-- Writing the stage of a lobby. -/
theorem setStatus (h : Sound t) (id : Uuid) (status : Text) : Sound (t.setStatus id status) := by
  refine ⟨h.userIds, ?_, ?_, h.memberIds, ?_, h.memberUsers, ?_, h.leftAt, h.oneActive⟩
  · rw [map_lobbies_setStatus _ _ _ _ fun _ => rfl]; exact h.lobbyIds
  · rw [map_lobbies_setStatus _ _ _ _ fun _ => rfl]; exact h.joinCodes
  · intro l hl
    obtain ⟨k, hk, rfl⟩ := List.mem_map.1 hl
    split <;> exact h.leaders k hk
  · intro m hm
    rw [map_lobbies_setStatus _ _ _ _ fun _ => rfl]
    exact h.memberLobbies m hm

/-- A lobby of the table is found under its identifier. -/
theorem lobby?_of_mem (h : Sound t) {l : LobbyRow} (hl : l ∈ t.lobbies) : t.lobby? l.id = some l :=
  find?_eq_of_nodup h.lobbyIds hl

/-- A lobby of the table is found under its join code. -/
theorem lobbyByCode?_of_mem (h : Sound t) {l : LobbyRow} (hl : l ∈ t.lobbies) :
    t.lobbyByCode? l.joinCode = some l :=
  find?_eq_of_nodup h.joinCodes hl

/-- Two lobbies with one identifier are the same. -/
theorem lobby_ext (h : Sound t) {l k : LobbyRow} (hl : l ∈ t.lobbies) (hk : k ∈ t.lobbies)
    (hid : l.id = k.id) : l = k := by
  have hfound := h.lobby?_of_mem hl
  rw [hid, h.lobby?_of_mem hk] at hfound
  exact (Option.some.inj hfound).symm

/-- Two memberships with one identifier are the same. -/
theorem member_ext (h : Sound t) {m k : MemberRow} (hm : m ∈ t.members) (hk : k ∈ t.members)
    (hid : m.id = k.id) : m = k := by
  have h₁ := find?_eq_of_nodup h.memberIds hm
  have h₂ := find?_eq_of_nodup h.memberIds hk
  rw [hid, h₂] at h₁
  exact (Option.some.inj h₁).symm

/-- Reopening a membership that is active changes nothing. -/
theorem updateMembers_reopened (h : Sound t) {lobby membership : Uuid}
    (hactive : t.isActiveMembership lobby membership) :
    t.updateMembers (fun m => m.id = membership ∧ m.lobbyId = lobby) .reopened = t := by
  obtain ⟨k, hk, rfl, rfl, hopen⟩ := isActiveMembership_iff.1 hactive
  have hrows : ∀ m ∈ t.members,
      (if decide (m.id = k.id ∧ m.lobbyId = k.lobbyId) = true then m.reopened else m) = m := by
    intro m hm
    split
    · next hp =>
      obtain rfl := h.member_ext hm hk (of_decide_eq_true hp).1
      rw [MemberRow.reopened, ← hopen, ← (h.leftAt m hm).2 hopen]
    · rfl
  rw [updateMembers, List.map_congr_left hrows, List.map_id']

end

end Sound

end Tables

end GameLobby
