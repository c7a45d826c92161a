import GameLobby.Database.Primitive

/-!
# The rows behind the tables

Each write touches one table, which the first lemmas say field by field. The others read the views
of the tables as statements about rows: a look-up finds a row of its table, and finds the only one
where the rows of the table differ in what is looked up.
-/

namespace GameLobby

/-! ## Stored stages -/

/-- The row behind a lobby has its identifier and its stage. -/
theorem LobbyRow.lobby?_ok {row : LobbyRow} {lobby : Lobby} (h : row.lobby? = .ok lobby) :
    Status.ofLabel? row.status = some lobby.status ∧
      lobby = ⟨row.id, row.joinCode, row.leaderId, lobby.status, row.createdAt, row.updatedAt⟩ := by
  rw [LobbyRow.lobby?] at h
  split at h
  · next hs => cases h; exact ⟨hs, rfl⟩
  · cases h

/-- A text names a stage exactly when it is the label of the stage. -/
theorem Status.ofLabel?_eq_some_iff {status : Text} {s : Status} :
    Status.ofLabel? status = some s ↔ status = Text.ofString s.label := by
  constructor
  · intro h
    exact (by simpa using List.find?_some h : Text.ofString s.label = status).symm
  · rintro rfl
    exact Status.ofLabel?_label s

/-- A row at a stage that exists stands for a lobby. -/
theorem LobbyRow.lobby?_of_status {row : LobbyRow} {stage : Status}
    (h : row.status = Text.ofString stage.label) :
    row.lobby? =
      .ok ⟨row.id, row.joinCode, row.leaderId, stage, row.createdAt, row.updatedAt⟩ := by
  rw [LobbyRow.lobby?, Status.ofLabel?_eq_some_iff.2 h]

/-- A row at a stage that does not exist stands for none. -/
theorem LobbyRow.lobby?_of_unknown {row : LobbyRow}
    (h : ∀ stage : Status, row.status ≠ Text.ofString stage.label) :
    row.lobby? = .error (.unknownStatus row.status) := by
  have hnone : Status.ofLabel? row.status = none := by
    refine Option.eq_none_iff_forall_ne_some.2 fun stage hs => ?_
    exact h stage (Status.ofLabel?_eq_some_iff.1 hs)
  rw [LobbyRow.lobby?, hnone]

attribute [ext] Tables

namespace Tables

section
variable (t : Tables) (u : UserRow) (l : LobbyRow) (m : MemberRow)
  (p : MemberRow → Bool) (f : MemberRow → MemberRow) (id : Uuid) (status : Text)

/-! ## Which table a write touches -/

@[simp] theorem putUser_lobbies : (t.putUser u).lobbies = t.lobbies := by
  unfold putUser; split <;> rfl

@[simp] theorem putUser_members : (t.putUser u).members = t.members := by
  unfold putUser; split <;> rfl

@[simp] theorem addLobby_users : (t.addLobby l).users = t.users := rfl
@[simp] theorem addLobby_lobbies : (t.addLobby l).lobbies = t.lobbies ++ [l] := rfl
@[simp] theorem addLobby_members : (t.addLobby l).members = t.members := rfl
@[simp] theorem addMember_users : (t.addMember m).users = t.users := rfl
@[simp] theorem addMember_lobbies : (t.addMember m).lobbies = t.lobbies := rfl
@[simp] theorem addMember_members : (t.addMember m).members = t.members ++ [m] := rfl
@[simp] theorem updateMembers_members :
    (t.updateMembers p f).members = t.members.map fun m => if p m then f m else m := rfl
@[simp] theorem setStatus_members : (t.setStatus id status).members = t.members := rfl

/-- Another stage of a lobby changes nothing else about it. -/
theorem map_lobbies_setStatus {κ : Type} (key : LobbyRow → κ)
    (hkey : ∀ l : LobbyRow, key { l with status } = key l) :
    (t.setStatus id status).lobbies.map key = t.lobbies.map key := by
  rw [setStatus, List.map_map]
  refine List.map_congr_left fun l _ => ?_
  rw [Function.comp_apply]
  split
  · exact hkey l
  · rfl

/-- A change of memberships that leaves a key leaves the keys. -/
theorem map_members_updateMembers {κ : Type} (key : MemberRow → κ)
    (hkey : ∀ m : MemberRow, key (f m) = key m) :
    (t.updateMembers p f).members.map key = t.members.map key := by
  rw [updateMembers_members, List.map_map]
  refine List.map_congr_left fun m _ => ?_
  rw [Function.comp_apply]
  split
  · exact hkey m
  · rfl

/-- A user is entered unless the identifier is known. -/
theorem putUser_users :
    (t.putUser u).users = if u.id ∈ t.users.map (·.id) then t.users else t.users ++ [u] := by
  have h : (t.user? u.id).isSome ↔ u.id ∈ t.users.map (·.id) := by
    simp [user?]
  unfold putUser
  by_cases hu : u.id ∈ t.users.map (·.id)
  · rw [if_pos (h.2 hu), if_pos hu]
  · rw [if_neg (mt h.1 hu), if_neg hu]

end

section
variable {t : Tables}

/-- Entering a user adds their row at most. -/
theorem mem_users_putUser {u v : UserRow} (h : v ∈ (t.putUser u).users) : v ∈ t.users ∨ v = u := by
  rw [putUser_users] at h
  split at h
  · exact .inl h
  · simpa using h

/-- What holds of the users and of whoever is entered holds of the users then. -/
theorem forall_users_putUser {P : UserRow → Prop} {u : UserRow} (h : ∀ v ∈ t.users, P v)
    (hu : P u) : ∀ v ∈ (t.putUser u).users, P v := by
  intro v hv
  rcases mem_users_putUser hv with hold | rfl
  · exact h v hold
  · exact hu

/-- A row behind a change of memberships is one of before, changed or not. -/
theorem mem_updateMembers {p : MemberRow → Bool} {f : MemberRow → MemberRow} {m : MemberRow}
    (hm : m ∈ (t.updateMembers p f).members) : m ∈ t.members ∨ ∃ k ∈ t.members, m = f k := by
  obtain ⟨k, hk, rfl⟩ := List.mem_map.1 hm
  split
  · exact .inr ⟨k, hk, rfl⟩
  · exact .inl hk

/-! ## Look-ups -/

/-- There is no lobby to an identifier exactly if no lobby has it. -/
theorem lobby?_eq_none_iff {id : Uuid} : t.lobby? id = none ↔ id ∉ t.lobbies.map (·.id) := by
  simp [lobby?]

/-- An identifier is in use where a look-up finds its lobby. -/
theorem isSome_lobby?_iff {id : Uuid} : (t.lobby? id).isSome ↔ ∃ l ∈ t.lobbies, l.id = id := by
  simp [lobby?]

theorem lobby?_of_unknown {id : Uuid} (h : ¬ ∃ l ∈ t.lobbies, l.id = id) : t.lobby? id = none :=
  Option.not_isSome_iff_eq_none.1 (mt isSome_lobby?_iff.1 h)

/-- There is no lobby to a code exactly if no lobby has it. -/
theorem lobbyByCode?_eq_none_iff {code : Text} :
    t.lobbyByCode? code = none ↔ code ∉ t.lobbies.map (·.joinCode) := by
  simp [lobbyByCode?]

/-- A lobby that is found by its code is stored under the code. -/
theorem mem_of_lobbyByCode? {code : Text} {l : LobbyRow} (h : t.lobbyByCode? code = some l) :
    l ∈ t.lobbies ∧ l.joinCode = code :=
  ⟨List.mem_of_find?_eq_some h, by simpa using List.find?_some h⟩

/-- A lobby that is found under an identifier is stored under it. -/
theorem mem_of_lobby? {lobby : Uuid} {l : LobbyRow} (h : t.lobby? lobby = some l) :
    l ∈ t.lobbies ∧ l.id = lobby :=
  ⟨List.mem_of_find?_eq_some h, by simpa using List.find?_some h⟩

/-- A row that differs from all others in a key is the one that a look-up of its key finds. -/
theorem find?_eq_of_nodup {α κ : Type} [DecidableEq κ] {key : α → κ} {rows : List α} {r : α}
    (hnodup : (rows.map key).Nodup) (hr : r ∈ rows) :
    rows.find? (fun x => key x = key r) = some r := by
  induction rows with
  | nil => cases hr
  | cons x rows ih =>
    rw [List.map_cons, List.nodup_cons] at hnodup
    rcases List.mem_cons.1 hr with rfl | hr
    · simp
    · have hne : key x ≠ key r := fun h => hnodup.1 (h ▸ List.mem_map_of_mem hr)
      rw [List.find?_cons_of_neg (by simpa using hne)]
      exact ih hnodup.2 hr

/-- A user is in a lobby who has an active membership there. -/
theorem isActiveMember_iff {lobby user : Uuid} :
    t.isActiveMember lobby user ↔
      ∃ m ∈ t.members, m.lobbyId = lobby ∧ m.userId = user ∧ m.isActive := by
  simp [isActiveMember]

/-- A user has been in a lobby who has a membership there. -/
theorem hasMembership_iff {lobby user : Uuid} :
    t.hasMembership lobby user ↔ ∃ m ∈ t.members, m.lobbyId = lobby ∧ m.userId = user := by
  simp [hasMembership]

/-- The players of a lobby are its memberships, each with the name of a user who is known. -/
theorem mem_playersOf_iff {lobby : Uuid} {p : Membership} :
    p ∈ t.playersOf lobby ↔ ∃ m ∈ t.members, m.lobbyId = lobby ∧
      ∃ u, t.user? m.userId = some u ∧ m.membership u.username = p := by
  simp [playersOf, membersOf, and_assoc]

/-- An identifier is that of an active membership in a lobby. -/
theorem isActiveMembership_iff {lobby membership : Uuid} :
    t.isActiveMembership lobby membership ↔
      ∃ m ∈ t.members, m.id = membership ∧ m.lobbyId = lobby ∧ m.isActive := by
  simp [isActiveMembership]

/-- A lobby that is entered under a free identifier is found under it. -/
theorem lobby?_addLobby {l : LobbyRow} (h : t.lobby? l.id = none) :
    (t.addLobby l).lobby? l.id = some l := by
  rw [lobby?] at h ⊢
  rw [addLobby_lobbies, List.find?_append, h]
  simp

/-- Whoever is known stays as they are when a user is entered. -/
theorem user?_putUser (t : Tables) (u : UserRow) (id : Uuid) :
    (t.putUser u).user? id = (t.user? id).or (if u.id = id then some u else none) := by
  unfold putUser
  split
  · next hknown =>
    split
    · next hid =>
      subst hid
      obtain ⟨k, hk⟩ := Option.isSome_iff_exists.1 hknown
      rw [hk, Option.some_or]
    · rw [Option.or_none]
  · by_cases hid : u.id = id <;> simp [user?, List.find?_append, hid]

/-! ## The memberships of one lobby -/

/-- The memberships of a lobby are those in its name. -/
theorem mem_membersOf {lobby : Uuid} {m : MemberRow} :
    m ∈ t.membersOf lobby ↔ m ∈ t.members ∧ m.lobbyId = lobby := by
  simp [membersOf]

/-- A new membership comes behind the other ones of its lobby. -/
theorem membersOf_addMember (t : Tables) (m : MemberRow) (lobby : Uuid) :
    (t.addMember m).membersOf lobby =
      t.membersOf lobby ++ if m.lobbyId = lobby then [m] else [] := by
  rw [membersOf, addMember_members, List.filter_append, membersOf]
  by_cases h : m.lobbyId = lobby <;> simp [h]

/-- A change that leaves memberships in their lobbies changes those of one lobby among
themselves. -/
theorem membersOf_updateMembers (t : Tables) (p : MemberRow → Bool) {f : MemberRow → MemberRow}
    (hf : ∀ m, (f m).lobbyId = m.lobbyId) (lobby : Uuid) :
    (t.updateMembers p f).membersOf lobby =
      (t.membersOf lobby).map fun m => if p m then f m else m := by
  rw [membersOf, updateMembers_members, List.filter_map, membersOf]
  congr 1
  refine List.filter_congr fun m _ => ?_
  rw [Function.comp_apply]
  split
  · rw [hf]
  · rfl

end

end Tables

end GameLobby
