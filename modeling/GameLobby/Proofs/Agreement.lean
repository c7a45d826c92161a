import GameLobby.Proofs.Details

/-!
# Tables that agree on a lobby

What is read of a lobby comes from its row, from its memberships and, for the names of its players,
from the users. So two tables in which these are the same (`Tables.AgreeOn`) answer every question
about the lobby alike, whatever other lobbies they hold, and the same write to both keeps them so.
The order in which rows stand makes no difference: there is one user at most to an identifier, and
the players of a lobby are sorted.
-/

namespace GameLobby

/-- Memberships with different identifiers have one order only. -/
theorem MemberRow.mergeSort_of_perm {rows rows' : List MemberRow} (hids : (rows.map (·.id)).Nodup)
    (h : rows'.Perm rows) : rows'.mergeSort precedes = rows.mergeSort precedes := by
  have hids' : (rows'.map (·.id)).Nodup := (h.map (·.id)).nodup_iff.2 hids
  have hperm : (rows'.mergeSort precedes).Perm (rows.mergeSort precedes) :=
    (List.mergeSort_perm rows' precedes).trans (h.trans (List.mergeSort_perm rows precedes).symm)
  refine hperm.eq_of_pairwise ?_ (pairwise_before_mergeSort hids') (pairwise_before_mergeSort hids)
  intro a b _ _ hab hba
  unfold Before at hab hba
  omega

namespace Tables

/-- Rows that differ in a key are found under it in whatever order they stand. -/
theorem find?_of_perm {α κ : Type} [DecidableEq κ] {key : α → κ} {rows rows' : List α}
    (hnodup : (rows.map key).Nodup) (h : rows'.Perm rows) (k : κ) :
    rows'.find? (fun x => key x = k) = rows.find? (fun x => key x = k) := by
  cases hfound : rows.find? (fun x => key x = k) with
  | none =>
    rw [List.find?_eq_none] at hfound ⊢
    exact fun x hx => hfound x (h.mem_iff.1 hx)
  | some r =>
    obtain rfl : key r = k := by simpa using List.find?_some hfound
    exact find?_eq_of_nodup ((h.map key).nodup_iff.2 hnodup)
      (h.mem_iff.2 (List.mem_of_find?_eq_some hfound))

/-- Two tables agree on a lobby: they have the same users, and the lobby has the same row and the
same memberships in both. -/
structure AgreeOn (lobby : Uuid) (t t' : Tables) : Prop where
  users : t'.users.Perm t.users
  row : t'.lobby? lobby = t.lobby? lobby
  members : (t'.membersOf lobby).Perm (t.membersOf lobby)

section
variable {t t' : Tables} {lobby : Uuid}

/-! ## What is read -/

/-- Where the memberships of a lobby are the same, there is one of some kind in both or in none. -/
theorem exists_member_iff (h : (t'.membersOf lobby).Perm (t.membersOf lobby))
    {p : MemberRow → Prop} :
    (∃ m ∈ t'.members, m.lobbyId = lobby ∧ p m) ↔ ∃ m ∈ t.members, m.lobbyId = lobby ∧ p m := by
  have hmem : ∀ m, m ∈ t'.members ∧ m.lobbyId = lobby ↔ m ∈ t.members ∧ m.lobbyId = lobby := by
    intro m
    rw [← mem_membersOf, ← mem_membersOf]
    exact h.mem_iff
  simp only [← and_assoc, hmem]

/-- Who is in a lobby depends on its memberships only. -/
theorem isActiveMember_congr (h : (t'.membersOf lobby).Perm (t.membersOf lobby)) (user : Uuid) :
    t'.isActiveMember lobby user = t.isActiveMember lobby user := by
  rw [Bool.eq_iff_iff, isActiveMember_iff, isActiveMember_iff]
  exact exists_member_iff h

/-- Who has ever been in a lobby depends on its memberships only. -/
theorem hasMembership_congr (h : (t'.membersOf lobby).Perm (t.membersOf lobby)) (user : Uuid) :
    t'.hasMembership lobby user = t.hasMembership lobby user := by
  rw [Bool.eq_iff_iff, hasMembership_iff, hasMembership_iff]
  exact exists_member_iff h

/-- Which memberships of a lobby are active depends on these only. -/
theorem isActiveMembership_congr (h : (t'.membersOf lobby).Perm (t.membersOf lobby))
    (membership : Uuid) :
    t'.isActiveMembership lobby membership = t.isActiveMembership lobby membership := by
  have hlobby : ∀ t : Tables, t.isActiveMembership lobby membership ↔
      ∃ m ∈ t.members, m.lobbyId = lobby ∧ m.id = membership ∧ m.isActive := by
    intro t
    rw [isActiveMembership_iff]
    exact exists_congr fun m => and_congr_right fun _ => and_left_comm
  rw [Bool.eq_iff_iff, hlobby, hlobby]
  exact exists_member_iff h

/-- The number of players of a lobby depends on its memberships only. -/
theorem activeCount_congr (h : (t'.membersOf lobby).Perm (t.membersOf lobby)) :
    t'.activeCount lobby = t.activeCount lobby := by
  have hcount : ∀ t : Tables, t.activeCount lobby = (t.membersOf lobby).countP (·.isActive) := by
    intro t
    rw [membersOf, List.countP_filter, activeCount]
    refine List.countP_congr fun m _ => ?_
    simp [and_comm]
  rw [hcount, hcount]
  exact h.countP_eq _

/-- The memberships of a lobby have different identifiers. -/
theorem Sound.nodup_membersOf (h : t.Sound) (lobby : Uuid) :
    ((t.membersOf lobby).map (·.id)).Nodup :=
  h.memberIds.sublist (List.filter_sublist.map _)

/-- The players of a lobby are the same where its memberships and their users are. -/
theorem playersOf_congr (hsound : t.Sound)
    (hmembers : (t'.membersOf lobby).Perm (t.membersOf lobby))
    (husers : ∀ m ∈ t.membersOf lobby, t'.user? m.userId = t.user? m.userId) :
    t'.playersOf lobby = t.playersOf lobby := by
  rw [playersOf, playersOf,
    MemberRow.mergeSort_of_perm (hsound.nodup_membersOf lobby) hmembers]
  refine List.filterMap_congr fun m hm => ?_
  rw [husers m (List.mem_mergeSort.1 hm)]

namespace AgreeOn

/-- Tables that agree on a lobby list the same players. -/
theorem playersOf (h : AgreeOn lobby t t') (hsound : t.Sound) :
    t'.playersOf lobby = t.playersOf lobby :=
  playersOf_congr hsound h.members fun m _ => find?_of_perm hsound.userIds h.users m.userId

/-! ## What is written -/

/-- A user who is entered into both tables leaves them in agreement. -/
theorem putUser (h : AgreeOn lobby t t') (u : UserRow) :
    AgreeOn lobby (t.putUser u) (t'.putUser u) where
  users := by
    have hknown : u.id ∈ t'.users.map (·.id) ↔ u.id ∈ t.users.map (·.id) :=
      (h.users.map (·.id)).mem_iff
    rw [putUser_users, putUser_users]
    simp only [hknown]
    split
    · exact h.users
    · exact h.users.append_right [u]
  row := by
    rw [Tables.lobby?, Tables.lobby?, putUser_lobbies, putUser_lobbies]
    exact h.row
  members := by
    rw [membersOf, membersOf, putUser_members, putUser_members]
    exact h.members

/-- A membership that is entered into both tables leaves them in agreement, whatever lobby it is
in. -/
theorem addMember (h : AgreeOn lobby t t') (m : MemberRow) :
    AgreeOn lobby (t.addMember m) (t'.addMember m) where
  users := h.users
  row := h.row
  members := by
    rw [membersOf_addMember, membersOf_addMember]
    exact h.members.append_right _

/-- Changes to both that move no membership to another lobby leave them in agreement. -/
theorem updateMembers (h : AgreeOn lobby t t') (p : MemberRow → Bool) {f : MemberRow → MemberRow}
    (hf : ∀ m, (f m).lobbyId = m.lobbyId) :
    AgreeOn lobby (t.updateMembers p f) (t'.updateMembers p f) where
  users := h.users
  row := h.row
  members := by
    rw [membersOf_updateMembers _ _ hf, membersOf_updateMembers _ _ hf]
    exact h.members.map _

end AgreeOn

end

end Tables

end GameLobby
