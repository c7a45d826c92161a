import GameLobby.Proofs.Moves
import Mathlib.Data.List.Forall2

/-!
# Details are complete

The store does not check references, and the detail of a lobby skips a membership whose user is not
in the table. So that a detail is complete rests on the tables being sound, where every reference
finds its row: the detail then lists each membership of the lobby once, with the name that its user
is stored under, in the order in which the memberships began (`Tables.Roster`). Where two began at
one time the identifiers decide, and as those are different the order leaves no choice.
-/

namespace GameLobby

attribute [ext] Uuid

/-- The order of memberships: the time at which they began, and then the identifier. -/
def MemberRow.Before (a b : MemberRow) : Prop :=
  a.joinedAt.wall < b.joinedAt.wall ∨
    a.joinedAt.wall = b.joinedAt.wall ∧ a.id.number < b.id.number

namespace Tables

/-- A membership in a detail tells of a row: it has the row's fields and the name of the row's
user. -/
def Tells (t : Tables) (m : MemberRow) (p : Membership) : Prop :=
  ∃ u ∈ t.users, u.id = m.userId ∧
    p = ⟨m.id, m.userId, u.username, m.joinedAt, m.isActive, m.leftAt⟩

/-- The players of a lobby in full: one for each of its memberships, in the order of these. -/
def Roster (t : Tables) (lobby : Uuid) (players : List Membership) : Prop :=
  ∃ rows, rows.Perm (t.members.filter (·.lobbyId = lobby)) ∧ rows.Pairwise MemberRow.Before ∧
    List.Forall₂ t.Tells rows players

end Tables

/-! ## The order of memberships -/

/-- Memberships are ordered by the time at which they began, and then by identifier. -/
theorem MemberRow.precedes_iff {a b : MemberRow} :
    a.precedes b ↔ a.joinedAt.wall < b.joinedAt.wall ∨
      a.joinedAt.wall = b.joinedAt.wall ∧ a.id.number ≤ b.id.number := by
  simp [precedes]

theorem MemberRow.precedes_trans (a b c : MemberRow) (h₁ : a.precedes b) (h₂ : b.precedes c) :
    a.precedes c := by
  rw [precedes_iff] at *
  omega

theorem MemberRow.precedes_total (a b : MemberRow) : a.precedes b || b.precedes a := by
  rw [Bool.or_eq_true, precedes_iff, precedes_iff]
  omega

/-- Of two memberships with different identifiers one begins before the other. -/
theorem MemberRow.before_of_precedes {a b : MemberRow} (h : a.precedes b) (hid : a.id ≠ b.id) :
    a.Before b := by
  have hnumber : a.id.number ≠ b.id.number := fun heq => hid (Uuid.ext heq)
  rw [precedes_iff] at h
  unfold Before
  omega

/-- Sorting memberships with different identifiers puts them in order. -/
theorem MemberRow.pairwise_before_mergeSort {rows : List MemberRow}
    (hids : (rows.map (·.id)).Nodup) : (rows.mergeSort precedes).Pairwise Before := by
  have hsorted : (rows.mergeSort precedes).Pairwise fun a b => a.precedes b :=
    List.pairwise_mergeSort precedes_trans precedes_total rows
  have hdistinct : (rows.mergeSort precedes).Pairwise fun a b => a.id ≠ b.id := by
    have hperm := (List.mergeSort_perm rows precedes).map (·.id)
    exact List.pairwise_map.1 (hperm.nodup_iff.2 hids)
  exact (hsorted.and hdistinct).imp fun h => before_of_precedes h.1 h.2

namespace Tables

/-! ## The players in a detail -/

/-- Where each row gives a value, the values stand one for one with the rows. -/
theorem forall₂_filterMap {α β : Type} {f : α → Option β} {rows : List α} {rel : α → β → Prop}
    (h : ∀ r ∈ rows, ∃ b, f r = some b ∧ rel r b) : List.Forall₂ rel rows (rows.filterMap f) := by
  induction rows with
  | nil => exact .nil
  | cons r rows ih =>
    obtain ⟨b, hb, hrel⟩ := h r (.head _)
    rw [List.filterMap_cons_some hb]
    exact .cons hrel (ih fun r' hr' => h r' (.tail _ hr'))

/-- A known user is found. -/
theorem exists_user? {t : Tables} {id : Uuid} (h : id ∈ t.users.map (·.id)) :
    ∃ u, t.user? id = some u ∧ u ∈ t.users ∧ u.id = id := by
  obtain ⟨u, hu⟩ : ∃ u, t.user? id = some u := by
    refine Option.isSome_iff_exists.1 ?_
    simpa [user?] using h
  exact ⟨u, hu, List.mem_of_find?_eq_some hu, by simpa using List.find?_some hu⟩

/-- In sound tables the players of a lobby are there in full. -/
theorem Sound.roster {t : Tables} (h : t.Sound) (lobby : Uuid) :
    t.Roster lobby (t.playersOf lobby) := by
  refine ⟨(t.membersOf lobby).mergeSort MemberRow.precedes, List.mergeSort_perm _ _, ?_, ?_⟩
  · refine MemberRow.pairwise_before_mergeSort (h.memberIds.sublist ?_)
    exact List.filter_sublist.map _
  · refine forall₂_filterMap fun m hm => ?_
    have hmember : m ∈ t.members := List.mem_of_mem_filter (List.mem_mergeSort.1 hm)
    obtain ⟨u, hfound, hu, hid⟩ := exists_user? (h.memberUsers m hmember)
    exact ⟨m.membership u.username, by rw [hfound]; rfl, u, hu, hid, rfl⟩

/-- In whatever tables a history leads to, each reference finds its row, although the store does not
check any. So the detail of a lobby at a stage that exists has all its players. -/
theorem Reachable.details_complete {t : Tables} (h : t.Reachable) :
    (∀ l ∈ t.lobbies, ∃ u ∈ t.users, u.id = l.leaderId) ∧
      (∀ m ∈ t.members, ∃ u ∈ t.users, u.id = m.userId) ∧
      (∀ m ∈ t.members, ∃ l ∈ t.lobbies, l.id = m.lobbyId) ∧
      ∀ l ∈ t.lobbies, ∀ stage : Status, l.status = Text.ofString stage.label →
        ∃ players, t.Roster l.id players ∧
          t.detail? l.id = .ok (some ⟨⟨l.id, l.joinCode, l.leaderId, stage, l.createdAt,
            l.updatedAt⟩, players⟩) := by
  have hsound := h.sound
  refine ⟨fun l hl => ?_, fun m hm => ?_, fun m hm => ?_, fun l hl stage hstage => ?_⟩
  · exact List.mem_map.1 (hsound.leaders l hl)
  · exact List.mem_map.1 (hsound.memberUsers m hm)
  · exact List.mem_map.1 (hsound.memberLobbies m hm)
  · refine ⟨t.playersOf l.id, hsound.roster l.id, ?_⟩
    rw [detail?, hsound.lobby?_of_mem hl]
    dsimp only
    rw [LobbyRow.lobby?_of_status hstage]
    rfl

end Tables

namespace Sample

/-- A lobby that Bob joins while the clock stands still, with a smaller identifier than Ann has. -/
def tied : World :=
  ((Service.fresh {} ⟨⟨[], 0, 0⟩, ⟨[.ofNat 77, .ofNat 9, .ofNat 5], 0⟩, ⟨[], 0⟩⟩).after
    [.command (.create ann), .command (.join bob "LMNOPQ")]).world

end Sample

open Sample in
/-- The detail of that lobby has both players. -/
theorem Tables.Reachable.details_complete_tied :
    tied.tables.Reachable ∧ ∃ l ∈ tied.tables.lobbies,
      l.status = Text.ofString Status.waiting.label ∧
      ∃ players, players.length = 2 ∧ tied.tables.Roster l.id players ∧
        tied.tables.detail? l.id = .ok (some ⟨⟨l.id, l.joinCode, l.leaderId, .waiting, l.createdAt,
          l.updatedAt⟩, players⟩) := by
  have hreachable : tied.tables.Reachable := ⟨_, _, _, by rw [tied]⟩
  obtain ⟨-, -, -, hdetail⟩ := Tables.Reachable.details_complete hreachable
  obtain ⟨l, hl, hstage, hcount⟩ : ∃ l ∈ tied.tables.lobbies,
      l.status = Text.ofString Status.waiting.label ∧
      (tied.tables.members.filter (·.lobbyId = l.id)).length = 2 := by decide +kernel
  obtain ⟨players, hroster, hd⟩ := hdetail l hl .waiting hstage
  refine ⟨hreachable, l, hl, hstage, players, ?_, hroster, hd⟩
  obtain ⟨rows, hperm, -, htells⟩ := hroster
  rw [← htells.length_eq, hperm.length_eq, hcount]

end GameLobby
