import GameLobby.Proofs.Continuity
import GameLobby.Proofs.Readings

/-!
# Timestamps are in order

As long as no clock reading is earlier than one before it, the timestamps of the tables tell a story
that can have happened (`Tables.Chronological`): nobody leads a lobby or is in one before they are
known, nobody enters a lobby before it is there, nothing ends before it has begun, and two stays of
one user in one lobby do not overlap. The last holds because whoever is in a lobby cannot join it,
and a membership that is over is never opened again.

What is compared is always a row that is entered or ended now with rows that are there, and these
carry readings of the past (`Tables.StampedBy`).
-/

namespace GameLobby

namespace Tables

/-- The timestamps of the tables are in order. -/
structure Chronological (t : Tables) : Prop where
  leaders : ∀ l ∈ t.lobbies, ∃ u ∈ t.users, u.id = l.leaderId ∧ u.createdAt ≤ l.createdAt
  users : ∀ m ∈ t.members, ∃ u ∈ t.users, u.id = m.userId ∧ u.createdAt ≤ m.joinedAt
  lobbies : ∀ m ∈ t.members, ∃ l ∈ t.lobbies, l.id = m.lobbyId ∧ l.createdAt ≤ m.joinedAt
  ends : ∀ m ∈ t.members, m.isActive = false → ∃ leftAt, m.leftAt = some leftAt ∧
    m.joinedAt ≤ leftAt
  /-- Of two stays of one user in one lobby the earlier is over when the later begins. -/
  stays : ∀ m ∈ t.members, ∀ k ∈ t.members, m.lobbyId = k.lobbyId → m.userId = k.userId →
    m.joinedAt < k.joinedAt →
    m.isActive = false ∧ ∃ leftAt, m.leftAt = some leftAt ∧ leftAt ≤ k.joinedAt

/-- Every timestamp of the tables is one of a list. -/
structure StampedBy (t : Tables) (times : List Timestamp) : Prop where
  users : ∀ u ∈ t.users, u.createdAt ∈ times
  lobbies : ∀ l ∈ t.lobbies, l.createdAt ∈ times
  joins : ∀ m ∈ t.members, m.joinedAt ∈ times
  ends : ∀ m ∈ t.members, ∀ leftAt, m.leftAt = some leftAt → leftAt ∈ times

section
variable {t : Tables}

/-- Whoever is entered has been known or is known from now on. -/
theorem exists_putUser (t : Tables) (u : UserRow) :
    ∃ v ∈ (t.putUser u).users, v.id = u.id ∧ (v ∈ t.users ∨ v = u) := by
  obtain ⟨v, hv, hid⟩ := List.mem_map.1 (Sound.mem_putUser_self t u)
  exact ⟨v, hv, hid, mem_users_putUser hv⟩

/-! ## Writes in order -/

namespace Chronological

theorem empty : Chronological Tables.empty := by
  constructor <;> simp [Tables.empty]

/-- Entering a user leaves the timestamps in order: a known one keeps theirs. -/
theorem putUser (h : t.Chronological) (u : UserRow) : (t.putUser u).Chronological := by
  have hstay : t.users ⊆ (t.putUser u).users := (users_prefix_putUser t u).subset
  refine ⟨?_, ?_, ?_, ?_, ?_⟩
  · rw [putUser_lobbies]
    intro l hl
    obtain ⟨v, hv, hle⟩ := h.leaders l hl
    exact ⟨v, hstay hv, hle⟩
  · rw [putUser_members]
    intro m hm
    obtain ⟨v, hv, hle⟩ := h.users m hm
    exact ⟨v, hstay hv, hle⟩
  · rw [putUser_members, putUser_lobbies]
    exact h.lobbies
  · rw [putUser_members]
    exact h.ends
  · rw [putUser_members]
    exact h.stays

/-- A lobby that is created after its leader was leaves the timestamps in order. -/
theorem addLobby (h : t.Chronological) {l : LobbyRow}
    (hleader : ∃ u ∈ t.users, u.id = l.leaderId ∧ u.createdAt ≤ l.createdAt) :
    (t.addLobby l).Chronological := by
  refine ⟨fun k hk => ?_, h.users, fun m hm => ?_, h.ends, h.stays⟩
  · rcases List.mem_append.1 hk with hk | hk
    · exact h.leaders k hk
    · rw [List.mem_singleton.1 hk]
      exact hleader
  · obtain ⟨k, hk, hle⟩ := h.lobbies m hm
    exact ⟨k, List.mem_append_left _ hk, hle⟩

/-- An active membership that begins last, once any others of the user in the lobby are over. -/
theorem addMember (h : t.Chronological) {m : MemberRow} (hactive : m.isActive = true)
    (huser : ∃ u ∈ t.users, u.id = m.userId ∧ u.createdAt ≤ m.joinedAt)
    (hlobby : ∃ l ∈ t.lobbies, l.id = m.lobbyId ∧ l.createdAt ≤ m.joinedAt)
    (hlast : ∀ k ∈ t.members, k.joinedAt ≤ m.joinedAt)
    (hover : ∀ k ∈ t.members, k.lobbyId = m.lobbyId → k.userId = m.userId →
      k.isActive = false ∧ ∃ leftAt, k.leftAt = some leftAt ∧ leftAt ≤ m.joinedAt) :
    (t.addMember m).Chronological := by
  have hnew : ∀ {P : MemberRow → Prop}, (∀ k ∈ t.members, P k) → P m →
      ∀ k ∈ (t.addMember m).members, P k := by
    intro P hold hm k hk
    rcases List.mem_append.1 hk with hk | hk
    · exact hold k hk
    · rw [List.mem_singleton.1 hk]
      exact hm
  refine ⟨h.leaders, hnew h.users huser, hnew h.lobbies hlobby, hnew h.ends ?_, ?_⟩
  · intro hended
    rw [hactive] at hended
    cases hended
  · refine hnew (fun j hj => hnew (h.stays j hj) fun hl hu _ => hover j hj hl hu) ?_
    refine hnew (fun k hk _ _ hlt => ?_) fun _ _ hlt => absurd hlt (Int.lt_irrefl _)
    exact absurd hlt (Int.not_lt.2 (hlast k hk))

/-- An active membership that ends after it has begun. -/
theorem endMember (h : t.Chronological) {m : MemberRow} (hm : m ∈ t.members)
    (hactive : m.isActive = true) {leftAt : Timestamp} (hlate : m.joinedAt ≤ leftAt) :
    (t.endMember m leftAt).Chronological := by
  have hrow : ∀ {P : MemberRow → Prop}, (∀ k ∈ t.members, P k) → P (m.ended leftAt) →
      ∀ k ∈ (t.endMember m leftAt).members, P k := by
    intro P hold hended k hk
    obtain ⟨j, hj, rfl⟩ := List.mem_map.1 hk
    by_cases heq : j = m
    · rw [if_pos (by simpa using heq), heq]
      exact hended
    · rw [if_neg (by simpa using heq)]
      exact hold j hj
  refine ⟨h.leaders, hrow h.users (h.users m hm), hrow h.lobbies (h.lobbies m hm),
    hrow h.ends fun _ => ⟨leftAt, rfl, hlate⟩, ?_⟩
  refine hrow (fun j hj => hrow (h.stays j hj) (h.stays j hj m hm)) ?_
  refine hrow (fun k hk hl hu hlt => ?_) fun _ _ hlt => absurd hlt (Int.lt_irrefl _)
  have hover := (h.stays m hm k hk hl hu hlt).1
  rw [hactive] at hover
  cases hover

/-- The stage of a lobby has nothing to do with its timestamps. -/
theorem setStatus (h : t.Chronological) (lobby : Uuid) (status : Text) :
    (t.setStatus lobby status).Chronological := by
  refine ⟨fun l hl => ?_, h.users, fun m hm => ?_, h.ends, h.stays⟩
  · obtain ⟨k, hk, rfl⟩ := List.mem_map.1 hl
    split <;> exact h.leaders k hk
  · obtain ⟨k, hk, hid, hle⟩ := h.lobbies m hm
    obtain ⟨k', hk', hsame⟩ := (kept_setStatus t lobby status).exists_of_mem hk
    exact ⟨k', hk', hsame.id.trans hid, hsame.createdAt ▸ hle⟩

end Chronological

/-! ## Timestamps are readings -/

theorem StampedBy.mono {times times' : List Timestamp} (h : t.StampedBy times)
    (hmore : times ⊆ times') : t.StampedBy times' :=
  ⟨fun u hu => hmore (h.users u hu), fun l hl => hmore (h.lobbies l hl),
    fun m hm => hmore (h.joins m hm), fun m hm leftAt hleft => hmore (h.ends m hm leftAt hleft)⟩

/-- What a step writes is stamped with readings that it takes. -/
theorem Dated.stampedBy {t' : Tables} {past times : List Timestamp} (hdated : t.Dated times t')
    (h : t.StampedBy past) : t'.StampedBy (past ++ times) := by
  have hold := h.mono (List.subset_append_left past times)
  have huser : ∀ {u v : UserRow}, u.createdAt ∈ past ++ times → v ∈ (t.putUser u).users →
      v.createdAt ∈ past ++ times := by
    intro u v hu hv
    rcases mem_users_putUser hv with hv | rfl
    · exact hold.users v hv
    · exact hu
  cases hdated with
  | stay => exact hold
  | create caller code s newLobby =>
    refine ⟨fun v hv => huser (by simp) hv, ?_, ?_, ?_⟩
    · rw [withLobby_lobbies, List.forall_mem_append]
      exact ⟨hold.lobbies, by simp⟩
    · rw [withLobby_members, List.forall_mem_append]
      exact ⟨hold.joins, by simp⟩
    · rw [withLobby_members, List.forall_mem_append]
      exact ⟨hold.ends, by simp⟩
  | join caller lobby s known absent =>
    refine ⟨fun v hv => huser (by simp) hv, ?_, ?_, ?_⟩
    · rw [withPlayer_lobbies]
      exact hold.lobbies
    · rw [withPlayer_members, List.forall_mem_append]
      exact ⟨hold.joins, by simp⟩
    · rw [withPlayer_members, List.forall_mem_append]
      exact ⟨hold.ends, by simp⟩
  | finish m leftAt member active =>
    refine ⟨hold.users, hold.lobbies, fun k hk => ?_, fun k hk x hx => ?_⟩
    · rcases mem_updateMembers hk with hk | ⟨j, hj, rfl⟩
      · exact hold.joins k hk
      · exact hold.joins j hj
    · rcases mem_updateMembers hk with hk | ⟨j, hj, rfl⟩
      · exact hold.ends k hk x hx
      · cases hx
        simp
  | restage lobby status =>
    refine ⟨hold.users, fun l hl => ?_, hold.joins, hold.ends⟩
    obtain ⟨k, hk, rfl⟩ := List.mem_map.1 hl
    split <;> exact hold.lobbies k hk

/-- A step whose readings are in order, and no earlier than the timestamps that are there, leaves
the timestamps in order. -/
theorem Dated.chronological {t' : Tables} {past times : List Timestamp} (hdated : t.Dated times t')
    (hsound : t.Sound) (hpast : t.StampedBy past) (h : t.Chronological)
    (hlate : ∀ a ∈ past, ∀ b ∈ times, a ≤ b) (horder : times.Pairwise (· ≤ ·)) :
    t'.Chronological := by
  have hcaller : ∀ {u : UserRow} {b : Timestamp}, b ∈ times → u.createdAt ≤ b →
      ∃ v ∈ (t.putUser u).users, v.id = u.id ∧ v.createdAt ≤ b := by
    intro u b hb hle
    obtain ⟨v, hv, hid, hknown | rfl⟩ := exists_putUser t u
    · exact ⟨v, hv, hid, hlate _ (hpast.users v hknown) b hb⟩
    · exact ⟨v, hv, hid, hle⟩
  have hjoins : ∀ {b : Timestamp}, b ∈ times → ∀ k ∈ t.members, k.joinedAt ≤ b :=
    fun hb k hk => hlate _ (hpast.joins k hk) _ hb
  cases hdated with
  | stay => exact h
  | create caller code s newLobby =>
    simp only [List.pairwise_cons, List.mem_cons, List.not_mem_nil, or_false, forall_eq_or_imp,
      forall_eq] at horder
    obtain ⟨⟨hle₀₁, hle₀₂⟩, hle₁₂, -⟩ := horder
    have hlobby := (h.putUser ⟨caller.userId, caller.username, s.time 0⟩).addLobby
      (l := ⟨s.id 0, code, caller.userId, Status.waiting.label, s.time 1, s.time 1⟩)
      (hcaller (by simp) hle₀₁)
    refine hlobby.addMember rfl (hcaller (by simp) hle₀₂) ?_ ?_ ?_
    · exact ⟨_, List.mem_append_right _ (.head _), rfl, hle₁₂⟩
    · rw [addLobby_members, putUser_members]
      exact hjoins (by simp)
    · rw [addLobby_members, putUser_members]
      intro k hk hinside
      have hid : k.lobbyId = s.id 0 := hinside
      exact absurd (hid ▸ hsound.memberLobbies k hk) newLobby
  | join caller lobby s known absent =>
    simp only [List.pairwise_cons, List.mem_cons, List.not_mem_nil, or_false, forall_eq] at horder
    refine (h.putUser _).addMember rfl (hcaller (by simp) horder.1) ?_ ?_ ?_
    · rw [putUser_lobbies]
      exact ⟨lobby, known, rfl, hlate _ (hpast.lobbies lobby known) _ (by simp)⟩
    · rw [putUser_members]
      exact hjoins (by simp)
    · rw [putUser_members]
      intro k hk hinside huser
      have hover : k.isActive = false := Bool.eq_false_iff.2 fun hactive =>
        Bool.eq_false_iff.1 absent (isActiveMember_iff.2 ⟨k, hk, hinside, huser, hactive⟩)
      obtain ⟨leftAt, hleft, -⟩ := h.ends k hk hover
      exact ⟨hover, leftAt, hleft, hlate _ (hpast.ends k hk leftAt hleft) _ (by simp)⟩
  | finish m leftAt member active => exact h.endMember member active (hjoins (by simp) m member)
  | restage lobby status => exact h.setStatus lobby status

end

end Tables

namespace Service

/-! ## Along a history -/

/-- The timestamps stay readings of the past, and in order if these are. -/
theorem keeps_chronological :
    Keeps fun t past => t.StampedBy past ∧ (past.Pairwise (· ≤ ·) → t.Chronological) := by
  rintro t t' past times hsound hdated ⟨hpast, h⟩
  refine ⟨hdated.stampedBy hpast, fun hclock => ?_⟩
  obtain ⟨hbefore, horder, hlate⟩ := List.pairwise_append.1 hclock
  exact hdated.chronological hsound hpast (h hbefore) hlate horder

/-- If no clock reading that a history takes is earlier than one before it, the timestamps of the
tables are in order. -/
theorem timestamps_in_order (rules : Rules) (supply : Supply) (steps : List Step)
    (hclock : ((fresh rules supply).readings steps).Pairwise (· ≤ ·)) :
    ((fresh rules supply).after steps).world.tables.Chronological := by
  have hempty : Tables.StampedBy .empty [] := by constructor <;> simp [Tables.empty]
  have hkept := keeps_chronological.after (s := fresh rules supply) Tables.Sound.empty
    ⟨hempty, fun _ => .empty⟩ steps
  exact hkept.2 hclock

open Sample in
/-- Bob's first stay in Ann's lobby is over when his second one begins. A join of his in between
that fails, for a name that cannot be stored, takes a reading as well. -/
theorem timestamps_in_order_returned :
    let steps : List Step := [.command (.create ann), .command (.join bob "LMNOPQ"),
      .command (.kick ann (IdSource.serial 1) bob.userId),
      .command (.join ⟨bob.userId, [.surrogate 0]⟩ "LMNOPQ"), .command (.join bob "LMNOPQ")]
    let later := ((fresh {} supply).after steps).world.tables
    ((fresh {} supply).readings steps).length = 9 ∧
      ((fresh {} supply).readings steps).Pairwise (· ≤ ·) ∧ later.Chronological ∧
      ∃ m ∈ later.members, ∃ k ∈ later.members, m.userId = bob.userId ∧ k.userId = bob.userId ∧
        k.isActive = true ∧
        ∃ leftAt, m.leftAt = some leftAt ∧ m.joinedAt ≤ leftAt ∧ leftAt ≤ k.joinedAt := by
  intro steps later
  have hcount : ((fresh {} supply).readings steps).length = 9 := by decide +kernel
  have hclock : ((fresh {} supply).readings steps).Pairwise (· ≤ ·) := by decide +kernel
  have horder : later.Chronological := timestamps_in_order {} supply steps hclock
  obtain ⟨m, hm, k, hk, hlobby, hbob, hbob', hlt, hopen⟩ : ∃ m ∈ later.members,
      ∃ k ∈ later.members, m.lobbyId = k.lobbyId ∧ m.userId = bob.userId ∧
        k.userId = bob.userId ∧ m.joinedAt < k.joinedAt ∧ k.isActive = true := by
    decide +kernel
  obtain ⟨hover, leftAt, hleft, hbefore⟩ :=
    horder.stays m hm k hk hlobby (hbob.trans hbob'.symm) hlt
  obtain ⟨leftAt', hleft', hafter⟩ := horder.ends m hm hover
  obtain rfl := Option.some.inj (hleft.symm.trans hleft')
  exact ⟨hcount, hclock, horder, m, hm, k, hk, hbob, hbob', hopen, leftAt, hleft, hafter, hbefore⟩

end Service

end GameLobby
