import GameLobby.Proofs.Moves

/-!
# What is entered stays

Tables only grow. Whatever happens to a service, the rows of an earlier moment stand in their places
afterwards with new ones behind them (`Kept`): a user is the same, a lobby keeps its code, its
leader and its start, and a membership keeps who takes part in what and since when
(`Tables.Continues`). A membership that has ended is never touched again. The store would not see to
that, since it reopens a membership when it is asked to and ends memberships in bulk; it rests on
the checks before a write, which let it end active memberships only and reopen none but those.
-/

namespace GameLobby

/-! ## Rows that stay -/

/-- The rows stand in their places later, each related to what it was, and any others behind
them. -/
inductive Kept {α : Type} (rel : α → α → Prop) : List α → List α → Prop
  | behind (new : List α) : Kept rel [] new
  | row {r r' : α} {rows later : List α} (same : rel r r') (rest : Kept rel rows later) :
      Kept rel (r :: rows) (r' :: later)

namespace Kept

section
variable {α : Type} {rel : α → α → Prop} {rows later last : List α}

/-- Rows with new ones behind them. -/
theorem append (hrel : ∀ r, rel r r) (rows new : List α) : Kept rel rows (rows ++ new) := by
  induction rows with
  | nil => exact .behind new
  | cons r rows ih => exact .row (hrel r) ih

theorem refl (hrel : ∀ r, rel r r) (rows : List α) : Kept rel rows rows := by
  have h := append hrel rows []
  rwa [List.append_nil] at h

/-- Rows that change one by one. -/
theorem map {f : α → α} (h : ∀ r ∈ rows, rel r (f r)) : Kept rel rows (rows.map f) := by
  induction rows with
  | nil => exact .behind []
  | cons r rows ih => exact .row (h r (.head _)) (ih fun r' hr' => h r' (.tail _ hr'))

/-- What stays for a while, and from then on, stays. -/
theorem trans (hrel : ∀ {r₁ r₂ r₃}, rel r₁ r₂ → rel r₂ r₃ → rel r₁ r₃)
    (h₁ : Kept rel rows later) (h₂ : Kept rel later last) : Kept rel rows last := by
  induction h₁ generalizing last with
  | behind new => exact .behind last
  | row same rest ih =>
    cases h₂ with
    | row same' rest' => exact .row (hrel same same') (ih rest')

/-- A row that stays is found again. -/
theorem exists_of_mem (h : Kept rel rows later) {r : α} (hr : r ∈ rows) :
    ∃ r' ∈ later, rel r r' := by
  induction h with
  | behind new => cases hr
  | row same rest ih =>
    rcases List.mem_cons.1 hr with rfl | hr
    · exact ⟨_, .head _, same⟩
    · obtain ⟨r', hr', hrel⟩ := ih hr
      exact ⟨r', .tail _ hr', hrel⟩

end

end Kept

/-! ## Memberships, lobbies and users at a later time -/

/-- A membership at a later time: it is the same one, and once it has ended nothing about it
changes. -/
structure MemberRow.Continues (m m' : MemberRow) : Prop where
  id : m'.id = m.id
  lobbyId : m'.lobbyId = m.lobbyId
  userId : m'.userId = m.userId
  joinedAt : m'.joinedAt = m.joinedAt
  closed : m.isActive = false → m' = m

/-- A lobby at a later time. -/
structure LobbyRow.Continues (l l' : LobbyRow) : Prop where
  id : l'.id = l.id
  joinCode : l'.joinCode = l.joinCode
  leaderId : l'.leaderId = l.leaderId
  createdAt : l'.createdAt = l.createdAt

theorem MemberRow.Continues.refl (m : MemberRow) : m.Continues m :=
  ⟨rfl, rfl, rfl, rfl, fun _ => rfl⟩

theorem MemberRow.Continues.trans {m₁ m₂ m₃ : MemberRow} (h₁ : m₁.Continues m₂)
    (h₂ : m₂.Continues m₃) : m₁.Continues m₃ where
  id := h₂.id.trans h₁.id
  lobbyId := h₂.lobbyId.trans h₁.lobbyId
  userId := h₂.userId.trans h₁.userId
  joinedAt := h₂.joinedAt.trans h₁.joinedAt
  closed := by
    intro hclosed
    obtain rfl := h₁.closed hclosed
    exact h₂.closed hclosed

/-- An active membership that ends is the same one. -/
theorem MemberRow.continues_ended {m : MemberRow} (h : m.isActive = true) (at_ : Timestamp) :
    m.Continues (m.ended at_) :=
  ⟨rfl, rfl, rfl, rfl, fun hclosed => absurd hclosed (by simp [h])⟩

theorem LobbyRow.Continues.refl (l : LobbyRow) : l.Continues l :=
  ⟨rfl, rfl, rfl, rfl⟩

theorem LobbyRow.Continues.trans {l₁ l₂ l₃ : LobbyRow} (h₁ : l₁.Continues l₂)
    (h₂ : l₂.Continues l₃) : l₁.Continues l₃ :=
  ⟨h₂.id.trans h₁.id, h₂.joinCode.trans h₁.joinCode, h₂.leaderId.trans h₁.leaderId,
    h₂.createdAt.trans h₁.createdAt⟩

namespace Tables

/-- Tables at a later time. -/
structure Continues (t t' : Tables) : Prop where
  users : t.users <+: t'.users
  lobbies : Kept LobbyRow.Continues t.lobbies t'.lobbies
  members : Kept MemberRow.Continues t.members t'.members

theorem Continues.refl (t : Tables) : t.Continues t :=
  ⟨List.prefix_refl _, .refl .refl _, .refl .refl _⟩

theorem Continues.trans {t₁ t₂ t₃ : Tables} (h₁ : t₁.Continues t₂) (h₂ : t₂.Continues t₃) :
    t₁.Continues t₃ :=
  ⟨h₁.users.trans h₂.users, h₁.lobbies.trans .trans h₂.lobbies, h₁.members.trans .trans h₂.members⟩

/-- Entering a user leaves the users there are. -/
theorem users_prefix_putUser (t : Tables) (u : UserRow) : t.users <+: (t.putUser u).users := by
  rw [putUser_users]
  split
  · exact List.prefix_refl _
  · exact List.prefix_append _ _

/-- Another stage of a lobby leaves the lobbies there are. -/
theorem kept_setStatus (t : Tables) (lobby : Uuid) (status : Text) :
    Kept LobbyRow.Continues t.lobbies (t.setStatus lobby status).lobbies := by
  refine .map fun l _ => ?_
  split
  · exact ⟨rfl, rfl, rfl, rfl⟩
  · exact .refl l

/-- A move leaves what is entered. -/
theorem Move.continues {t t' : Tables} {maxPlayers : Int} (h : t.Move maxPlayers t') :
    t.Continues t' := by
  cases h with
  | stay => exact .refl t
  | create user lobby membership joinedAt =>
    refine ⟨users_prefix_putUser t user, ?_, ?_⟩
    · rw [addMember_lobbies, addLobby_lobbies, putUser_lobbies]
      exact .append .refl _ _
    · rw [addMember_members, addLobby_members, putUser_members]
      exact .append .refl _ _
  | join user lobby membership joinedAt =>
    refine ⟨users_prefix_putUser t user, ?_, ?_⟩
    · rw [addMember_lobbies, putUser_lobbies]
      exact .refl .refl _
    · rw [addMember_members, putUser_members]
      exact .append .refl _ _
  | finish p leftAt active =>
    refine ⟨List.prefix_refl _, .refl .refl _, .map fun m hm => ?_⟩
    split
    · next hp => exact MemberRow.continues_ended (active m hm hp) leftAt
    · exact .refl m
  | restage lobby status => exact ⟨List.prefix_refl _, kept_setStatus t lobby status, .refl .refl _⟩

end Tables

namespace Service

/-! ## Along a history -/

/-- From sound tables on, a history leaves what is entered. -/
theorem continues_after {s : Service} (h : s.world.tables.Sound) (steps : List Step) :
    s.world.tables.Continues (s.after steps).world.tables := by
  induction steps generalizing s with
  | nil => exact .refl _
  | cons x rest ih =>
    have hmove := step_move h x
    exact hmove.continues.trans (ih (h.move hmove))

/-- Whatever has happened to a service and whatever happens next, what is entered stays: no row of
any table goes away, who takes part in which lobby and since when never changes, and a membership
that has ended stays as it is. -/
theorem entered_rows_stay (rules : Rules) (supply : Supply) (past future : List Step) :
    ((fresh rules supply).after past).world.tables.Continues
      ((fresh rules supply).after (past ++ future)).world.tables := by
  rw [after_append]
  exact continues_after (sound_after Tables.Sound.empty past) future

open Sample in
/-- Bob is kicked from Ann's lobby and comes back. His first stay is as it was when it ended,
although its reopening is asked for as well. -/
theorem entered_rows_stay_kicked :
    let lobby := IdSource.serial 1
    let past : List Step := [.command (.create ann), .command (.join bob "LMNOPQ"),
      .command (.kick ann lobby bob.userId)]
    let future : List Step := [.command (.setActive lobby (IdSource.serial 3) true),
      .command (.join bob "LMNOPQ")]
    let later := ((fresh {} supply).after (past ++ future)).world.tables
    later.activeCount lobby = 2 ∧
      ∃ m ∈ ((fresh {} supply).after past).world.tables.members, m.isActive = false ∧
        m ∈ later.members := by
  intro lobby past future later
  have hkept := entered_rows_stay {} supply past future
  obtain ⟨m, hm, hclosed⟩ : ∃ m ∈ ((fresh {} supply).after past).world.tables.members,
      m.isActive = false := by decide +kernel
  obtain ⟨m', hm', hsame⟩ := hkept.members.exists_of_mem hm
  obtain rfl := hsame.closed hclosed
  exact ⟨by decide +kernel, m', hm, hclosed, hm'⟩

end Service

end GameLobby
