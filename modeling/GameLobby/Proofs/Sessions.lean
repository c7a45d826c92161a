import GameLobby.Database.Session
import GameLobby.Proofs.Continuity
import Mathlib.Logic.Relation

/-!
# Sessions of any kind

A session keeps to none of the checks that operations make: it may end a membership twice, reopen
one, or enter a player in a lobby that does not exist. So tables need not stay sound. What the store
sees to by itself is that keys are unique and that a membership has an end exactly when it is over
(`Tables.Regular`). Rows stay in their places, and none is given another identity
(`Tables.GrowsTo`), although here a membership that has ended may be active again later.

Every call makes at most one write (`Tables.Write`), and both statements are shown once for each
kind of write. A session that is undone makes none.
-/

namespace GameLobby

/-! ## What a write leaves -/

/-- The same membership at two times, whether or not it has ended or been reopened meanwhile. -/
structure MemberRow.SameStay (m m' : MemberRow) : Prop where
  id : m'.id = m.id
  lobbyId : m'.lobbyId = m.lobbyId
  userId : m'.userId = m.userId
  joinedAt : m'.joinedAt = m.joinedAt

theorem MemberRow.SameStay.refl (m : MemberRow) : m.SameStay m :=
  ⟨rfl, rfl, rfl, rfl⟩

theorem MemberRow.SameStay.trans {m₁ m₂ m₃ : MemberRow} (h₁ : m₁.SameStay m₂)
    (h₂ : m₂.SameStay m₃) : m₁.SameStay m₃ :=
  ⟨h₂.id.trans h₁.id, h₂.lobbyId.trans h₁.lobbyId, h₂.userId.trans h₁.userId,
    h₂.joinedAt.trans h₁.joinedAt⟩

namespace Tables

/-- What the store sees to by itself. -/
structure Regular (t : Tables) : Prop where
  userIds : (t.users.map (·.id)).Nodup
  lobbyIds : (t.lobbies.map (·.id)).Nodup
  joinCodes : (t.lobbies.map (·.joinCode)).Nodup
  memberIds : (t.members.map (·.id)).Nodup
  leftAt : ∀ m ∈ t.members, m.leftAt = none ↔ m.isActive

/-- Tables at a later time: each row stands in its place with the identity that it was entered
with. -/
structure GrowsTo (t t' : Tables) : Prop where
  users : t.users <+: t'.users
  lobbies : Kept LobbyRow.Continues t.lobbies t'.lobbies
  members : Kept MemberRow.SameStay t.members t'.members

/-- What one call can do to the tables, and what another service can do to them. -/
inductive Write (t : Tables) : Tables → Prop
  | none : Write t t
  | user (u : UserRow) : Write t (t.putUser u)
  | lobby (l : LobbyRow) (newId : l.id ∉ t.lobbies.map (·.id))
      (newCode : l.joinCode ∉ t.lobbies.map (·.joinCode)) : Write t (t.addLobby l)
  | member (m : MemberRow) (newId : m.id ∉ t.members.map (·.id))
      (closed : m.leftAt = Option.none ↔ m.isActive) : Write t (t.addMember m)
  /-- Memberships of a class are ended or reopened. -/
  | members (p : MemberRow → Bool) (f : MemberRow → MemberRow)
      (same : ∀ m : MemberRow, m.SameStay (f m))
      (closed : ∀ m, (f m).leftAt = Option.none ↔ (f m).isActive) : Write t (t.updateMembers p f)
  | restage (lobby : Uuid) (status : Text) : Write t (t.setStatus lobby status)

section
variable {t t' : Tables}

theorem Regular.empty : Regular Tables.empty := by
  constructor <;> simp [Tables.empty]

/-- Writes keep the tables regular. -/
theorem Regular.write (h : t.Regular) (hwrite : t.Write t') : t'.Regular := by
  cases hwrite with
  | none => exact h
  | user u =>
    refine ⟨?_, by simpa using h.lobbyIds, by simpa using h.joinCodes, by simpa using h.memberIds,
      by simpa using h.leftAt⟩
    rw [putUser_users]
    split
    · exact h.userIds
    · next hu => exact nodup_map_concat h.userIds hu
  | lobby l newId newCode =>
    exact ⟨h.userIds, nodup_map_concat h.lobbyIds newId, nodup_map_concat h.joinCodes newCode,
      h.memberIds, h.leftAt⟩
  | member m newId closed =>
    refine ⟨h.userIds, h.lobbyIds, h.joinCodes, nodup_map_concat h.memberIds newId, ?_⟩
    intro k hk
    rcases List.mem_append.1 hk with hk | hk
    · exact h.leftAt k hk
    · rw [List.mem_singleton.1 hk]
      exact closed
  | members p f same closed =>
    refine ⟨h.userIds, h.lobbyIds, h.joinCodes, ?_, ?_⟩
    · rw [map_members_updateMembers _ _ _ _ fun m => (same m).id]
      exact h.memberIds
    · intro m hm
      rcases mem_updateMembers hm with hm | ⟨k, _, rfl⟩
      · exact h.leftAt m hm
      · exact closed k
  | restage lobby status =>
    refine ⟨h.userIds, ?_, ?_, h.memberIds, h.leftAt⟩
    · rw [map_lobbies_setStatus _ _ _ _ fun _ => rfl]
      exact h.lobbyIds
    · rw [map_lobbies_setStatus _ _ _ _ fun _ => rfl]
      exact h.joinCodes

theorem GrowsTo.refl (t : Tables) : t.GrowsTo t :=
  ⟨List.prefix_refl _, .refl .refl _, .refl .refl _⟩

theorem GrowsTo.trans {t'' : Tables} (h₁ : t.GrowsTo t') (h₂ : t'.GrowsTo t'') : t.GrowsTo t'' :=
  ⟨h₁.users.trans h₂.users, h₁.lobbies.trans .trans h₂.lobbies, h₁.members.trans .trans h₂.members⟩

/-- Memberships of a class may be ended at one time. -/
theorem Write.ended (p : MemberRow → Bool) (at_ : Timestamp) :
    t.Write (t.updateMembers p (.ended at_)) :=
  .members p _ (fun _ => ⟨rfl, rfl, rfl, rfl⟩) fun _ => by simp [MemberRow.ended]

theorem Write.reopened (p : MemberRow → Bool) : t.Write (t.updateMembers p .reopened) :=
  .members p _ (fun _ => ⟨rfl, rfl, rfl, rfl⟩) fun _ => by simp [MemberRow.reopened]

/-- Writes leave every row in its place. -/
theorem Write.growsTo (h : t.Write t') : t.GrowsTo t' := by
  cases h with
  | none => exact .refl t
  | user u =>
    refine ⟨users_prefix_putUser t u, ?_, ?_⟩
    · rw [putUser_lobbies]
      exact .refl .refl _
    · rw [putUser_members]
      exact .refl .refl _
  | lobby l => exact ⟨List.prefix_refl _, .append .refl _ _, .refl .refl _⟩
  | member m => exact ⟨List.prefix_refl _, .refl .refl _, .append .refl _ _⟩
  | members p f same =>
    refine ⟨List.prefix_refl _, .refl .refl _, .map fun m _ => ?_⟩
    split
    · exact same m
    · exact .refl m
  | restage lobby status => exact ⟨List.prefix_refl _, kept_setStatus t lobby status, .refl .refl _⟩

/-! ## Writes one after another -/

/-- Tables that writes lead to. -/
def Writes : Tables → Tables → Prop :=
  Relation.ReflTransGen Write

/-- Writes keep tables regular. -/
theorem Regular.writes (h : t.Regular) (hwrites : t.Writes t') : t'.Regular := by
  induction hwrites with
  | refl => exact h
  | tail _ hwrite ih => exact ih.write hwrite

/-- Tables only grow by writes. -/
theorem Writes.growsTo (h : t.Writes t') : t.GrowsTo t' := by
  induction h with
  | refl => exact .refl t
  | tail _ hwrite ih => exact ih.trans hwrite.growsTo

end

end Tables

/-! ## Calls are writes -/

namespace World

section
variable (w : World)

/-- Entering a user is a write, whatever comes of it. -/
theorem upsertUser_write (user : Uuid) (name : Text) :
    w.tables.Write (w.upsertUser user name).2.tables := by
  unfold upsertUser
  dsimp only
  split
  · exact .none
  · exact .user _

theorem createLobby_write (code : Text) (leader : Uuid) :
    w.tables.Write (w.createLobby code leader).2.tables := by
  unfold createLobby
  dsimp only
  split
  · exact .none
  split
  · exact .none
  next hcode =>
  split
  · exact .none
  next hid =>
  exact .lobby _ (Tables.lobby?_eq_none_iff.1 (Option.not_isSome_iff_eq_none.1 hid))
    (Tables.lobbyByCode?_eq_none_iff.1 (Option.not_isSome_iff_eq_none.1 hcode))

theorem addMember_write (lobby user : Uuid) :
    w.tables.Write (w.addMember lobby user).2.tables := by
  unfold addMember
  dsimp only
  split
  · exact .none
  next hid =>
  have hnew : ¬ w.tables.members.any (·.id = w.freshId.1) = true := hid
  exact .member _ (by simpa using hnew) (by simp)

theorem setMemberActive_write (lobby membership : Uuid) (active : Bool) :
    w.tables.Write (w.setMemberActive lobby membership active).2.tables := by
  cases active with
  | true => exact .reopened _
  | false => exact .ended _ _

end

end World

/-- Each call makes at most one write. -/
theorem Call.run_write (before : Tables) (w : World) (call : Call) :
    w.tables.Write (call.run before w).2.tables := by
  cases call with
  | upsertUser user name =>
    change w.tables.Write (runUpsert user name w).2.tables
    unfold runUpsert
    split
    · exact w.upsertUser_write _ _
    · dsimp only
      split <;> exact .none
  | createLobby code leader =>
    change w.tables.Write (runCreate code leader w).2.tables
    unfold runCreate
    split
    · exact w.createLobby_write _ _
    · dsimp only
      split <;> exact .none
  | addMember lobby user =>
    change w.tables.Write (runAdd lobby user w).2.tables
    unfold runAdd
    split
    · exact w.addMember_write _ _
    · exact .none
  | deactivateMember lobby user =>
    change w.tables.Write (runDeactivate lobby user w).2.tables
    unfold runDeactivate
    split
    · exact .ended _ _
    · exact .none
  | setMemberActive lobby membership active =>
    change w.tables.Write (runSetActive lobby membership active w).2.tables
    unfold runSetActive
    split
    · exact w.setMemberActive_write _ _ _
    · exact .none
    · dsimp only
      split <;> exact .none
  | _ => exact .none

namespace World

/-! ## Sessions -/

/-- The calls of a session lead on from the tables before them by writes. -/
theorem runCalls_writes (before : Tables) (calls : List Call) (w : World) :
    w.tables.Writes (runCalls before calls w).2.tables := by
  induction calls generalizing w with
  | nil => exact .refl
  | cons call rest ih =>
    have hwrite := call.run_write before w
    rw [runCalls]
    cases hrun : call.run before w with | mk r w' =>
    rw [hrun] at hwrite
    cases r with
    | error f => exact .single hwrite
    | ok a => exact .head hwrite (ih w')

/-- None of some answers is a failure. -/
theorem anyFailed_eq_false_iff {answers : List (Except Failure Answer)} :
    anyFailed answers = false ↔ ∀ a ∈ answers, a.isOk := by
  rw [anyFailed, List.any_eq_false]
  refine forall₂_congr fun a _ => ?_
  cases a <;> simp [Except.isOk, Except.toBool]

/-- What a session comes to: unless it is aborted and unless a call of it fails, it is committed,
and otherwise the tables are as they were. -/
theorem session_cases (w : World) (calls : List Call) (abort : Bool) :
    let answers := (runCalls w.tables calls w).1
    let w' := (runCalls w.tables calls w).2
    (w.session calls abort = (answers, true, w') ∧ abort = false ∧ ∀ a ∈ answers, a.isOk) ∨
      (w.session calls abort = (answers, false, w'.withTables w.tables) ∧
        ¬ (abort = false ∧ ∀ a ∈ answers, a.isOk)) := by
  intro answers w'
  rw [← anyFailed_eq_false_iff, ← Bool.or_eq_false_iff]
  cases hundo : abort || anyFailed answers with
  | true => exact .inr ⟨if_pos hundo, Bool.true_eq_false.mp⟩
  | false => exact .inl ⟨if_neg (Bool.eq_false_iff.1 hundo), rfl⟩

/-- What a session leaves is what some writes leave, whether it is committed or not. -/
theorem session_writes (w : World) (calls : List Call) (abort : Bool) :
    w.tables.Writes (w.session calls abort).2.2.tables := by
  rcases session_cases w calls abort with ⟨hrun, -⟩ | ⟨hrun, -⟩
  · rw [hrun]
    exact runCalls_writes w.tables calls w
  · rw [hrun]
    exact .refl

end World

/-- What can happen to a store that anybody may use: a session, which may be aborted behind its
calls, or another service writes the stage of a lobby. -/
inductive Use where
  | session (calls : List Call) (abort : Bool)
  | setStatus (lobby : Uuid) (status : Text)
  deriving Repr

namespace World

/-- The world after one use of the store. -/
def use (w : World) : Use → World
  | .session calls abort => (w.session calls abort).2.2
  | .setStatus lobby status => w.withTables (w.tables.setStatus lobby status)

/-- The world after uses of the store, one after another. -/
def afterUses (w : World) (uses : List Use) : World :=
  uses.foldl use w

/-- What any use of the store leaves is what some writes leave. -/
theorem use_writes (w : World) (u : Use) : w.tables.Writes (w.use u).tables := by
  cases u with
  | session calls abort => exact session_writes w calls abort
  | setStatus lobby status => exact .single (.restage lobby status)

theorem afterUses_writes (w : World) (uses : List Use) :
    w.tables.Writes (w.afterUses uses).tables := by
  induction uses generalizing w with
  | nil => exact .refl
  | cons u rest ih => exact (use_writes w u).trans (ih (w.use u))

/-- However the store has been used from empty tables on, its keys are unique and a membership has
an end exactly when it is over. However it is used next, every row stays in its place, and nothing
about it changes but the stage of a lobby and whether and when a membership has ended. A session is
committed unless it is aborted or a call of it fails, and one that is not leaves all tables as they
were. -/
theorem sessions_keep_rows (supply : Supply) (past future : List Use) :
    let w := (World.mk .empty supply).afterUses past
    w.tables.Regular ∧ w.tables.GrowsTo (w.afterUses future).tables ∧
      ∀ calls abort,
        ((w.session calls abort).2.1 = true ↔
          abort = false ∧ ∀ a ∈ (w.session calls abort).1, a.isOk) ∧
        ((w.session calls abort).2.1 = false → (w.session calls abort).2.2.tables = w.tables) := by
  intro w
  refine ⟨Tables.Regular.empty.writes (afterUses_writes ⟨.empty, supply⟩ past),
    (afterUses_writes w future).growsTo,
    fun calls abort => ?_⟩
  rcases session_cases w calls abort with ⟨hrun, hgood⟩ | ⟨hrun, hbad⟩
  · rw [hrun]
    exact ⟨iff_of_true rfl hgood, nofun⟩
  · rw [hrun]
    exact ⟨iff_of_false nofun hbad, fun _ => rfl⟩

end World

open Sample in
/-- Entered twice, and both stays ended and reopened, Ann is in her lobby twice at the same time. -/
example :
    (opened.afterUses [.session [.addMember (IdSource.serial 1) ann.userId,
        .deactivateMember (IdSource.serial 1) ann.userId] false,
      .session [.setMemberActive (IdSource.serial 1) (IdSource.serial 2) true,
        .setMemberActive (IdSource.serial 1) (IdSource.serial 3) true] false]).tables.members.map
      (fun m => (m.userId, m.isActive, m.leftAt)) =
      [(ann.userId, true, none), (ann.userId, true, none)] := by
  decide +kernel

end GameLobby
