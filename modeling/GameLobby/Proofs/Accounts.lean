import GameLobby.Proofs.Deeds
import Mathlib.Data.List.Nodup

/-!
# Every row is accounted for

The rows of the tables are those that the commands carried out so far have entered, and no others
(`Tables.Accounted`): a lobby for each creation, a membership for each creation and each join, one
active membership less for each kick and each setting of a flag to inactive, and the users who have
created or joined. So nothing is left behind by a command that has failed, and no command enters or
ends more than its one row.
-/

namespace GameLobby

namespace Command

section
variable (caller : Caller) (typed : Text) (lobby target : Uuid) (active : Bool)

@[simp] theorem operation_create : (create caller).operation = .create := rfl
@[simp] theorem operation_join : (join caller typed).operation = .join := rfl
@[simp] theorem operation_read : (read caller lobby).operation = .read := rfl
@[simp] theorem operation_kick : (kick caller lobby target).operation = .kick := rfl
@[simp] theorem operation_setActive : (setActive lobby target active).operation = .setActive := rfl

end

/-- Whether a command sets the active flag of a membership to inactive. -/
def dismisses : Command → Bool
  | setActive _ _ false => true
  | _ => false

/-- A command enters a user if it is a creation or a join by the user. -/
def Enters (user : Uuid) : Command → Prop
  | create caller | join caller _ => caller.userId = user
  | read .. | kick .. | setActive .. => False

section
variable {user : Uuid} (caller : Caller) (lobby target : Uuid) (active : Bool)

@[simp] theorem not_enters_read : ¬ (read caller lobby).Enters user := id
@[simp] theorem not_enters_kick : ¬ (kick caller lobby target).Enters user := id
@[simp] theorem not_enters_setActive : ¬ (setActive lobby target active).Enters user := id

end

end Command

namespace Tables

/-- The rows of the tables are accounted for by the commands that have been carried out. -/
structure Accounted (t : Tables) (done : List Command) : Prop where
  lobbies : t.lobbies.length = done.countP (·.operation = .create)
  members : t.members.length =
    done.countP (·.operation = .create) + done.countP (·.operation = .join)
  active : (t.members.countP (·.isActive) : Int) =
    done.countP (·.operation = .create) + done.countP (·.operation = .join) -
      done.countP (·.operation = .kick) - done.countP Command.dismisses
  users : ∀ id, id ∈ t.users.map (·.id) ↔ ∃ c ∈ done, c.Enters id

/-- Empty tables are accounted for by no command at all. -/
theorem Accounted.empty : Accounted Tables.empty [] := by
  constructor <;> simp [Tables.empty]

/-! ## What each write adds to the counts -/

/-- Where one of different rows leaves a class, the class has one row less. -/
theorem countP_map_leave {α : Type} [DecidableEq α] {p : α → Bool} {f : α → α} {rows : List α}
    {m : α} (hnodup : rows.Nodup) (hm : m ∈ rows) (hin : p m = true) (hout : p (f m) = false) :
    (rows.map fun k => if k = m then f k else k).countP p + 1 = rows.countP p := by
  induction rows with
  | nil => cases hm
  | cons r rows ih =>
    rw [List.nodup_cons] at hnodup
    by_cases hr : r = m
    · subst hr
      have hrest : (rows.map fun k => if k = r then f k else k) = rows.map id :=
        List.map_congr_left fun k hk => if_neg (ne_of_mem_of_not_mem hk hnodup.1)
      simp [hrest, hin, hout]
    · have hmem : m ∈ rows := (List.mem_cons.1 hm).resolve_left (Ne.symm hr)
      have hrest := ih hnodup.2 hmem
      rw [List.map_cons, if_neg hr, List.countP_cons, List.countP_cons]
      omega

section
variable {t : Tables}

/-- Entering a user makes this identifier known and no other one. -/
theorem mem_putUser_iff {u : UserRow} {id : Uuid} :
    id ∈ (t.putUser u).users.map (·.id) ↔ id ∈ t.users.map (·.id) ∨ u.id = id := by
  rw [putUser_users]
  split
  · next hknown =>
    refine ⟨.inl, ?_⟩
    rintro (h | rfl)
    · exact h
    · exact hknown
  · rw [List.map_append, List.mem_append, List.map_singleton, List.mem_singleton, eq_comm (a := id)]

@[simp] theorem endMember_users (m : MemberRow) (leftAt : Timestamp) :
    (t.endMember m leftAt).users = t.users := rfl

@[simp] theorem endMember_lobbies (m : MemberRow) (leftAt : Timestamp) :
    (t.endMember m leftAt).lobbies = t.lobbies := rfl

/-- A membership that ends stays in its table. -/
@[simp] theorem length_endMember (m : MemberRow) (leftAt : Timestamp) :
    (t.endMember m leftAt).members.length = t.members.length := by
  rw [endMember, updateMembers_members, List.length_map]

/-- A membership that leaves a class by ending is one less in the class. -/
theorem Sound.countP_endMember (h : t.Sound) {m : MemberRow} (hm : m ∈ t.members)
    {p : MemberRow → Bool} (hin : p m = true) {leftAt : Timestamp}
    (hout : p (m.ended leftAt) = false) :
    (t.endMember m leftAt).members.countP p + 1 = t.members.countP p := by
  have hleave := countP_map_leave (f := .ended leftAt) h.memberIds.of_map hm hin hout
  simpa only [endMember, updateMembers_members, decide_eq_true_eq] using hleave

end

/-! ## Steps -/

section
variable {t t' : Tables} {done : List Command} {c : Command}

/-- A command is entered in the account with the rows that it adds and those that it ends. -/
theorem Accounted.concat (h : t.Accounted done)
    (hlobbies : t'.lobbies.length = t.lobbies.length + if c.operation = .create then 1 else 0)
    (hmembers : t'.members.length = t.members.length + (if c.operation = .create then 1 else 0) +
      if c.operation = .join then 1 else 0)
    (hactive : t'.members.countP (·.isActive) + (if c.operation = .kick then 1 else 0) +
        (if c.dismisses then 1 else 0) =
      t.members.countP (·.isActive) + (if c.operation = .create then 1 else 0) +
        if c.operation = .join then 1 else 0)
    (husers : ∀ id, id ∈ t'.users.map (·.id) ↔ id ∈ t.users.map (·.id) ∨ c.Enters id) :
    t'.Accounted (done ++ [c]) := by
  have hcount : ∀ p : Command → Bool,
      (done ++ [c]).countP p = done.countP p + if p c then 1 else 0 := fun p => by
    rw [List.countP_append, List.countP_singleton]
  constructor
  · rw [hlobbies, hcount, h.lobbies]
    simp
  · rw [hmembers, hcount, hcount, h.members]
    simp only [decide_eq_true_eq]
    omega
  · have hbefore := h.active
    rw [hcount, hcount, hcount, hcount]
    simp only [decide_eq_true_eq]
    omega
  · intro id
    rw [husers, h.users]
    simp [or_and_right, exists_or]

/-- What is accounted for stays so when a command that is carried out is entered in the account. -/
theorem Accounted.deed (hsound : t.Sound) (h : t.Accounted done) (hdeed : t.Deed c t') :
    t'.Accounted (done ++ [c]) := by
  cases hdeed with
  | create caller code s =>
    refine h.concat ?_ ?_ ?_ fun id => mem_putUser_iff
    · simp [withLobby]
    · simp [withLobby]
    · simp [withLobby, Command.dismisses]
  | join caller typed lobby s =>
    refine h.concat ?_ ?_ ?_ fun id => mem_putUser_iff
    · simp [withPlayer]
    · simp [withPlayer]
    · simp [withPlayer, Command.dismisses]
  | read caller lobby => exact h.concat (by simp) (by simp) (by simp [Command.dismisses]) (by simp)
  | kick caller lobby m leftAt _ _ member _ active =>
    have hless : (t.endMember m leftAt).members.countP (·.isActive) + 1 =
        t.members.countP (·.isActive) := hsound.countP_endMember member active rfl
    exact h.concat (by simp) (by simp) (by simpa [Command.dismisses] using hless) (by simp)
  | dismiss m leftAt member active =>
    have hless : (t.endMember m leftAt).members.countP (·.isActive) + 1 =
        t.members.countP (·.isActive) := hsound.countP_endMember member active rfl
    exact h.concat (by simp) (by simp) (by simpa [Command.dismisses] using hless) (by simp)
  | keep lobby membership =>
    exact h.concat (by simp) (by simp) (by simp [Command.dismisses]) (by simp)

/-- The stage of a lobby does not count. -/
theorem Accounted.setStatus (h : t.Accounted done) (lobby : Uuid) (status : Text) :
    (t.setStatus lobby status).Accounted done :=
  ⟨(List.length_map _).trans h.lobbies, h.members, h.active, h.users⟩

end

end Tables

namespace Service

/-- Every step keeps the rows accounted for. -/
theorem lasts_accounted : Lasts Tables.Accounted :=
  ⟨fun hsound h hdeed => h.deed hsound hdeed, fun h lobby status => h.setStatus lobby status⟩

/-- In a history of whatever kind from empty tables, every row is accounted for by a command that
has been carried out, and every such command by its row. -/
theorem rows_accounted (rules : Rules) (supply : Supply) (steps : List Step) :
    ((fresh rules supply).after steps).world.tables.Accounted
      ((fresh rules supply).carriedOut steps) :=
  lasts_accounted.after (s := fresh rules supply) Tables.Sound.empty Tables.Accounted.empty steps

end Service

end GameLobby
