import GameLobby.Proofs.Removals
import Mathlib.Data.List.Forall2

/-!
# Creations and removals do not look at stages

A stage is stored as a text that another service may write, and whoever reads the row of a lobby
fails where the text names no stage. Creating a lobby reads no row but the new one, and kicking and
setting an active flag read of a lobby who leads it, so none of them looks at the stage of a lobby
that has been there: on two states of the tables that differ in such stages only
(`Tables.SameButStages`) they come to the same (`World.Concurs`), failures included. Joining and
reading do look.
-/

namespace GameLobby

/-- One lobby at two stages, whether or not these exist. -/
def LobbyRow.SameButStage (l l' : LobbyRow) : Prop :=
  l' = { l with status := l'.status }

namespace Tables

/-- Two states of the tables that differ in the stages of lobbies only. -/
structure SameButStages (t t' : Tables) : Prop where
  users : t'.users = t.users
  lobbies : List.Forall₂ LobbyRow.SameButStage t.lobbies t'.lobbies
  members : t'.members = t.members

section
variable {t t' : Tables}

/-- What another service writes into the row of a lobby is a stage. -/
theorem sameButStages_setStatus (t : Tables) (lobby : Uuid) (status : Text) :
    t.SameButStages (t.setStatus lobby status) := by
  refine ⟨rfl, ?_, rfl⟩
  rw [setStatus, List.forall₂_map_right_iff, List.forall₂_same]
  intro l _
  split <;> rfl

namespace SameButStages

/-! ## What is read -/

/-- Whatever does not tell of a stage is the same for the lobbies of both. -/
theorem map_lobbies {κ : Type} (h : t.SameButStages t') (key : LobbyRow → κ)
    (hkey : ∀ (l : LobbyRow) status, key { l with status } = key l) :
    t'.lobbies.map key = t.lobbies.map key := by
  have hrows := h.lobbies
  generalize t.lobbies = rows at hrows
  generalize t'.lobbies = rows' at hrows
  induction hrows with
  | nil => rfl
  | cons hrow _ ih =>
    rw [List.map_cons, List.map_cons, ih, hrow, hkey]

/-- A lobby is found in both under its identifier, or in none. -/
theorem lobby? (h : t.SameButStages t') (id : Uuid) :
    t.lobby? id = none ∧ t'.lobby? id = none ∨
      ∃ l l', t.lobby? id = some l ∧ t'.lobby? id = some l' ∧ l.SameButStage l' := by
  have hrows := h.lobbies
  unfold Tables.lobby?
  generalize t.lobbies = rows at hrows
  generalize t'.lobbies = rows' at hrows
  induction hrows with
  | nil => exact .inl ⟨rfl, rfl⟩
  | @cons l l' _ _ hrow _ ih =>
    have hid : l'.id = l.id := by rw [hrow]
    by_cases hl : l.id = id
    · refine .inr ⟨l, l', ?_, ?_, hrow⟩
      · exact List.find?_cons_of_pos (by simpa using hl)
      · exact List.find?_cons_of_pos (by simpa [hid] using hl)
    · rw [List.find?_cons_of_neg (by simpa using hl),
        List.find?_cons_of_neg (by simpa [hid] using hl)]
      exact ih

/-- Which lobbies there are does not depend on their stages. -/
theorem isSome_lobby? (h : t.SameButStages t') (id : Uuid) :
    (t'.lobby? id).isSome = (t.lobby? id).isSome := by
  rcases h.lobby? id with ⟨hnone, hnone'⟩ | ⟨l, l', hl, hl', -⟩
  · rw [hnone, hnone']
  · rw [hl, hl']
    rfl

/-- The search for a join code looks at nothing but the codes. -/
theorem freeCode (h : t.SameButStages t') (n : Nat) (e : Entropy) :
    t'.freeCode n e = t.freeCode n e := by
  have hused : ∀ code, (t'.lobbyByCode? code).isSome = (t.lobbyByCode? code).isSome := by
    intro code
    rw [Bool.eq_iff_iff, Option.isSome_iff_ne_none, Option.isSome_iff_ne_none, ne_eq, ne_eq,
      lobbyByCode?_eq_none_iff, lobbyByCode?_eq_none_iff,
      h.map_lobbies (·.joinCode) fun _ _ => rfl]
  induction n generalizing e with
  | zero => rfl
  | succ n ih => simp only [Tables.freeCode, hused, ih]

/-- Who is in a lobby does not depend on stages. -/
theorem isActiveMember (h : t.SameButStages t') (lobby user : Uuid) :
    t'.isActiveMember lobby user = t.isActiveMember lobby user := by
  rw [Tables.isActiveMember, Tables.isActiveMember, h.members]

theorem isActiveMembership (h : t.SameButStages t') (lobby membership : Uuid) :
    t'.isActiveMembership lobby membership = t.isActiveMembership lobby membership := by
  rw [Tables.isActiveMembership, Tables.isActiveMembership, h.members]

/-- The players of a lobby do not depend on stages. -/
theorem playersOf (h : t.SameButStages t') (lobby : Uuid) :
    t'.playersOf lobby = t.playersOf lobby := by
  simp only [Tables.playersOf, membersOf, user?, h.members, h.users]

/-! ## What is written -/

/-- A lobby that is opened in both tables has the same stage in both. -/
theorem withLobby (h : t.SameButStages t') (s : Supply) (caller : Caller) (code : Text) :
    (t.withLobby s caller code).SameButStages (t'.withLobby s caller code) where
  users := by
    simp only [Tables.withLobby, addMember_users, addLobby_users, putUser_users, h.users]
  lobbies := by
    simp only [Tables.withLobby, addMember_lobbies, addLobby_lobbies, putUser_lobbies]
    exact List.rel_append h.lobbies (.cons rfl .nil)
  members := by
    simp only [Tables.withLobby, addMember_members, addLobby_members, putUser_members, h.members]

/-- Changes to the memberships in both tables leave them the same but for stages. -/
theorem updateMembers (h : t.SameButStages t') (p : MemberRow → Bool) (f : MemberRow → MemberRow) :
    (t.updateMembers p f).SameButStages (t'.updateMembers p f) :=
  ⟨h.users, h.lobbies, by rw [updateMembers_members, updateMembers_members, h.members]⟩

end SameButStages

end

end Tables

namespace World

section
variable {α β : Type} {w w' : World} {r r' : Except Failure α × World}

/-- What comes of a command on two worlds is the same: the answer, the draws, and all rows but those
of the lobbies that have been there, which stay in each world as they are, with the same new ones
behind them. -/
structure Concurs (w w' : World) (r r' : Except Failure α × World) : Prop where
  answer : r'.1 = r.1
  supply : r'.2.supply = r.2.supply
  users : r'.2.tables.users = r.2.tables.users
  members : r'.2.tables.members = r.2.tables.members
  lobbies : ∃ new, r.2.tables.lobbies = w.tables.lobbies ++ new ∧
    r'.2.tables.lobbies = w'.tables.lobbies ++ new

/-- The same answer is given, and at most memberships change. -/
theorem Concurs.of_tables {a : Except Failure α} {s : Supply} {t t' : Tables}
    (h : t.SameButStages t') (hlobbies : t.lobbies = w.tables.lobbies)
    (hlobbies' : t'.lobbies = w'.tables.lobbies) :
    Concurs w w' (a, ⟨t, s⟩) (a, ⟨t', s⟩) :=
  ⟨rfl, rfl, h.users, h.members, [], by simp [hlobbies], by simp [hlobbies']⟩

theorem Concurs.map (h : Concurs w w' r r') (g : α → β) :
    Concurs w w' (r.1.map g, r.2) (r'.1.map g, r'.2) :=
  ⟨congrArg (Except.map g) h.answer, h.supply, h.users, h.members, h.lobbies⟩

/-- What a question draws before it looks at the tables does not depend on them. -/
theorem spend_supply (t t' : Tables) (s : Supply) (q : Query) :
    (spend ⟨t', s⟩ q).supply = (spend ⟨t, s⟩ q).supply := by
  unfold spend
  split <;> rfl

end

section
variable {t t' : Tables} {s : Supply}

/-- Operations that come to the same before their deadline do so past it. -/
theorem Concurs.perform {α : Type} {op : Operation α} (hop : op.AsksFirst)
    (h : t.SameButStages t')
    (hperform : Concurs ⟨t, s⟩ ⟨t', s⟩ (perform {} op ⟨t, s⟩) (perform {} op ⟨t', s⟩))
    (rules : Rules) :
    Concurs ⟨t, s⟩ ⟨t', s⟩ (perform (rules.conditions []) op ⟨t, s⟩)
      (perform (rules.conditions []) op ⟨t', s⟩) := by
  cases hexp : rules.expired with
  | false =>
    rw [conditions_of_not_expired hexp]
    exact hperform
  | true =>
    have hc : (rules.conditions []).expired = true := hexp
    cases op with
    | refused r => exact .of_tables h rfl rfl
    | transact body =>
      obtain ⟨q, next, rfl⟩ := hop
      rw [perform_ask_of_expired hc, perform_ask_of_expired hc, spend_supply t t' s q]
      exact .of_tables h rfl rfl

/-- A kick does not look at stages. -/
theorem perform_kick_concurs (h : t.SameButStages t') (caller : Caller) (lobby target : Uuid) :
    Concurs ⟨t, s⟩ ⟨t', s⟩ (perform {} (.kick caller lobby target) ⟨t, s⟩)
      (perform {} (.kick caller lobby target) ⟨t', s⟩) := by
  rw [perform_kick, perform_kick]
  split
  · exact .of_tables h rfl rfl
  rcases h.lobby? lobby with ⟨hnone, hnone'⟩ | ⟨l, l', hl, hl', hrow⟩
  · rw [hnone, hnone']
    exact .of_tables h rfl rfl
  · have hleader : l'.leaderId = l.leaderId := by rw [hrow]
    rw [hl, hl']
    dsimp only
    rw [hleader, h.isActiveMember]
    split
    · split
      · exact .of_tables (h.updateMembers _ _) rfl rfl
      · exact .of_tables h rfl rfl
    · exact .of_tables h rfl rfl

/-- A change of the active flag does not look at stages. -/
theorem perform_setActive_concurs (h : t.SameButStages t') (lobby membership : Uuid)
    (active : Bool) :
    Concurs ⟨t, s⟩ ⟨t', s⟩ (perform {} (.setActive lobby membership active) ⟨t, s⟩)
      (perform {} (.setActive lobby membership active) ⟨t', s⟩) := by
  have hknown : (t'.lobby? lobby).isNone = (t.lobby? lobby).isNone := by
    rw [← Option.not_isSome, ← Option.not_isSome, h.isSome_lobby?]
  rw [perform_setActive, perform_setActive, hknown, h.isActiveMembership]
  split
  · exact .of_tables h rfl rfl
  split
  · exact .of_tables (h.updateMembers _ _) rfl rfl
  · exact .of_tables h rfl rfl

/-- A creation does not look at stages, and the lobby that it opens is shown from its own row. -/
theorem perform_create_concurs (h : t.SameButStages t') (rules : Rules) (caller : Caller) :
    Concurs ⟨t, s⟩ ⟨t', s⟩ (perform {} (.create rules caller) ⟨t, s⟩)
      (perform {} (.create rules caller) ⟨t', s⟩) := by
  rw [perform_create, perform_create, h.freeCode, h.isSome_lobby?, h.members]
  split
  · exact .of_tables h rfl rfl
  split
  · exact .of_tables h rfl rfl
  split
  · exact .of_tables h rfl rfl
  next code e _ =>
  split
  · exact .of_tables h rfl rfl
  split
  · exact .of_tables h rfl rfl
  · have hentered := h.withLobby s caller code
    rw [hentered.playersOf]
    exact ⟨rfl, rfl, hentered.users, hentered.members, _,
      congrArg (· ++ _) (Tables.putUser_lobbies ..), congrArg (· ++ _) (Tables.putUser_lobbies ..)⟩

end

/-- Whatever the tables hold, on two states of them that differ only in the stages of lobbies,
stages that do not exist among them, a creation, a kick or the setting of an active flag comes to
the same: the same answer or failure, the same draws, the same users and memberships afterwards, and
the same lobbies but for those stages. -/
theorem stages_ignored {w w' : World} (h : w.tables.SameButStages w'.tables)
    (hsupply : w'.supply = w.supply) (rules : Rules) {c : Command}
    (hc : c.operation = .create ∨ c.operation = .kick ∨ c.operation = .setActive) :
    Concurs w w' (w.execute rules [] c) (w'.execute rules [] c) := by
  obtain ⟨t, s⟩ := w
  obtain ⟨t', s'⟩ := w'
  obtain rfl : s' = s := hsupply
  cases c with
  | create caller =>
    have hcreate := perform_create_concurs (s := s') h rules caller
    exact (hcreate.perform (Operation.asksFirst_create rules caller) h rules).map _
  | kick caller lobby target =>
    have hkick := perform_kick_concurs (s := s') h caller lobby target
    exact (hkick.perform (Operation.asksFirst_kick caller lobby target) h rules).map _
  | setActive lobby membership active =>
    have hset := perform_setActive_concurs (s := s') h lobby membership active
    exact (hset.perform (Operation.asksFirst_setActive lobby membership active) h rules).map _
  | join | read => rcases hc with hc | hc | hc <;> cases hc

open Sample in
/-- At a stage that does not exist Ann cannot read her lobby any more, but she can still kick Bob
from it, with what comes of that at the stage before. -/
theorem stages_ignored_paused :
    let lobby := IdSource.serial 1
    let paused := returned.withTables (returned.tables.setStatus lobby "paused")
    let kick : Command := .kick ann lobby bob.userId
    returned.tables.SameButStages paused.tables ∧ paused.supply = returned.supply ∧
      (kick.operation = .create ∨ kick.operation = .kick ∨ kick.operation = .setActive) ∧
      (returned.execute {} [] (.read ann lobby)).1.isOk ∧
      (paused.execute {} [] (.read ann lobby)).1 = .error (.unknownStatus "paused") ∧
      (paused.execute {} [] kick).1 = .ok .done ∧
      Concurs returned paused (returned.execute {} [] kick) (paused.execute {} [] kick) := by
  intro lobby paused kick
  have hsame : returned.tables.SameButStages paused.tables :=
    Tables.sameButStages_setStatus returned.tables lobby "paused"
  have hsupply : paused.supply = returned.supply := by decide +kernel
  have hkick : kick.operation = .create ∨ kick.operation = .kick ∨ kick.operation = .setActive :=
    .inr (.inl rfl)
  have hreads : (returned.execute {} [] (.read ann lobby)).1.isOk ∧
      (paused.execute {} [] (.read ann lobby)).1 = .error (.unknownStatus "paused") := by
    decide +kernel
  have hkicks : (paused.execute {} [] kick).1 = .ok .done := by decide +kernel
  clear_value paused kick
  exact ⟨hsame, hsupply, hkick, hreads.1, hreads.2, hkicks, stages_ignored hsame hsupply {} hkick⟩

end World

end GameLobby
