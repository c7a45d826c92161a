import GameLobby.Proofs.Moves
import Mathlib.Control.Monad.Basic

/-!
# All or nothing

A command that fails leaves the tables as they were, while the supplies stay drawn as far as its
transaction came (`World.AllOrNothing`). A failure can come late, after a user or a lobby has been
written, and all that stands between it and the tables is that nothing fails after a commit
(`World.Answers`). For a join that is not plain, since it reads the lobby once more when its
transaction is over: the tables are sound, so the lobby that the checks found is the one that the
read finds, at the same stage.
-/

namespace GameLobby

open Program

section
variable {α : Type} {c : Conditions}

/-! ## Nothing fails after a commit -/

namespace World

/-- Nothing fails once the transaction of an operation has committed. -/
def Answers (c : Conditions) (op : Operation α) (w : World) : Prop :=
  ∀ {closing w'}, w.attempt c op = (.ok closing, w') → ∃ a, w'.close c closing = .ok a

/-- Whether a transaction commits, and the world in which it ends, before anything is undone. -/
def ended (r : Except Failure (Closing α) × World) : Bool × World :=
  (r.1.isOk, r.2)

/-- What comes of a transaction: a failure leaves the tables of the start and what the transaction
has drawn, and a commit is answered. -/
def AllOrNothing (w : World) (transaction : Bool × World) (r : Except Failure Result × World) :
    Prop :=
  (∀ f, r.1 = .error f → r.2 = ⟨w.tables, transaction.2.supply⟩) ∧
    (transaction.1 = true → ∃ a, r.1 = .ok a)

/-- An operation that fails only with its transaction is all or nothing. -/
theorem Answers.allOrNothing {op : Operation α} {w : World} (h : w.Answers c op) (g : α → Result) :
    w.AllOrNothing (ended (w.attempt c op)) ((w.perform c op).1.map g, (w.perform c op).2) := by
  rw [perform_eq_settle]
  cases hrun : w.attempt c op with | mk r w' =>
  cases r with
  | error e =>
    refine ⟨fun f _ => rfl, fun hcommit => ?_⟩
    cases hcommit
  | ok closing =>
    obtain ⟨a, ha⟩ := h hrun
    have hclose : settle c w (.ok closing, w') = (.ok a, w') := by rw [settle, ha]
    rw [hclose]
    refine ⟨fun f hfail => ?_, fun _ => ⟨g a, rfl⟩⟩
    cases hfail

end World

namespace Operation

/-- An operation does nothing before it asks the store. -/
def AsksFirst : Operation α → Prop
  | .refused _ => True
  | .transact body => ∃ q next, body = ask q next

/-- A creation does nothing before it asks the store. -/
theorem asksFirst_create (rules : Rules) (caller : Caller) : (create rules caller).AsksFirst :=
  ⟨_, _, rfl⟩

theorem asksFirst_join (rules : Rules) (caller : Caller) (typed : Text) :
    (join rules caller typed).AsksFirst := by
  rw [join]
  cases JoinCode.normalize typed with
  | error r => trivial
  | ok code => exact ⟨_, _, rfl⟩

theorem asksFirst_read (caller : Caller) (lobby : Uuid) : (read caller lobby).AsksFirst :=
  ⟨_, _, rfl⟩

theorem asksFirst_kick (caller : Caller) (lobby target : Uuid) :
    (kick caller lobby target).AsksFirst := by
  rw [kick]
  split
  · trivial
  · exact ⟨_, _, rfl⟩

theorem asksFirst_setActive (lobby membership : Uuid) (active : Bool) :
    (setActive lobby membership active).AsksFirst :=
  ⟨_, _, rfl⟩

end Operation

namespace World

/-- Past the deadline the first question fails, so a transaction that commits has met no
deadline. -/
theorem conditions_of_commit {rules : Rules} {op : Operation α} (hop : op.AsksFirst) {w w' : World}
    {closing : Closing α} (h : w.attempt (rules.conditions []) op = (.ok closing, w')) :
    rules.conditions [] = {} := by
  cases hexp : rules.expired with
  | false => exact conditions_of_not_expired hexp
  | true =>
    cases op with
    | refused r => cases h
    | transact body =>
      obtain ⟨q, next, rfl⟩ := hop
      have hc : (rules.conditions []).expired = true := hexp
      rw [attempt, runProgram_ask_expired hc] at h
      cases h

end World

end

/-! ## What the operations commit -/

/-- A player who has been entered in a lobby that a code led to can read the lobby. -/
theorem Tables.Sound.detail?_withPlayer {t : Tables} (h : t.Sound) {code : Text} {row : LobbyRow}
    {lobby : Lobby} (hrow : t.lobbyByCode? code = some row) (hlobby : row.lobby? = .ok lobby)
    (s : Supply) (caller : Caller) :
    (t.withPlayer s caller lobby.id).detail? lobby.id =
      .ok (some ⟨lobby, (t.withPlayer s caller lobby.id).playersOf lobby.id⟩) := by
  have hid : lobby.id = row.id := by rw [(LobbyRow.lobby?_ok hlobby).2]
  have hfound : (t.withPlayer s caller lobby.id).lobby? lobby.id = some row := by
    rw [hid, Tables.lobby?, Tables.withPlayer, Tables.addMember_lobbies, Tables.putUser_lobbies]
    exact h.lobby?_of_mem (Tables.mem_of_lobbyByCode? hrow).1
  rw [Tables.detail?, hfound]
  dsimp only
  rw [hlobby]
  rfl

namespace World

variable {rules : Rules} {w w' : World}

/-- A creation commits with the detail of the lobby in hand. -/
theorem attempt_create_ok {caller : Caller} {closing : Closing LobbyDetail}
    (h : w.attempt (rules.conditions []) (.create rules caller) = (.ok closing, w')) :
    ∃ d, closing = .answer (Operation.found (some d)) := by
  rw [conditions_of_commit (Operation.asksFirst_create rules caller) h] at h
  obtain ⟨t, s⟩ := w
  rw [attempt_create] at h
  split at h
  · cases h
  dsimp only at h
  split at h
  · cases h
  split at h
  · cases h
  split at h
  · cases h
  split at h
  · cases h
  · cases h
    exact ⟨_, rfl⟩

/-- A join commits with a lobby that is there to be read. -/
theorem attempt_join_ok (hsound : w.tables.Sound) {caller : Caller} {typed : Text}
    {closing : Closing LobbyDetail}
    (h : w.attempt (rules.conditions []) (.join rules caller typed) = (.ok closing, w')) :
    ∃ lobby d, closing = .readDetail lobby Operation.found ∧
      w'.tables.detail? lobby = .ok (some d) := by
  rw [conditions_of_commit (Operation.asksFirst_join rules caller typed) h] at h
  obtain ⟨t, s⟩ := w
  rw [attempt_join] at h
  split at h
  · cases h
  split at h
  · cases h
  next lobby hallow =>
  split at h
  · cases h
  split at h
  · cases h
  · cases h
    obtain ⟨row, hrow, hlobby, -⟩ := Tables.admission_ok hallow
    exact ⟨_, _, rfl, hsound.detail?_withPlayer hrow hlobby s caller⟩

/-- The other three operations commit with an answer. -/
theorem attempt_read_ok {caller : Caller} {lobby : Uuid} {closing : Closing LobbyDetail}
    (h : w.attempt (rules.conditions []) (.read caller lobby) = (.ok closing, w')) :
    ∃ d, closing = .answer (.ok d) := by
  rw [conditions_of_commit (Operation.asksFirst_read caller lobby) h] at h
  obtain ⟨t, s⟩ := w
  rw [attempt_read] at h
  split at h
  · cases h
  next row _ =>
  split at h
  · cases hlobby : row.lobby? with
    | error f => rw [hlobby] at h; cases h
    | ok l => rw [hlobby] at h; cases h; exact ⟨_, rfl⟩
  · cases h

/-- A kick commits with nothing to tell. -/
theorem attempt_kick_ok {caller : Caller} {lobby target : Uuid} {closing : Closing Unit}
    (h : w.attempt (rules.conditions []) (.kick caller lobby target) = (.ok closing, w')) :
    closing = .answer (.ok ()) := by
  rw [conditions_of_commit (Operation.asksFirst_kick caller lobby target) h] at h
  obtain ⟨t, s⟩ := w
  rw [attempt_kick] at h
  split at h
  · cases h
  split at h
  · cases h
  split at h
  · split at h
    · cases h; rfl
    · cases h
  · cases h

theorem attempt_setActive_ok {lobby membership : Uuid} {active : Bool} {closing : Closing Unit}
    (h : w.attempt (rules.conditions []) (.setActive lobby membership active) = (.ok closing, w')) :
    closing = .answer (.ok ()) := by
  rw [conditions_of_commit (Operation.asksFirst_setActive lobby membership active) h] at h
  obtain ⟨t, s⟩ := w
  rw [attempt_setActive] at h
  split at h
  · cases h
  split at h
  · cases h; rfl
  · cases h

/-! ## Commands -/

/-- Whether the transaction of a command commits, and the world in which it ends, before anything is
undone. -/
def trial (rules : Rules) (w : World) : Command → Bool × World
  | .create caller => ended (w.attempt (rules.conditions []) (.create rules caller))
  | .join caller typed => ended (w.attempt (rules.conditions []) (.join rules caller typed))
  | .read caller lobby => ended (w.attempt (rules.conditions []) (.read caller lobby))
  | .kick caller lobby target =>
    ended (w.attempt (rules.conditions []) (.kick caller lobby target))
  | .setActive lobby membership active =>
    ended (w.attempt (rules.conditions []) (.setActive lobby membership active))

/-- On sound tables every command is all or nothing. -/
theorem execute_allOrNothing (h : w.tables.Sound) (rules : Rules) (c : Command) :
    w.AllOrNothing (w.trial rules c) (w.execute rules [] c) := by
  cases c with
  | create caller =>
    refine Answers.allOrNothing (fun hrun => ?_) Result.detail
    obtain ⟨d, rfl⟩ := attempt_create_ok hrun
    exact ⟨d, rfl⟩
  | join caller typed =>
    refine Answers.allOrNothing (fun hrun => ?_) Result.detail
    obtain ⟨lobby, d, rfl, hd⟩ := attempt_join_ok h hrun
    have hopen := conditions_of_commit (Operation.asksFirst_join rules caller typed) hrun
    rw [hopen, close_readDetail, hd]
    exact ⟨d, rfl⟩
  | read caller lobby =>
    refine Answers.allOrNothing (fun hrun => ?_) Result.detail
    obtain ⟨d, rfl⟩ := attempt_read_ok hrun
    exact ⟨d, rfl⟩
  | kick caller lobby target =>
    refine Answers.allOrNothing (fun hrun => ?_) fun () => Result.done
    rw [attempt_kick_ok hrun]
    exact ⟨(), rfl⟩
  | setActive lobby membership active =>
    refine Answers.allOrNothing (fun hrun => ?_) fun () => Result.done
    rw [attempt_setActive_ok hrun]
    exact ⟨(), rfl⟩

/-- Whatever has happened before and whatever the rules are, a command that fails changes nothing
but the supplies, which stay drawn as far as its transaction came. A transaction that commits is
answered: the lobby that is told about after creating or joining is always there. -/
theorem failed_command_undone (h : w.tables.Reachable) (rules : Rules) :
    (∀ c f, (w.execute rules [] c).1 = .error f →
      (w.execute rules [] c).2 = ⟨w.tables, (w.trial rules c).2.supply⟩) ∧
    (∀ c, (w.trial rules c).1 = true → ∃ a, (w.execute rules [] c).1 = .ok a) ∧
    (∀ caller closing w',
      w.attempt (rules.conditions []) (.create rules caller) = (.ok closing, w') →
      ∃ d, closing = .answer (Operation.found (some d))) ∧
    (∀ caller typed closing w',
      w.attempt (rules.conditions []) (.join rules caller typed) = (.ok closing, w') →
      ∃ lobby d, closing = .readDetail lobby Operation.found ∧
        w'.tables.detail? lobby = .ok (some d)) :=
  ⟨fun c => (execute_allOrNothing h.sound rules c).1,
    fun c => (execute_allOrNothing h.sound rules c).2,
    fun _ _ _ hrun => attempt_create_ok hrun,
    fun _ _ _ _ hrun => attempt_join_ok h.sound hrun⟩

end World

namespace Sample

/-- Ann's lobby, with supplies that begin again with the random bytes of her code and then give a
membership the identifier of hers. -/
def clashing : World :=
  ⟨opened.tables, { supply with ids := ⟨[.ofNat 77, IdSource.serial 2], 0⟩ }⟩

/-- The sample world whose codes clash can be reached. -/
theorem reachable_clashing : clashing.tables.Reachable := by
  have h : clashing.tables = opened.tables := by rw [clashing]
  rw [h]
  exact reachable_opened

end Sample

open Sample in
/-- Bob's lobby is entered, under a second code, before the identifier of his membership turns out
to be taken, and it is gone when he is told. Joining Ann's lobby instead, he is answered. -/
theorem World.failed_command_undone_late :
    clashing.tables.Reachable ∧
      (clashing.trial {} (.create bob)).2.tables.lobbies.length = 2 ∧
      (clashing.execute {} [] (.create bob)).1 = .error (.broken (.unique .members "id")) ∧
      (clashing.execute {} [] (.create bob)).2 =
        ⟨clashing.tables, (clashing.trial {} (.create bob)).2.supply⟩ ∧
      (clashing.trial {} (.join bob "LMNOPQ")).1 = true ∧
      ∃ a, (clashing.execute {} [] (.join bob "LMNOPQ")).1 = .ok a := by
  obtain ⟨hundone, hanswered, -, -⟩ := World.failed_command_undone reachable_clashing {}
  have hfail : (clashing.execute {} [] (.create bob)).1 =
      .error (.broken (.unique .members "id")) := by
    decide +kernel
  have hcommit : (clashing.trial {} (.join bob "LMNOPQ")).1 = true := by decide +kernel
  exact ⟨reachable_clashing, by decide +kernel, hfail, hundone _ _ hfail, hcommit,
    hanswered _ hcommit⟩

end GameLobby
