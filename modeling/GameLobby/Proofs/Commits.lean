import GameLobby.Proofs.Failures
import GameLobby.Proofs.Moves

/-!
# What a command commits

On tables as a database holds them, whichever of them are missing, a command changes nothing or is
answered and leaves tables that a database can hold (`World.execute_kept`). What could come between
a commit and its answer is a missing table. Only a join reads after its commit, and by then it has
asked about each of the tables (`Operation.consults_join`), so none of them is missing.
-/

namespace GameLobby

open Program

section
variable {α β : Type} {table : Table}

/-! ## Tables that have been asked about -/

namespace Program

/-- A program that ends well only with an answer in hand, or after a question about a table. -/
inductive Consults (table : Table) : Program (Closing α) → Prop
  | fail (f : Failure) : Consults table (done (.error f))
  | answer (result : Except Failure α) : Consults table (done (.ok (.answer result)))
  | draw {next : Text → Program (Closing α)} (further : ∀ code, Consults table (next code)) :
      Consults table (draw next)
  | about {q : Query} {next : Except Failure q.Reply → Program (Closing α)}
      (looks : ∀ w : World, table ∈ w.looksAt q) : Consults table (ask q next)
  | ask {q : Query} {next : Except Failure q.Reply → Program (Closing α)}
      (further : ∀ reply, Consults table (next reply)) : Consults table (ask q next)

/-- What a program begins with does not matter if whatever follows commits in this way. -/
theorem Consults.bind {p : Program β} {f : β → Program (Closing α)}
    (hf : ∀ b, (f b).Consults table) : (p >>= f).Consults table := by
  change (p.bind f).Consults table
  induction p with
  | done result =>
    cases result with
    | ok b => exact hf b
    | error e => exact .fail e
  | draw _ ih => exact .draw ih
  | ask q _ ih => exact .ask ih

end Program

namespace Operation

/-- An operation whose transaction commits only with an answer in hand, or after a question about a
table. -/
def Consults (table : Table) : Operation α → Prop
  | .refused _ => True
  | .transact body => body.Consults table

/-- A creation has its answer in hand when it commits. -/
theorem consults_create (rules : Rules) (caller : Caller) : (create rules caller).Consults table :=
  .bind fun _ => .bind fun _ => .bind fun _ => .bind fun _ => .bind fun _ => .bind fun _ =>
    .answer _

/-- A join asks about the lobby, then enters the user and the membership. -/
theorem consults_join (rules : Rules) (caller : Caller) (typed : Text) :
    (join rules caller typed).Consults table := by
  rw [join]
  cases JoinCode.normalize typed with
  | error r => trivial
  | ok code =>
    cases table with
    | lobbies => exact .about fun _ => .head _
    | users => exact .bind fun _ => .about fun _ => .head _
    | members => exact .bind fun _ => .bind fun _ => .about fun _ => .head _

theorem consults_read (caller : Caller) (lobby : Uuid) : (read caller lobby).Consults table :=
  .bind fun _ => .bind fun _ => .answer _

theorem consults_kick (caller : Caller) (lobby target : Uuid) :
    (kick caller lobby target).Consults table := by
  rw [kick]
  split
  · trivial
  refine .bind fun _ => .bind fun _ => ?_
  split
  · exact .bind fun _ => .answer _
  · exact .fail _

theorem consults_setActive (lobby membership : Uuid) (active : Bool) :
    (setActive lobby membership active).Consults table := by
  refine .bind fun leader => ?_
  cases leader with
  | none => exact .fail _
  | some _ =>
    refine .bind fun _ => ?_
    split
    · refine .bind fun _ => ?_
      split
      · exact .answer _
      · exact .fail _
    · exact .fail _

end Operation

/-! ## Commits without an outage behind them -/

namespace World

variable {c : Conditions}

/-- A question about a missing table fails. -/
theorem consult_of_missing {missing : List Table} {w : World} {q : Query}
    (hlooks : table ∈ w.looksAt q) (hmissing : table ∈ missing) :
    ∃ other, (w.consult missing q).1 = .error (.missingTable other) := by
  have hsome : ((w.looksAt q).find? (missing.contains ·)).isSome :=
    List.find?_isSome.2 ⟨table, hlooks, by simpa using hmissing⟩
  obtain ⟨other, hother⟩ := Option.isSome_iff_exists.1 hsome
  exact ⟨other, by rw [consult, hother]⟩

/-- A program that ends well, and not with an answer in hand, has asked about no missing table. -/
theorem answer_of_missing {body : Program (Closing α)} (hgives : body.GivesUp)
    (hconsults : body.Consults table) (hmissing : table ∈ c.missing) {w w' : World}
    {closing : Closing α} (hrun : runProgram c body w = (.ok closing, w')) :
    ∃ result, closing = .answer result := by
  have hopen : ∀ {q : Query} {next : Except Failure q.Reply → Program (Closing α)} {w : World},
      runProgram c (.ask q next) w = (.ok closing, w') →
      runProgram c (next (w.consult c.missing q).1) (w.consult c.missing q).2 =
        (.ok closing, w') := by
    intro q next w hrun
    rw [runProgram] at hrun
    split at hrun
    · cases hrun
    · exact hrun
  induction hconsults generalizing w with
  | fail f => cases hrun
  | answer result =>
    cases hrun
    exact ⟨result, rfl⟩
  | draw _ ih =>
    cases hgives with
    | draw further => exact ih _ (further _) hrun
  | about looks =>
    cases hgives with
    | ask outage _ =>
      have hrun := hopen hrun
      obtain ⟨other, hother⟩ := consult_of_missing (looks w) hmissing
      obtain ⟨f, -, hnext⟩ := outage other
      rw [hother, hnext] at hrun
      cases hrun
  | ask _ ih =>
    cases hgives with
    | ask _ further => exact ih _ (further _) (hopen hrun)

/-- After a commit nothing stands in the way of the answer. -/
theorem close_of_commit {body : Program (Closing α)} (hgives : body.GivesUp)
    (hconsults : ∀ table, body.Consults table) {w w' : World} {closing : Closing α}
    (hrun : runProgram c body w = (.ok closing, w')) :
    w'.close c closing = w'.close {} closing := by
  cases closing with
  | answer result => rfl
  | readDetail lobby next =>
    have hpresent : c.missing = [] := List.eq_nil_iff_forall_not_mem.2 fun table hmissing => by
      obtain ⟨_, hanswer⟩ := answer_of_missing hgives (hconsults table) hmissing hrun
      cases hanswer
    rw [close, close, hpresent]

/-- An operation does what it does when nothing stands in its way, or fails and changes nothing. -/
theorem perform_or_undone {op : Operation α} (hgives : op.GivesUp)
    (hconsults : ∀ table, op.Consults table) (c : Conditions) (w : World) :
    w.perform c op = w.perform {} op ∨
      ∃ f, (w.perform c op).1 = .error f ∧ (w.perform c op).2.tables = w.tables := by
  cases op with
  | refused r => exact .inl rfl
  | transact body =>
    rw [perform, perform]
    cases hrun : runProgram c body w with | mk r w' =>
    cases r with
    | error f => exact .inr ⟨f, rfl, rfl⟩
    | ok closing =>
      rcases runProgram_or_outage hgives c w with hsame | ⟨f, -, hfail⟩
      · have hclose := close_of_commit hgives hconsults hrun
        rw [← hsame, hrun]
        dsimp only
        rw [hclose]
        exact .inl rfl
      · rw [hrun] at hfail
        cases hfail

end World

end

/-! ## What stays storable -/

namespace Tables.Storable

variable {t : Tables}

theorem empty : Storable .empty :=
  ⟨.nil, nofun, nofun⟩

/-- One more user whose name has no surrogate can be stored. -/
theorem putUser (h : t.Storable) {u : UserRow} (hname : ¬ u.username.HasSurrogate) :
    (t.putUser u).Storable where
  lobbyIds := by rw [putUser_lobbies]; exact h.lobbyIds
  joinCodes := by rw [putUser_lobbies]; exact h.joinCodes
  usernames := forall_users_putUser h.usernames hname

/-- One more lobby with a new identifier and a code without surrogates can be stored. -/
theorem addLobby (h : t.Storable) {l : LobbyRow} (hid : ¬ (t.lobby? l.id).isSome)
    (hcode : ¬ l.joinCode.HasSurrogate) : (t.addLobby l).Storable where
  lobbyIds := by
    have hnew : l.id ∉ t.lobbies.map (·.id) :=
      lobby?_eq_none_iff.1 (Option.not_isSome_iff_eq_none.1 hid)
    exact nodup_map_concat h.lobbyIds hnew
  joinCodes := by
    intro k hk
    rcases List.mem_append.1 hk with hk | hk
    · exact h.joinCodes k hk
    · rw [List.mem_singleton.1 hk]
      exact hcode
  usernames := h.usernames

/-- Memberships have no part in what can be stored. -/
theorem addMember (h : t.Storable) (m : MemberRow) : (t.addMember m).Storable :=
  ⟨h.lobbyIds, h.joinCodes, h.usernames⟩

theorem updateMembers (h : t.Storable) (p : MemberRow → Bool) (f : MemberRow → MemberRow) :
    (t.updateMembers p f).Storable :=
  ⟨h.lobbyIds, h.joinCodes, h.usernames⟩

theorem setStatus (h : t.Storable) (lobby : Uuid) (status : Text) :
    (t.setStatus lobby status).Storable where
  lobbyIds := by
    rw [map_lobbies_setStatus _ _ _ _ fun _ => rfl]
    exact h.lobbyIds
  joinCodes := by
    intro l hl
    obtain ⟨k, hk, rfl⟩ := List.mem_map.1 hl
    split <;> exact h.joinCodes k hk
  usernames := h.usernames

end Tables.Storable

/-! ## The five operations -/

namespace World

section
variable {α : Type} {t : Tables} {r : Except Failure α × World}

/-- Either the tables are the same, or there is an answer and they can be stored. -/
def Kept (t : Tables) (r : Except Failure α × World) : Prop :=
  r.2.tables = t ∨ (∃ a, r.1 = .ok a) ∧ r.2.tables.Storable

/-- A failure that is kept to a transaction leaves the tables as they are. -/
theorem Kept.tables_of_error (h : Kept t r) {f : Failure} (hfail : r.1 = .error f) :
    r.2.tables = t := by
  rcases h with hsame | ⟨⟨a, ha⟩, -⟩
  · exact hsame
  · rw [hfail] at ha
    cases ha

/-- Whatever comes of an operation that is kept to a transaction, a database can hold the tables. -/
theorem Kept.storable (h : Kept t r) (hstored : t.Storable) : r.2.tables.Storable := by
  rcases h with hsame | ⟨-, hkept⟩
  · rw [hsame]
    exact hstored
  · exact hkept

theorem Kept.map {β : Type} (h : Kept t r) (g : α → β) : Kept t (r.1.map g, r.2) := by
  rcases h with hsame | ⟨⟨a, ha⟩, hkept⟩
  · exact .inl hsame
  · exact .inr ⟨⟨g a, by rw [ha]; rfl⟩, hkept⟩

end

variable {t : Tables}

/-- A creation that fails leaves the tables as they are, and one that succeeds leaves tables that
can be stored. -/
theorem perform_create_kept (h : t.Storable) (s : Supply) (rules : Rules) (caller : Caller) :
    Kept t (perform {} (.create rules caller) ⟨t, s⟩) := by
  rw [perform_create]
  split
  · exact .inl rfl
  next hname =>
  split
  · exact .inl rfl
  split
  · exact .inl rfl
  next code e hfree =>
  split
  · exact .inl rfl
  next hlobby =>
  split
  · exact .inl rfl
  obtain ⟨e₀, hcode⟩ := Tables.freeCode_eq_random hfree
  have hplain : ¬ Text.HasSurrogate code := by
    rw [hcode, ← encodable_iff]
    exact JoinCode.encodable_random JoinCode.size e₀
  have huser : (t.putUser ⟨caller.userId, caller.username, s.time 0⟩).Storable :=
    h.putUser ((encodable_iff _).1 hname)
  refine .inr ⟨⟨_, rfl⟩, (huser.addLobby ?_ hplain).addMember _⟩
  rw [Tables.lobby?, Tables.putUser_lobbies]
  exact hlobby

/-- So does a join. The lobby that its caller is admitted to is read again after the commit, and
found. -/
theorem perform_join_kept (h : t.Storable) (s : Supply) (rules : Rules) (caller : Caller)
    (typed : Text) :
    Kept t (perform {} (.join rules caller typed) ⟨t, s⟩) := by
  rw [perform_join]
  split
  · exact .inl rfl
  split
  · exact .inl rfl
  next lobby hadmission =>
  split
  · exact .inl rfl
  next hname =>
  split
  · exact .inl rfl
  refine .inr ⟨⟨_, by rw [h.detail?_withPlayer hadmission]; rfl⟩, ?_⟩
  exact (h.putUser ((encodable_iff _).1 hname)).addMember _

theorem perform_kick_kept (h : t.Storable) (s : Supply) (caller : Caller) (lobby target : Uuid) :
    Kept t (perform {} (.kick caller lobby target) ⟨t, s⟩) := by
  rw [perform_kick]
  split
  · exact .inl rfl
  split
  · exact .inl rfl
  split
  · split
    · exact .inr ⟨⟨_, rfl⟩, h.updateMembers _ _⟩
    · exact .inl rfl
  · exact .inl rfl

theorem perform_setActive_kept (h : t.Storable) (s : Supply) (lobby membership : Uuid)
    (active : Bool) :
    Kept t (perform {} (.setActive lobby membership active) ⟨t, s⟩) := by
  rw [perform_setActive]
  split
  · exact .inl rfl
  split
  · exact .inr ⟨⟨_, rfl⟩, h.updateMembers _ _⟩
  · exact .inl rfl

/-! ## Commands -/

/-- A command does what it does without a deadline and a missing table, or it changes nothing. -/
theorem execute_or_undone (rules : Rules) (missing : List Table) (w : World) (c : Command) :
    w.execute rules missing c = w.execute { rules with timeout := none } [] c ∨
      (w.execute rules missing c).2.tables = w.tables := by
  have hopen {α : Type} {op : Operation α} (g : α → Result) (hgives : op.GivesUp)
      (hconsults : ∀ table, op.Consults table) :
      let r := w.perform (rules.conditions missing) op
      (r.1.map g, r.2) = ((w.perform {} op).1.map g, (w.perform {} op).2) ∨
        r.2.tables = w.tables := by
    intro r
    rcases perform_or_undone hgives hconsults (rules.conditions missing) w with
      hsame | ⟨_, -, hundone⟩
    · exact .inl (by rw [← hsame])
    · exact .inr hundone
  cases c with
  | create caller =>
    exact hopen _ (Operation.givesUp_create rules caller)
      fun _ => Operation.consults_create rules caller
  | join caller typed =>
    exact hopen _ (Operation.givesUp_join rules caller typed)
      fun _ => Operation.consults_join rules caller typed
  | read caller lobby =>
    exact hopen _ (Operation.givesUp_read caller lobby)
      fun _ => Operation.consults_read caller lobby
  | kick caller lobby target =>
    exact hopen _ (Operation.givesUp_kick caller lobby target)
      fun _ => Operation.consults_kick caller lobby target
  | setActive lobby membership active =>
    exact hopen _ (Operation.givesUp_setActive lobby membership active)
      fun _ => Operation.consults_setActive lobby membership active

/-- Reading changes no table, whatever stands in its way. -/
theorem execute_read_tables (rules : Rules) (missing : List Table) (w : World) (caller : Caller)
    (lobby : Uuid) : (w.execute rules missing (.read caller lobby)).2.tables = w.tables := by
  rcases execute_or_undone rules missing w (.read caller lobby) with hsame | hundone
  · rw [hsame]
    exact perform_read_tables w.tables w.supply caller lobby
  · exact hundone

/-- On storable tables, a command changes nothing, or it is answered and the tables can be
stored. -/
theorem execute_kept {w : World} (h : w.tables.Storable) (rules : Rules) (missing : List Table)
    (c : Command) : Kept w.tables (w.execute rules missing c) := by
  rcases execute_or_undone rules missing w c with hsame | hundone
  case inr => exact .inl hundone
  rw [hsame]
  cases c with
  | create caller => exact (perform_create_kept h _ rules caller).map _
  | join caller typed => exact (perform_join_kept h _ rules caller typed).map _
  | read caller lobby => exact .inl (execute_read_tables _ _ w caller lobby)
  | kick caller lobby target => exact (perform_kick_kept h _ caller lobby target).map _
  | setActive lobby membership active =>
    exact (perform_setActive_kept h _ lobby membership active).map _

end World

end GameLobby
