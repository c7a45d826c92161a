import GameLobby.Proofs.Running

/-!
# Outages

A question fails when the deadline has passed or a table that it looks at is missing, and then the
operation that has asked it is over (`Program.GivesUp`). So whatever stands in the way of an
operation, it answers as if nothing did, or it fails with an outage (`World.perform_or_outage`): of
an operation that does not, the answer is known from the one equation of the operation.
-/

namespace GameLobby

open Program

/-- A failure that does not come from the tables: the deadline has passed, or a table is missing,
which the search for a join code reports in words of its own. -/
inductive Failure.Outage : Failure → Prop
  | expired : Outage (.timedOut [])
  | missing (table : Table) : Outage (.missingTable table)
  | lookup (table : Table) : Outage (.refused (lookupFailed (.missingTable table)))

section
variable {α β : Type}

namespace Program

/-- A program that ends with an outage once a question is about a missing table. -/
inductive GivesUp : Program α → Prop
  | done (result : Except Failure α) : GivesUp (done result)
  | draw {next : Text → Program α} (further : ∀ code, GivesUp (next code)) : GivesUp (draw next)
  | ask {q : Query} {next : Except Failure q.Reply → Program α}
      (outage : ∀ table, ∃ f : Failure, f.Outage ∧
        next (.error (.missingTable table)) = .done (.error f))
      (further : ∀ reply, GivesUp (next reply)) : GivesUp (ask q next)

namespace GivesUp

/-- A program ends with an outage once a table is missing if what it begins with does so, and what
follows. -/
theorem bind {p : Program α} {f : α → Program β} (hp : p.GivesUp) (hf : ∀ a, (f a).GivesUp) :
    (p >>= f).GivesUp := by
  change (p.bind f).GivesUp
  induction hp with
  | done result =>
    cases result with
    | ok a => exact hf a
    | error e => exact .done _
  | draw _ ih => exact .draw ih
  | ask outage _ ih =>
    refine .ask (fun table => ?_) ih
    obtain ⟨e, he, hnext⟩ := outage table
    exact ⟨e, he, by rw [hnext]; rfl⟩

theorem query (q : Query) : (query q).GivesUp :=
  .ask (fun table => ⟨_, .missing table, rfl⟩) fun reply => .done reply

theorem fail (f : Failure) : (fail f : Program α).GivesUp :=
  .done _

theorem pure (a : α) : (pure a : Program α).GivesUp :=
  .done _

theorem discard {p : Program α} (hp : p.GivesUp) : (discard p).GivesUp :=
  hp.bind fun _ => .pure ()

/-- A value that is needed is there or not, without a question. -/
theorem require (need : Need) (a : Option α) : (require need a).GivesUp := by
  cases a with
  | none => exact .fail _
  | some a => exact .pure a

/-- The search for a join code ends with a failed look-up once a table is missing. -/
theorem claimFrom (attempts left : Nat) : (claimFrom attempts left).GivesUp := by
  induction left with
  | zero => exact .fail _
  | succ left ih =>
    refine .draw fun code => .ask (fun table => ⟨_, .lookup table, rfl⟩) fun reply => ?_
    match reply with
    | .ok false => exact .pure code
    | .ok true => exact ih
    | .error f => exact .fail _

/-- With a bound on its attempts, the search for a join code does so too. -/
theorem claimCode (maxRetries : Int) : (claimCode maxRetries).GivesUp :=
  .bind (.done _) fun n => .claimFrom n n

/-! ## Guards -/

theorem resolveLeader (lobby : Uuid) : (Guard.resolveLeader lobby).GivesUp := by
  refine (query (.leader lobby)).bind fun leader => ?_
  cases leader with
  | none => exact .fail _
  | some leader => exact .pure leader

/-- The check for members ends with an outage once a table is missing. -/
theorem requireMember (caller : Caller) (lobby : Uuid) :
    (Guard.requireMember caller lobby).GivesUp := by
  refine (resolveLeader lobby).bind fun leader => ?_
  split
  · exact .pure leader
  · refine (query _).bind fun member => ?_
    split
    · exact .pure leader
    · exact .fail _

theorem requireLeader (caller : Caller) (lobby : Uuid) :
    (Guard.requireLeader caller lobby).GivesUp := by
  refine (resolveLeader lobby).bind fun leader => ?_
  split
  · exact .pure leader
  · exact .fail _

theorem checkJoin (rules : Rules) (caller : Caller) (code : Text) :
    (Operation.checkJoin rules caller code).GivesUp := by
  refine (query (.lobbyByCode code)).bind fun found => ?_
  cases found with
  | none => exact .fail _
  | some lobby =>
    dsimp only
    split
    · exact .fail _
    refine (query _).bind fun count => (require _ count).bind fun n => ?_
    split
    · exact .fail _
    refine (query _).bind fun member => ?_
    split
    · exact .fail _
    · exact .pure lobby

end GivesUp

end Program

/-! ## The five operations -/

/-- An operation that ends with an outage once a question is about a missing table. -/
def Operation.GivesUp : Operation α → Prop
  | .refused _ => True
  | .transact body => body.GivesUp

namespace Operation

/-- A creation ends with an outage once a table is missing. -/
theorem givesUp_create (rules : Rules) (caller : Caller) : (create rules caller).GivesUp :=
  .bind (.query _) fun _ => .bind (.claimCode _) fun _ => .bind (.query _) fun lobby =>
    .bind (.require _ lobby) fun _ => .bind (.query _) fun _ => .bind (.query _) fun _ => .pure _

theorem givesUp_join (rules : Rules) (caller : Caller) (typed : Text) :
    (join rules caller typed).GivesUp := by
  rw [join]
  cases JoinCode.normalize typed with
  | error r => trivial
  | ok code =>
    exact .bind (.checkJoin rules caller code) fun _ => .bind (.query _) fun _ =>
      .bind (.query _) fun _ => .pure _

theorem givesUp_read (caller : Caller) (lobby : Uuid) : (read caller lobby).GivesUp :=
  .bind (.discard (.requireMember caller lobby)) fun _ => .bind (.query _) fun _ => .pure _

theorem givesUp_kick (caller : Caller) (lobby target : Uuid) :
    (kick caller lobby target).GivesUp := by
  rw [kick]
  split
  · trivial
  refine .bind (.discard (.requireLeader caller lobby)) fun _ => .bind (.query _) fun _ => ?_
  split
  · exact .bind (.query _) fun _ => .pure _
  · exact .fail _

theorem givesUp_setActive (lobby membership : Uuid) (active : Bool) :
    (setActive lobby membership active).GivesUp := by
  refine .bind (.query (.leader lobby)) fun leader => ?_
  cases leader with
  | none => exact .fail _
  | some _ =>
    refine .bind (.query _) fun _ => ?_
    split
    · refine .bind (.query _) fun _ => ?_
      split
      · exact .pure _
      · exact .fail _
    · exact .fail _

end Operation

namespace World

/-! ## Runs -/

/-- A question is answered as if nothing was missing, or a table is. -/
theorem consult_or_missing (missing : List Table) (w : World) (q : Query) :
    w.consult missing q = w.answer q ∨
      ∃ table, (w.consult missing q).1 = .error (.missingTable table) := by
  rw [consult]
  split
  · next table _ => exact .inr ⟨table, rfl⟩
  · exact .inl rfl

/-- A program that gives up runs as if nothing stood in its way, or ends with an outage. -/
theorem runProgram_or_outage {p : Program α} (h : p.GivesUp) (c : Conditions) (w : World) :
    runProgram c p w = runProgram {} p w ∨
      ∃ f : Failure, f.Outage ∧ (runProgram c p w).1 = .error f := by
  induction h generalizing w with
  | done result => exact .inl rfl
  | draw _ ih => exact ih _ _
  | @ask q next outage _ ih =>
    cases hexp : c.expired with
    | true =>
      rw [runProgram_ask_expired hexp]
      exact .inr ⟨_, .expired, rfl⟩
    | false =>
      have hrun : runProgram c (.ask q next) w =
          runProgram c (next (w.consult c.missing q).1) (w.consult c.missing q).2 := by
        rw [runProgram, hexp]
        rfl
      rw [hrun]
      rcases consult_or_missing c.missing w q with hsame | ⟨table, hmissing⟩
      · have hask : runProgram {} (.ask q next) w =
            runProgram {} (next (w.answer q).1) (w.answer q).2 := runProgram_ask rfl
        rw [hsame, hask]
        exact ih _ _
      · obtain ⟨f, hf, hnext⟩ := outage table
        rw [hmissing, hnext]
        exact .inr ⟨f, hf, rfl⟩

/-- What is read after a commit is there, or a table is missing. -/
theorem close_or_outage (c : Conditions) (w : World) (closing : Closing α) :
    w.close c closing = w.close {} closing ∨
      ∃ f : Failure, f.Outage ∧ w.close c closing = .error f := by
  cases closing with
  | answer result => exact .inl rfl
  | readDetail lobby next =>
    rw [close, close, consult_nil]
    rcases consult_or_missing c.missing w (.detail lobby) with hsame | ⟨table, hmissing⟩
    · rw [hsame]
      exact .inl rfl
    · rw [hmissing]
      exact .inr ⟨_, .missing table, rfl⟩

/-- An operation that gives up answers as if nothing stood in its way, or fails with an outage. -/
theorem perform_or_outage {op : Operation α} (h : op.GivesUp) (c : Conditions) (w : World) :
    (w.perform c op).1 = (w.perform {} op).1 ∨
      ∃ f : Failure, f.Outage ∧ (w.perform c op).1 = .error f := by
  cases op with
  | refused r => exact .inl rfl
  | transact body =>
    rcases runProgram_or_outage h c w with hsame | ⟨f, hf, hfail⟩
    · rw [perform, perform, hsame]
      cases runProgram {} body w with | mk r w' =>
      cases r with
      | error f => exact .inl rfl
      | ok closing => exact close_or_outage c w' closing
    · refine .inr ⟨f, hf, ?_⟩
      rw [perform]
      cases hrun : runProgram c body w with | mk r w' =>
      rw [hrun] at hfail
      obtain rfl : r = .error f := hfail
      rfl

end World

end

end GameLobby
