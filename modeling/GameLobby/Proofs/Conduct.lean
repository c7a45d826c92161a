import GameLobby.Proofs.Trouble

/-!
# How a command goes on any store

On a store that answers as it likes a command goes in one of five ways (`Script.Course`): it is
refused outright, its transaction is undone at the first question in trouble, or the transaction
commits after questions none of which is in trouble. What is answered after a commit depends on the
command. A kick or the setting of an active flag is done; a creation or a reading tells what it has
read of the lobby inside the transaction; and a join reads the lobby once more.
-/

namespace GameLobby

open Program

/-- A command that is refused before anything happens: a join by a code that has not the length of
one, or a kick of oneself. -/
def Command.RefusedOutright : Command → Prop
  | .join _ typed => typed.length ≠ JoinCode.size
  | .kick caller _ target => target = caller.userId
  | _ => False

namespace Script

variable {α : Type} {s : Script} {rules : Rules} {c : Command}

/-- What a join tells of a lobby that it reads behind some events. -/
def reread (s : Script) (past : List Event) (lobby : Uuid) : Except Failure LobbyDetail :=
  match s.tellDetail past lobby with
  | .answers detail => Operation.found detail
  | .fails f => .error f
  | .hangs => .error expired

/-- The ways in which a command goes on a script: what is answered, and the trace. -/
inductive Course (s : Script) (rules : Rules) (c : Command) :
    Except Failure Result → List Event → Prop
  | refused (r : Refusal) (outright : c.RefusedOutright) :
      Course s rules c (.error (.refused r)) []
  | undone {past : List Event} {q : Query} {f : Failure} (admitted : ¬ c.RefusedOutright)
      (smooth : s.Smooth rules c past) (wrong : s.trouble rules c past q = some f) :
      Course s rules c (.error f) (past ++ [.asked q] ++ [.rolledBack])
  | done {past : List Event} (admitted : ¬ c.RefusedOutright) (smooth : s.Smooth rules c past)
      (silent : c.operation = .kick ∨ c.operation = .setActive) :
      Course s rules c (.ok .done) (past ++ [.committed])
  /-- What the transaction has read of the lobby as its last question is told after the commit. -/
  | told {past : List Event} {lobby : Uuid} {detail : Option LobbyDetail}
      (admitted : ¬ c.RefusedOutright)
      (smooth : s.Smooth rules c (past ++ [.asked (.detail lobby)]))
      (telling : c.operation = .create ∨ c.operation = .read)
      (answered : s.tell past (.detail lobby) = .answers detail) :
      Course s rules c ((Operation.found detail).map .detail)
        (past ++ [.asked (.detail lobby)] ++ [.committed])
  /-- The lobby is read once more after the commit. -/
  | reread {past : List Event} (lobby : Uuid) (admitted : ¬ c.RefusedOutright)
      (smooth : s.Smooth rules c past) (join : c.operation = .join) :
      Course s rules c ((s.reread (past ++ [.committed]) lobby).map .detail)
        (past ++ [.committed] ++ [.read lobby])

/-- An operation whose transaction attends to trouble, or which is refused outright where its
command is. What it commits is as `post` says. -/
inductive Careful (s : Script) (rules : Rules) (c : Command)
    (post : List Event → Closing α → Prop) : Operation α → Prop
  | refused (r : Refusal) (outright : c.RefusedOutright) : Careful s rules c post (.refused r)
  | transact {body : Program (Closing α)} (admitted : ¬ c.RefusedOutright)
      (attends : s.Attends rules c post [.began] body) : Careful s rules c post (.transact body)

/-- A careful operation goes in one of the ways if what it commits does. -/
theorem Careful.course {post : List Event → Closing α → Prop} {op : Operation α}
    (h : s.Careful rules c post op) {g : α → Result}
    (hclose : ∀ trace closing, ¬ c.RefusedOutright → s.Smooth rules c trace → post trace closing →
      s.Course rules c ((s.close closing (trace ++ [.committed])).1.map g)
        (s.close closing (trace ++ [.committed])).2) (e : Entropy) :
    s.Course rules c ((s.run op e).1.map g) (s.run op e).2 := by
  cases h with
  | refused r outright => exact .refused r outright
  | @transact body admitted attends =>
    have hends := attends.ends smooth_began e
    rw [run]
    cases hrun : s.runProgram body [.began] e with | mk r rest =>
    obtain ⟨trace, e'⟩ := rest
    rw [hrun] at hends
    cases hends with
    | well smooth holds => exact hclose _ _ admitted smooth holds
    | badly smooth wrong => exact .undone admitted smooth wrong

/-! ## Ending memberships -/

/-- The check for the leader attends to trouble. -/
theorem attends_requireLeader (caller : Caller) (lobby target : Uuid) (past : List Event) :
    s.Attends rules (.kick caller lobby target) (fun _ _ => True) past
      (Guard.requireLeader caller lobby) := by
  refine .check (fun _ => rfl) fun answer => ?_
  cases answer with
  | none => exact .inl ⟨_, rfl, rfl⟩
  | some leader =>
    by_cases hlead : caller.userId = leader
    · refine .inr ⟨if_pos hlead, fun _ => ?_⟩
      change Attends _ _ _ _ _ (if caller.userId = leader then _ else _)
      rw [if_pos hlead]
      exact .done trivial
    · exact .inl ⟨_, if_neg hlead, if_neg hlead⟩

/-- A kick attends to trouble, and commits with nothing to tell. -/
theorem careful_kick (caller : Caller) (lobby target : Uuid) :
    s.Careful rules (.kick caller lobby target) (fun _ closing => closing = .answer (.ok ()))
      (.kick caller lobby target) := by
  rw [Operation.kick]
  by_cases hself : target = caller.userId
  · rw [if_pos hself]
    exact .refused _ hself
  rw [if_neg hself]
  refine .transact hself ((attends_requireLeader caller lobby target _).discard.bind fun _ => ?_)
  refine .check (fun _ => rfl) fun there => ?_
  cases there with
  | false => exact .inl ⟨_, rfl, rfl⟩
  | true =>
    refine .inr ⟨rfl, fun _ => ?_⟩
    exact (attends_query (fun _ => rfl) fun _ => rfl).bind fun _ => .done rfl

/-- A change of the active flag attends to trouble, and commits with nothing to tell. -/
theorem careful_setActive (lobby membership : Uuid) (active : Bool) :
    s.Careful rules (.setActive lobby membership active)
      (fun _ closing => closing = .answer (.ok ())) (.setActive lobby membership active) := by
  refine .transact id (.check (fun _ => rfl) fun leader => ?_)
  cases leader with
  | none => exact .inl ⟨_, rfl, rfl⟩
  | some leader =>
    refine .inr ⟨rfl, fun _ => .check (fun _ => rfl) fun there => ?_⟩
    cases there with
    | false => exact .inl ⟨_, rfl, rfl⟩
    | true =>
      refine .inr ⟨rfl, fun _ => .check (fun _ => rfl) fun found => ?_⟩
      cases found with
      | false => exact .inl ⟨_, rfl, rfl⟩
      | true => exact .inr ⟨rfl, fun _ => .done rfl⟩

/-! ## Telling of a lobby -/

/-- A transaction whose last question is about the detail of a lobby closes with the answer to
it. -/
def ClosesWithDetail (s : Script) (trace : List Event) (closing : Closing LobbyDetail) : Prop :=
  ∃ past lobby detail, trace = past ++ [.asked (.detail lobby)] ∧
    s.tell past (.detail lobby) = .answers detail ∧ closing = .answer (Operation.found detail)

/-- A last question for the detail of a lobby attends to trouble, and its answer is told after the
commit. -/
theorem attends_detail {past : List Event} {lobby : Uuid}
    (hobjects : ∀ a, c.objection rules past (.detail lobby) a = none) :
    s.Attends rules c s.ClosesWithDetail past (do
      let detail ← query (.detail lobby)
      pure (.answer (Operation.found detail))) := by
  refine (attends_query (fun _ => rfl) hobjects).bind fun {trace detail} h => .done ?_
  exact ⟨past, lobby, detail, h.1, h.2, rfl⟩

/-- The check for members attends to trouble. -/
theorem attends_requireMember (caller : Caller) (lobby : Uuid) (past : List Event) :
    s.Attends rules (.read caller lobby) (fun _ _ => True) past
      (Guard.requireMember caller lobby) := by
  refine .check (fun _ => rfl) fun answer => ?_
  cases answer with
  | none => exact .inl ⟨_, rfl, rfl⟩
  | some leader =>
    refine .inr ⟨rfl, fun _ => ?_⟩
    change Attends _ _ _ _ _ (if caller.userId = leader then _ else _)
    split
    · exact .done trivial
    · refine .check (fun _ => rfl) fun there => ?_
      cases there with
      | false => exact .inl ⟨_, rfl, rfl⟩
      | true => exact .inr ⟨rfl, fun _ => .done trivial⟩

/-- A read attends to trouble. -/
theorem careful_read (caller : Caller) (lobby : Uuid) :
    s.Careful rules (.read caller lobby) s.ClosesWithDetail (.read caller lobby) :=
  .transact id ((attends_requireMember caller lobby _).discard.bind fun _ =>
    attends_detail fun _ => rfl)

/-! ## Joining -/

/-- The checks before a join attend to trouble. -/
theorem attends_checkJoin (caller : Caller) (typed code : Text) (past : List Event) :
    s.Attends rules (.join caller typed) (fun _ _ => True) past
      (Operation.checkJoin rules caller code) := by
  refine .check (fun _ => rfl) fun answer => ?_
  cases answer with
  | none => exact .inl ⟨_, rfl, rfl⟩
  | some lobby =>
    cases hjoin : lobby.isJoinable with
    | false => exact .inl ⟨_, if_neg (Bool.eq_false_iff.1 hjoin), if_pos (by rw [hjoin]; rfl)⟩
    | true =>
      refine .inr ⟨if_pos hjoin, fun _ => ?_⟩
      change Attends _ _ _ _ _ (if !lobby.isJoinable then _ else _)
      rw [if_neg (by rw [hjoin]; exact Bool.false_ne_true)]
      refine .check (fun _ => rfl) fun count => ?_
      cases count with
      | none => exact .inl ⟨_, rfl, rfl⟩
      | some count =>
        by_cases hfull : rules.maxPlayers ≤ count
        · exact .inl ⟨_, if_pos hfull, if_pos hfull⟩
        · refine .inr ⟨if_neg hfull, fun _ => ?_⟩
          change Attends _ _ _ _ _ (if rules.maxPlayers ≤ count then _ else _)
          rw [if_neg hfull]
          refine .check (fun _ => rfl) fun there => ?_
          cases there with
          | false => exact .inr ⟨rfl, fun _ => .done trivial⟩
          | true => exact .inl ⟨_, rfl, rfl⟩

/-- A join attends to trouble, and commits to reading the lobby again. -/
theorem careful_join (caller : Caller) (typed : Text) :
    s.Careful rules (.join caller typed)
      (fun _ closing => ∃ lobby, closing = .readDetail lobby Operation.found)
      (.join rules caller typed) := by
  rw [Operation.join, JoinCode.normalize]
  by_cases hlength : typed.length = JoinCode.size
  · rw [if_pos hlength]
    refine .transact (not_not_intro hlength) ((attends_checkJoin caller typed _ _).bind ?_)
    intro _ lobby _
    refine (attends_query (fun _ => rfl) fun _ => rfl).bind fun _ => ?_
    refine (attends_query (fun _ => rfl) fun _ => rfl).bind fun _ => .done ?_
    exact ⟨lobby.id, rfl⟩
  · rw [if_neg hlength]
    exact .refused _ hlength

/-! ## Creating -/

/-- There is an objection to a candidate if it is taken and the attempts are used up. -/
theorem objection_codeExists (caller : Caller) (past : List Event) (code : Text) (taken : Bool) :
    (Command.create caller).objection rules past (.codeExists code) taken =
      if taken ∧ rules.maxRetries ≤ past.countP Event.isLookup + 1 then
        some (.refused (allTaken rules.maxRetries.toNat))
      else none :=
  rfl

/-- The search for a join code ends with the objection to its last candidate, which is known by how
many candidates have been looked up. -/
theorem attends_claimFrom (caller : Caller) {n left : Nat} (hn : rules.maxRetries = n)
    (hleft : 0 < left) {past : List Event} (hcount : past.countP Event.isLookup + left = n) :
    s.Attends rules (.create caller) (fun _ _ => True) past (claimFrom n left) := by
  induction left generalizing past with
  | zero => cases hleft
  | succ left ih =>
    refine .draw fun code => .check (fun _ => rfl) fun taken => ?_
    cases taken with
    | false =>
      refine .inr ⟨?_, fun _ => .done trivial⟩
      rw [objection_codeExists, if_neg fun h => Bool.false_ne_true h.1]
    | true =>
      rw [objection_codeExists]
      by_cases hlast : left = 0
      · subst hlast
        have hall : rules.maxRetries ≤ past.countP Event.isLookup + 1 := by omega
        refine .inl ⟨_, if_pos ⟨rfl, hall⟩, ?_⟩
        rw [hn]
        rfl
      · have hmore : ¬ rules.maxRetries ≤ past.countP Event.isLookup + 1 := by omega
        refine .inr ⟨if_neg fun h => hmore h.2, fun _ => ih (by omega) ?_⟩
        have hone : [Event.asked (.codeExists code)].countP Event.isLookup = 1 := rfl
        rw [List.countP_append]
        omega

/-- A creation attends to trouble. That no attempt is allowed shows before the first candidate is
drawn, but only after its caller has been entered. -/
theorem careful_create (caller : Caller) :
    s.Careful rules (.create caller) s.ClosesWithDetail (.create rules caller) := by
  refine .transact id (.check (fun _ => rfl) fun _ => ?_)
  by_cases hnone : rules.maxRetries < 1
  · refine .inl ⟨_, if_pos hnone, ?_⟩
    have hattempts : attempts rules.maxRetries = .error .noAttempts := if_pos hnone
    change ((done (attempts rules.maxRetries)).bind fun n => claimFrom n n).bind _ = _
    rw [hattempts]
    rfl
  · refine .inr ⟨if_neg hnone, fun _ => ?_⟩
    have hattempts : attempts rules.maxRetries = .ok rules.maxRetries.toNat := if_neg hnone
    change Attends _ _ _ _ _
      (((done (attempts rules.maxRetries)).bind fun n => claimFrom n n).bind _)
    rw [hattempts]
    refine (attends_claimFrom caller (by omega) (by omega)
      (by simp [Event.isLookup])).bind fun _ => ?_
    refine .check (fun _ => rfl) fun lobby => ?_
    cases lobby with
    | none => exact .inl ⟨_, rfl, rfl⟩
    | some lobby =>
      refine .inr ⟨rfl, fun _ => ?_⟩
      refine (attends_query (fun _ => rfl) fun _ => rfl).bind fun _ => attends_detail fun _ => rfl

/-! ## Every command -/

/-- What is read again after the commit is the last thing that happens. -/
theorem close_readDetail (lobby : Uuid) (trace : List Event) :
    s.close (.readDetail lobby Operation.found) trace =
      (s.reread trace lobby, trace ++ [.read lobby]) := by
  rw [close, Script.reread]
  cases s.tellDetail trace lobby <;> rfl

/-- A creation or a read that meets no trouble tells what its last question was answered with. -/
theorem course_detail (htelling : c.operation = .create ∨ c.operation = .read) (trace : List Event)
    (closing : Closing LobbyDetail) (hadmitted : ¬ c.RefusedOutright)
    (hsmooth : s.Smooth rules c trace) (hclosing : s.ClosesWithDetail trace closing) :
    s.Course rules c ((s.close closing (trace ++ [.committed])).1.map .detail)
      (s.close closing (trace ++ [.committed])).2 := by
  obtain ⟨past, lobby, detail, rfl, htell, rfl⟩ := hclosing
  exact .told hadmitted hsmooth htelling htell

/-- A kick or a change of the active flag that meets no trouble has nothing to tell. -/
theorem course_silent (hsilent : c.operation = .kick ∨ c.operation = .setActive)
    (trace : List Event) (closing : Closing Unit) (hadmitted : ¬ c.RefusedOutright)
    (hsmooth : s.Smooth rules c trace) (hclosing : closing = .answer (.ok ())) :
    s.Course rules c ((s.close closing (trace ++ [.committed])).1.map fun () => Result.done)
      (s.close closing (trace ++ [.committed])).2 := by
  subst hclosing
  exact .done hadmitted hsmooth hsilent

/-- Every command goes in one of the ways. -/
theorem execute_course (s : Script) (rules : Rules) (c : Command) (e : Entropy) :
    s.Course rules c (s.execute rules c e).1 (s.execute rules c e).2 := by
  cases c with
  | create caller => exact (careful_create caller).course (course_detail (.inl rfl)) e
  | join caller typed =>
    refine (careful_join caller typed).course (fun trace closing hadmitted hsmooth hclosing => ?_) e
    obtain ⟨lobby, rfl⟩ := hclosing
    rw [close_readDetail]
    exact .reread lobby hadmitted hsmooth rfl
  | read caller lobby => exact (careful_read caller lobby).course (course_detail (.inr rfl)) e
  | kick caller lobby target =>
    exact (careful_kick caller lobby target).course (course_silent (.inl rfl)) e
  | setActive lobby membership active =>
    exact (careful_setActive lobby membership active).course (course_silent (.inr rfl)) e

end Script

end GameLobby
