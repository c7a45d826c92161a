import GameLobby.Proofs.Discipline

/-!
# Every write has its warrant

A command checks before it writes, and it checks in the transaction in which it writes. So on a
store that answers as it likes, a question that writes stands behind answers that warrant it
(`Script.Warranted`): a membership is ended by a leader who has been told to be one, a seat is taken
where the store has told of a free one, and a lobby is entered under the code whose look-up came
last and found it free. The two guards write nothing at all.

A warrant is about one question and the events before it. `Script.Lawful` says of a program that it
writes under a law of that kind only, by one rule for each construct, and `Lawful.upholds` is the
only place where a program is run.
-/

namespace GameLobby

open Program

namespace Script

variable {α β : Type} {s : Script} {rules : Rules} {c : Command}
  {law : List Event → Query → Prop} {trace past : List Event} {q : Query}

/-! ## Answers of the past -/

/-- A question among the events has been answered in this way. -/
def Told (s : Script) (past : List Event) (q : Query) (a : q.Reply) : Prop :=
  ∃ before, before ++ [.asked q] <+: past ∧ s.tell before q = .answers a

/-- The last of the events is a question, which has been answered in this way. -/
def JustTold (s : Script) (past : List Event) (q : Query) (a : q.Reply) : Prop :=
  ∃ before, past = before ++ [.asked q] ∧ s.tell before q = .answers a

/-- What has been told last has been told. -/
theorem JustTold.told {a : q.Reply} (h : s.JustTold past q a) : s.Told past q a := by
  obtain ⟨before, rfl, htell⟩ := h
  exact ⟨before, List.prefix_refl _, htell⟩

/-- What has been told stays told. -/
theorem Told.concat {a : q.Reply} (h : s.Told past q a) (x : Event) :
    s.Told (past ++ [x]) q a := by
  obtain ⟨before, hbefore, htell⟩ := h
  exact ⟨before, hbefore.trans (List.prefix_append ..), htell⟩

/-! ## Warrants -/

/-- The store has told that a caller may join a lobby by a code: it waits and has the code in upper
case, a seat is free, and the caller is not there. -/
structure Admits (s : Script) (rules : Rules) (past : List Event) (caller : Caller) (typed : Text)
    (lobby : Lobby) : Prop where
  found : s.Told past (.lobbyByCode typed.upper) (some lobby)
  waiting : lobby.status = .waiting
  seat : ∃ count, s.Told past (.activeCount lobby.id) (some count) ∧ count < rules.maxPlayers
  absent : s.Told past (.isActiveMember lobby.id caller.userId) false

/-- What has been told behind some events warrants a write of a command. No other write has one. -/
inductive Warranted (s : Script) (rules : Rules) (past : List Event) : Command → Query → Prop
  | enterLeader (caller : Caller) (first : past = [.began]) :
      Warranted s rules past (.create caller) (.upsertUser caller.userId caller.username)
  /-- No candidate has been looked up since, so this is the last look-up. -/
  | enterLobby (caller : Caller) (code : Text) (free : s.JustTold past (.codeExists code) false) :
      Warranted s rules past (.create caller) (.createLobby code caller.userId)
  | seatLeader (caller : Caller) (code : Text) (lobby : Lobby)
      (entered : s.JustTold past (.createLobby code caller.userId) (some lobby)) :
      Warranted s rules past (.create caller) (.addMember lobby.id caller.userId)
  | enterPlayer (caller : Caller) (typed : Text) (lobby : Lobby)
      (admitted : s.Admits rules past caller typed lobby) :
      Warranted s rules past (.join caller typed) (.upsertUser caller.userId caller.username)
  | seatPlayer (caller : Caller) (typed : Text) (lobby : Lobby)
      (admitted : s.Admits rules past caller typed lobby) :
      Warranted s rules past (.join caller typed) (.addMember lobby.id caller.userId)
  | kick (caller : Caller) (lobby target : Uuid) (other : target ≠ caller.userId)
      (leads : s.Told past (.leader lobby) (some caller.userId))
      (there : s.Told past (.isActiveMember lobby target) true) :
      Warranted s rules past (.kick caller lobby target) (.deactivateMember lobby target)
  | setActive (lobby membership leader : Uuid) (active : Bool)
      (known : s.Told past (.leader lobby) (some leader))
      (there : s.Told past (.isActiveMembership lobby membership) true) :
      Warranted s rules past (.setActive lobby membership active)
        (.setMemberActive lobby membership active)

/-- Whoever has been admitted stays admitted, whatever happens next. -/
theorem Admits.concat {caller : Caller} {typed : Text} {lobby : Lobby}
    (h : s.Admits rules past caller typed lobby) (x : Event) :
    s.Admits rules (past ++ [x]) caller typed lobby where
  found := h.found.concat x
  waiting := h.waiting
  seat := by
    obtain ⟨count, hcount, hfree⟩ := h.seat
    exact ⟨count, hcount.concat x, hfree⟩
  absent := h.absent.concat x

/-! ## Programs that keep to a law -/

/-- Each write of a trace is under a law. -/
def Upholds (law : List Event → Query → Prop) (trace : List Event) : Prop :=
  ∀ before q, before ++ [.asked q] <+: trace → q.isWrite = true → law before q

/-- A program that behind some events writes under a law only, and what it ends well with is as
`post` says. -/
inductive Lawful (s : Script) (law : List Event → Query → Prop) (post : List Event → α → Prop) :
    List Event → Program α → Prop
  | done {past : List Event} {a : α} (holds : post past a) : Lawful s law post past (.done (.ok a))
  | failed {past : List Event} (f : Failure) : Lawful s law post past (.done (.error f))
  | draw {past : List Event} {next : Text → Program α}
      (goesOn : ∀ code, Lawful s law post past (next code)) : Lawful s law post past (.draw next)
  | ask {past : List Event} {q : Query} {next : Except Failure q.Reply → Program α}
      (lawful : q.isWrite = true → law past q)
      (fails : ∀ f, Lawful s law post (past ++ [.asked q]) (next (.error f)))
      (goesOn : ∀ a, s.JustTold (past ++ [.asked q]) q a →
        Lawful s law post (past ++ [.asked q]) (next (.ok a))) :
      Lawful s law post past (.ask q next)

/-- One lawful program and then another. -/
theorem Lawful.bind {mid : List Event → α → Prop} {post : List Event → β → Prop} {p : Program α}
    {f : α → Program β} (h : s.Lawful law mid past p)
    (hf : ∀ {past a}, mid past a → s.Lawful law post past (f a)) :
    s.Lawful law post past (p >>= f) := by
  change s.Lawful law post past (p.bind f)
  induction h with
  | done holds => exact hf holds
  | failed f => exact .failed f
  | draw goesOn ih => exact .draw ih
  | ask lawful fails goesOn ihf ih => exact .ask lawful ihf ih

/-- An answer that is not needed is dropped, but what it implies is not. -/
theorem Lawful.discard {mid : List Event → α → Prop} (post : List Event → Prop) {p : Program α}
    (h : s.Lawful law mid past p) (hpost : ∀ {past a}, mid past a → post past) :
    s.Lawful law (fun past _ => post past) past (discard p) :=
  h.bind fun hmid => .done (hpost hmid)

/-- A question under the law. What follows knows its answer. -/
theorem lawful_query (hlaw : q.isWrite = true → law past q) :
    s.Lawful law (fun trace a => trace = past ++ [.asked q] ∧ s.JustTold trace q a) past
      (query q) :=
  .ask hlaw (fun f => .failed f) fun _ htold => .done ⟨rfl, htold⟩

/-- A question that only looks is under every law. -/
theorem lawful_look (hlook : q.isWrite = false) :
    s.Lawful law (fun trace a => trace = past ++ [.asked q] ∧ s.JustTold trace q a) past
      (query q) :=
  lawful_query fun hwrite => absurd hwrite (by simp [hlook])

/-- Behind events that uphold the law, a lawful program leaves a trace that does. -/
theorem Lawful.upholds {post : List Event → α → Prop} {p : Program α}
    (h : s.Lawful law post past p) (hpast : Upholds law past) (e : Entropy) :
    Upholds law (s.runProgram p past e).2.1 := by
  induction h generalizing e with
  | done holds => exact hpast
  | failed f => exact hpast
  | draw goesOn ih => exact ih _ hpast _
  | @ask past q next lawful fails goesOn ihf ih =>
    have hasked : Upholds law (past ++ [.asked q]) := by
      intro before q' hbefore hwrite
      rcases concat_prefix_concat.1 hbefore with ⟨rfl, heq⟩ | hbefore
      · cases heq
        exact lawful hwrite
      · exact hpast before q' hbefore hwrite
    rw [runProgram]
    cases htell : s.tell past q with
    | answers a => exact ih a ⟨past, rfl, htell⟩ hasked e
    | fails f => exact ihf f hasked e
    | hangs => exact hasked

theorem upholds_nil : Upholds law [] := fun _ _ hbefore _ =>
  absurd (List.prefix_nil.1 hbefore) (by simp)

/-- A trace goes on to uphold a law with an event that is no question. -/
theorem Upholds.concat {x : Event} (h : Upholds law trace) (hx : ∀ q, Event.asked q ≠ x) :
    Upholds law (trace ++ [x]) := fun before q hbefore hwrite =>
  h before q (prefix_of_prefix_concat hbefore (hx q)) hwrite

/-- The transaction of an operation upholds the law that its program keeps to. -/
theorem Lawful.upholds_run (post : List Event → Closing α → Prop) {body : Program (Closing α)}
    (h : s.Lawful law post [.began] body) (e : Entropy) :
    Upholds law (s.run (.transact body) e).2 := by
  have hbegan : Upholds law ([] ++ [.began]) := upholds_nil.concat (by simp)
  have hrun := h.upholds hbegan e
  rw [run]
  cases hend : s.runProgram body [.began] e with | mk r rest =>
  obtain ⟨trace, e'⟩ := rest
  rw [hend] at hrun
  cases r with
  | error f => exact hrun.concat (by simp)
  | ok closing =>
    have hcommitted : Upholds law (trace ++ [.committed]) := hrun.concat (by simp)
    cases closing with
    | answer result => exact hcommitted
    | readDetail lobby next =>
      have hread : Upholds law (trace ++ [.committed] ++ [.read lobby]) :=
        hcommitted.concat (by simp)
      dsimp only
      rw [close]
      cases s.tellDetail (trace ++ [.committed]) lobby <;> exact hread

/-! ## The guards -/

/-- Asking for the leader writes nothing, and tells who it is. -/
theorem lawful_resolveLeader (lobby : Uuid) :
    s.Lawful law (fun trace leader => s.Told trace (.leader lobby) (some leader)) past
      (Guard.resolveLeader lobby) := by
  refine (lawful_look rfl).bind fun {trace answer} h => ?_
  cases answer with
  | none => exact .failed _
  | some leader => exact .done h.2.told

/-- Whoever passes as the leader has been told to be it. -/
theorem lawful_requireLeader (caller : Caller) (lobby : Uuid) :
    s.Lawful law (fun trace _ => s.Told trace (.leader lobby) (some caller.userId)) past
      (Guard.requireLeader caller lobby) := by
  refine (lawful_resolveLeader lobby).bind fun {trace leader} htold => ?_
  split
  · next hlead => exact .done (hlead ▸ htold)
  · exact .failed _

/-- The check for members writes nothing. -/
theorem lawful_requireMember (caller : Caller) (lobby : Uuid) :
    s.Lawful law (fun _ _ => True) past (Guard.requireMember caller lobby) := by
  refine (lawful_resolveLeader lobby).bind fun _ => ?_
  split
  · exact .done trivial
  · refine (lawful_look rfl).bind fun {trace there} _ => ?_
    cases there with
    | false => exact .failed _
    | true => exact .done trivial

/-! ## The commands -/

/-- The search for a join code writes nothing, and ends with a candidate that has just been found
free. -/
theorem lawful_claimFrom (attempts left : Nat) :
    s.Lawful law (fun trace code => s.JustTold trace (.codeExists code) false) past
      (claimFrom attempts left) := by
  induction left generalizing past with
  | zero => exact .failed _
  | succ left ih =>
    refine .draw fun code => .ask nofun (fun f => .failed _) fun taken htold => ?_
    cases taken with
    | false => exact .done htold
    | true => exact ih

/-- The search for a join code writes nothing, and ends with a code that is free. -/
theorem lawful_claimCode (maxRetries : Int) :
    s.Lawful law (fun trace code => s.JustTold trace (.codeExists code) false) past
      (claimCode maxRetries) := by
  change Lawful _ _ _ _ ((done (attempts maxRetries)).bind fun n => claimFrom n n)
  cases attempts maxRetries with
  | error f => exact .failed f
  | ok n => exact lawful_claimFrom n n

/-- Each write of a command has its warrant. -/
abbrev Orderly (s : Script) (rules : Rules) (c : Command) (trace : List Event) : Prop :=
  Upholds (fun before q => s.Warranted rules before c q) trace

/-- A creation writes nothing without a warrant. -/
theorem orderly_create (caller : Caller) (e : Entropy) :
    s.Orderly rules (.create caller) (s.run (.create rules caller) e).2 := by
  refine Lawful.upholds_run (fun _ _ => True) ?_ e
  refine (lawful_query fun _ => .enterLeader caller rfl).bind fun _ => ?_
  refine (lawful_claimCode rules.maxRetries).bind fun {_ code} hfree => ?_
  refine (lawful_query fun _ => .enterLobby caller code hfree).bind fun {_ answer} hentered => ?_
  cases answer with
  | none => exact .failed _
  | some lobby =>
    refine (lawful_query fun _ => .seatLeader caller code lobby hentered.2).bind fun _ => ?_
    exact (lawful_look rfl).bind fun _ => .done trivial

/-- Whoever passes the checks of a join is admitted. -/
theorem lawful_checkJoin (caller : Caller) (typed : Text) :
    s.Lawful law (fun trace lobby => s.Admits rules trace caller typed lobby) past
      (Operation.checkJoin rules caller typed.upper) := by
  refine (lawful_look rfl).bind fun {_ answer} hfound => ?_
  cases answer with
  | none => exact .failed _
  | some lobby =>
    dsimp only
    split
    · exact .failed _
    next hjoin =>
    refine (lawful_look rfl).bind fun {_ answer} hcount => ?_
    cases answer with
    | none => exact .failed _
    | some count =>
      change Lawful _ _ _ _ (if rules.maxPlayers ≤ count then _ else _)
      split
      · exact .failed _
      next hseat =>
      refine (lawful_look rfl).bind fun {_ there} hthere => ?_
      cases there with
      | true => exact .failed _
      | false =>
        obtain ⟨rfl, hfound⟩ := hfound
        obtain ⟨rfl, hcount⟩ := hcount
        obtain ⟨rfl, hthere⟩ := hthere
        refine .done ⟨(hfound.told.concat _).concat _, ?_,
          ⟨count, hcount.told.concat _, Int.not_le.1 hseat⟩, hthere.told⟩
        simpa [Lobby.isJoinable, Status.isJoinable] using hjoin

theorem orderly_join (caller : Caller) (typed : Text) (e : Entropy) :
    s.Orderly rules (.join caller typed) (s.run (.join rules caller typed) e).2 := by
  rw [Operation.join, JoinCode.normalize]
  split
  · exact upholds_nil
  next code hcode =>
  split at hcode
  · cases hcode
    refine Lawful.upholds_run (fun _ _ => True) ?_ e
    refine (lawful_checkJoin caller typed).bind fun {_ lobby} hadmitted => ?_
    refine (lawful_query fun _ => .enterPlayer caller typed lobby hadmitted).bind fun {_ _} h => ?_
    obtain ⟨rfl, -⟩ := h
    refine (lawful_query fun _ => ?_).bind fun _ => .done trivial
    exact .seatPlayer caller typed lobby (hadmitted.concat _)
  · cases hcode

/-- A read writes nothing at all. -/
theorem orderly_read (caller : Caller) (lobby : Uuid) (e : Entropy) :
    s.Orderly rules (.read caller lobby) (s.run (.read caller lobby) e).2 := by
  refine Lawful.upholds_run (fun _ _ => True) ?_ e
  refine ((lawful_requireMember caller lobby).discard (fun _ => True) id).bind fun _ => ?_
  exact (lawful_look rfl).bind fun _ => .done trivial

theorem orderly_kick (caller : Caller) (lobby target : Uuid) (e : Entropy) :
    s.Orderly rules (.kick caller lobby target) (s.run (.kick caller lobby target) e).2 := by
  rw [Operation.kick]
  split
  · exact upholds_nil
  next hother =>
  refine Lawful.upholds_run (fun _ _ => True) ?_ e
  refine ((lawful_requireLeader caller lobby).discard _ id).bind fun {_ _} hleads => ?_
  refine (lawful_look rfl).bind fun {_ there} hthere => ?_
  cases there with
  | false => exact .failed _
  | true =>
    obtain ⟨rfl, hthere⟩ := hthere
    refine (lawful_query fun _ => ?_).bind fun _ => .done trivial
    exact .kick caller lobby target hother (hleads.concat _) hthere.told

theorem orderly_setActive (lobby membership : Uuid) (active : Bool) (e : Entropy) :
    s.Orderly rules (.setActive lobby membership active)
      (s.run (.setActive lobby membership active) e).2 := by
  refine Lawful.upholds_run (fun _ _ => True) ?_ e
  refine (lawful_look rfl).bind fun {_ answer} hleader => ?_
  cases answer with
  | none => exact .failed _
  | some leader =>
    refine (lawful_look rfl).bind fun {_ there} hthere => ?_
    cases there with
    | false => exact .failed _
    | true =>
      obtain ⟨rfl, hleader⟩ := hleader
      obtain ⟨rfl, hthere⟩ := hthere
      refine (lawful_query fun _ => ?_).bind fun {_ found} _ => ?_
      · exact .setActive lobby membership leader active (hleader.told.concat _) hthere.told
      · cases found with
        | false => exact .failed _
        | true => exact .done trivial

/-- No command writes anything without a warrant. -/
theorem execute_orderly (s : Script) (rules : Rules) (c : Command) (e : Entropy) :
    s.Orderly rules c (s.execute rules c e).2 := by
  cases c with
  | create caller => exact orderly_create caller e
  | join caller typed => exact orderly_join caller typed e
  | read caller lobby => exact orderly_read caller lobby e
  | kick caller lobby target => exact orderly_kick caller lobby target e
  | setActive lobby membership active => exact orderly_setActive lobby membership active e

/-! ## Every command -/

/-- The events before a question of a transaction are its beginning and its earlier questions. -/
theorem opened_of_prefix {qs : List Query} (h : past ++ [.asked q] <+: .began :: qs.map .asked) :
    ∃ before : List Query, past = .began :: before.map .asked := by
  cases past with
  | nil => exact absurd (List.cons_prefix_cons.1 h).1 nofun
  | cons x past =>
    obtain ⟨rfl, hrest⟩ := List.cons_prefix_cons.1 h
    obtain ⟨before, -, hbefore⟩ :=
      List.prefix_map_iff.1 ((List.prefix_append past [.asked q]).trans hrest)
    exact ⟨before, by rw [hbefore]⟩

/-- A question of a bracketed trace stands in its transaction. -/
theorem opened_of_bracketed (h : c.Bracketed trace) (hq : past ++ [.asked q] <+: trace) :
    ∃ before : List Query, past = .began :: before.map .asked := by
  cases h with
  | rolledBack qs | committed qs => exact opened_of_prefix (prefix_of_prefix_concat hq nofun)
  | reread qs lobby join =>
    exact opened_of_prefix (prefix_of_prefix_concat (prefix_of_prefix_concat hq nofun) nofun)

/-- On every store whatever, what a command writes has its warrant in what it has been told before,
in the transaction that the write is part of; and behind a guard nothing has been written that had
not been before. -/
theorem writes_warranted (s : Script) (rules : Rules) :
    (∀ c e past q, past ++ [.asked q] <+: (s.execute rules c e).2 → q.isWrite = true →
      s.Warranted rules past c q ∧ ∃ before : List Query, past = .began :: before.map .asked) ∧
    (∀ guard ∈ [Guard.requireMember, Guard.requireLeader], ∀ caller lobby start e past q,
      past ++ [.asked q] <+: (s.runProgram (guard caller lobby) start e).2.1 → q.isWrite = true →
      past ++ [.asked q] <+: start) := by
  refine ⟨fun c e past q hq hwrite => ⟨execute_orderly s rules c e past q hq hwrite, ?_⟩, ?_⟩
  · rcases (s.execute_course rules c e).bracketed with hnil | hbracketed
    · rw [hnil] at hq
      exact absurd (List.prefix_nil.1 hq) (by simp)
    · exact opened_of_bracketed hbracketed hq
  · intro guard hguard caller lobby start e
    have hstart : Upholds (fun before q => before ++ [.asked q] <+: start) start :=
      fun before q hbefore _ => hbefore
    rcases List.mem_cons.1 hguard with rfl | hguard
    · exact (lawful_requireMember caller lobby).upholds hstart e
    · obtain rfl := List.mem_singleton.1 hguard
      exact (lawful_requireLeader caller lobby).upholds hstart e

open Sample in
/-- Bob's seat in Ann's lobby has its warrant. -/
theorem writes_warranted_seat :
    let past : List Event := [.began, .asked (.lobbyByCode "LMNOPQ"),
      .asked (.activeCount waiting.id), .asked (.isActiveMember waiting.id bob.userId),
      .asked (.upsertUser bob.userId bob.username)]
    let q := Query.addMember waiting.id bob.userId
    past ++ [.asked q] <+: (cutOff.execute {} (.join bob "lmnopq") ⟨[], 0⟩).2 ∧ q.isWrite = true ∧
      cutOff.Warranted {} past (.join bob "lmnopq") q := by
  intro past q
  have hasked : past ++ [.asked q] <+: (cutOff.execute {} (.join bob "lmnopq") ⟨[], 0⟩).2 := by
    decide +kernel
  exact ⟨hasked, rfl, ((writes_warranted cutOff {}).1 _ _ _ _ hasked rfl).1⟩

end Script

end GameLobby
