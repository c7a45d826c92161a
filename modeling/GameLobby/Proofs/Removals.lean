import GameLobby.Proofs.Commits
import GameLobby.Proofs.Deeds
import Mathlib.Data.List.Nodup

/-!
# Ending a membership

There are two ways to end a membership: the leader of the lobby kicks the player, or somebody sets
the active flag of the membership. `KickOutcome` and `SetActiveOutcome` list how each can end, in
the order in which the checks count, and a command ends in exactly one of the ways of its list.

A kick is written for all active memberships of a user in a lobby, and the setting of a flag for a
membership whether it is active or not. On reachable tables both come to the end of a single active
membership in its place (`Tables.Ends`), or to nothing: there is one active membership of a user in
a lobby at most, and one that is active has no end to be taken back. So where both apply they do the
same, and there is one way to do it (`Tables.Sound.ends_iff`).
-/

namespace GameLobby

namespace Tables

/-- One membership ends in its place, and nothing else changes. -/
structure Ends (t : Tables) (m : MemberRow) (leftAt : Timestamp) (t' : Tables) : Prop where
  users : t'.users = t.users
  lobbies : t'.lobbies = t.lobbies
  members : ∃ front back, t.members = front ++ m :: back ∧
    t'.members = front ++ m.ended leftAt :: back

/-- A caller leads a lobby. -/
def LedBy (t : Tables) (caller : Caller) (lobby : Uuid) : Prop :=
  ∃ l ∈ t.lobbies, l.id = lobby ∧ l.leaderId = caller.userId

section
variable {t t' : Tables} {m : MemberRow} {leftAt : Timestamp}

/-- What ends has been there. -/
theorem Ends.mem (h : t.Ends m leftAt t') : m ∈ t.members := by
  obtain ⟨front, back, hrows, -⟩ := h.members
  rw [hrows]
  exact List.mem_append_right front (.head back)

/-- A membership that stands between others ends between them. -/
theorem Sound.endMember_members (h : t.Sound) {front back : List MemberRow}
    (hrows : t.members = front ++ m :: back) (leftAt : Timestamp) :
    (t.endMember m leftAt).members = front ++ m.ended leftAt :: back := by
  have hnodup : (front ++ m :: back).Nodup := hrows ▸ h.memberIds.of_map
  have hnotMem := (List.nodup_cons.1 (List.nodup_middle.1 hnodup)).1
  have hstay : ∀ rows : List MemberRow, m ∉ rows →
      (rows.map fun k => if decide (k = m) then k.ended leftAt else k) = rows := by
    intro rows hm
    have hsame : ∀ k ∈ rows, (if decide (k = m) then k.ended leftAt else k) = k :=
      fun k hk => if_neg (by simpa using ne_of_mem_of_not_mem hk hm)
    rw [List.map_congr_left hsame, List.map_id']
  rw [endMember, updateMembers_members, hrows, List.map_append, List.map_cons,
    hstay front fun hm => hnotMem (List.mem_append_left _ hm),
    hstay back fun hm => hnotMem (List.mem_append_right _ hm), if_pos (decide_eq_true rfl)]

/-- There is one way for a membership of sound tables to end in its place. -/
theorem Sound.ends_iff (h : t.Sound) (hm : m ∈ t.members) :
    t.Ends m leftAt t' ↔ t' = t.endMember m leftAt := by
  constructor
  · rintro ⟨users, lobbies, front, back, hrows, hrows'⟩
    exact Tables.ext users lobbies (hrows'.trans (h.endMember_members hrows leftAt).symm)
  · rintro rfl
    obtain ⟨front, back, hrows⟩ := List.append_of_mem hm
    exact ⟨rfl, rfl, front, back, hrows, h.endMember_members hrows leftAt⟩

/-- Once a membership has ended, the active ones are others of those before. -/
theorem mem_of_mem_endMember {k : MemberRow} (hk : k ∈ (t.endMember m leftAt).members)
    (hactive : k.isActive = true) : k ∈ t.members ∧ k ≠ m := by
  obtain ⟨j, hj, rfl⟩ := List.mem_map.1 hk
  split at hactive
  · cases hactive
  · next hne =>
    rw [if_neg hne]
    exact ⟨hj, by simpa using hne⟩

end

end Tables

/-! ## Kicking -/

/-- The ways in which a kick can end: what is answered, and the world after it. -/
inductive KickOutcome (w : World) (caller : Caller) (lobby target : Uuid) :
    Except Failure Result → World → Prop
  | oneself (self : target = caller.userId) :
      KickOutcome w caller lobby target
        (.error (.refused RefusalClass.cannotKickSelf.refusal)) w
  | unknownLobby (other : target ≠ caller.userId)
      (unknown : ¬ ∃ l ∈ w.tables.lobbies, l.id = lobby) :
      KickOutcome w caller lobby target (.error (.refused RefusalClass.lobbyNotFound.refusal)) w
  | notLeader (other : target ≠ caller.userId) (l : LobbyRow) (known : l ∈ w.tables.lobbies)
      (named : l.id = lobby) (follows : l.leaderId ≠ caller.userId) :
      KickOutcome w caller lobby target
        (.error (.refused (RefusalClass.forbidden.saying "Only the lobby leader can do this"))) w
  | notThere (other : target ≠ caller.userId) (leads : w.tables.LedBy caller lobby)
      (absent : ¬ ∃ m ∈ w.tables.members, m.lobbyId = lobby ∧ m.userId = target ∧ m.isActive) :
      KickOutcome w caller lobby target
        (.error (.refused RefusalClass.playerNotInLobby.refusal)) w
  /-- One active membership of the target in the lobby ends, at a reading of the clock. -/
  | kicked (other : target ≠ caller.userId) (leads : w.tables.LedBy caller lobby) (m : MemberRow)
      (inside : m.lobbyId = lobby) (user : m.userId = target) (active : m.isActive) {t' : Tables}
      (ends : w.tables.Ends m (w.supply.time 0) t') :
      KickOutcome w caller lobby target (.ok .done) ⟨t', w.supply.drawn 1 0 w.supply.entropy⟩

section
variable {w : World} {rules : Rules} {caller : Caller} {lobby target membership : Uuid}
  {active : Bool}

/-- In sound tables the lobby that a caller leads is found, with the caller as its leader. -/
theorem Tables.LedBy.lobby? {t : Tables} (h : t.LedBy caller lobby) (hsound : t.Sound) :
    ∃ l, t.lobby? lobby = some l ∧ caller.userId = l.leaderId := by
  obtain ⟨l, hl, rfl, hleads⟩ := h
  exact ⟨l, hsound.lobby?_of_mem hl, hleads.symm⟩

/-- Whoever kicks themselves is refused before anything else is looked at. -/
theorem World.execute_kick_self (missing : List Table) (hself : target = caller.userId) :
    w.execute rules missing (.kick caller lobby target) =
      (.error (.refused RefusalClass.cannotKickSelf.refusal), w) := by
  simp only [execute, Operation.kick, if_pos hself]
  rfl

/-- Before the deadline a kick is performed unhindered. -/
theorem World.execute_kick (hexp : rules.expired = false) :
    w.execute rules [] (.kick caller lobby target) =
      ((w.perform {} (.kick caller lobby target)).1.map fun () => Result.done,
        (w.perform {} (.kick caller lobby target)).2) := by
  simp only [execute, conditions_of_not_expired hexp]

/-- A kick that ends in one of the ways does so. -/
theorem KickOutcome.execute (hsound : w.tables.Sound) (hexp : rules.expired = false)
    {r : Except Failure Result} {w' : World} (h : KickOutcome w caller lobby target r w') :
    w.execute rules [] (.kick caller lobby target) = (r, w') := by
  rw [World.execute_kick hexp, World.perform_kick]
  cases h with
  | oneself self =>
    rw [if_pos self]
    rfl
  | unknownLobby other unknown =>
    rw [if_neg other, Tables.lobby?_of_unknown unknown]
    rfl
  | notLeader other l known named follows =>
    subst named
    rw [if_neg other, hsound.lobby?_of_mem known]
    dsimp only
    rw [if_neg (Ne.symm follows)]
    rfl
  | notThere other leads absent =>
    obtain ⟨l, hl, hleads⟩ := leads.lobby? hsound
    rw [if_neg other, hl]
    dsimp only
    rw [if_pos hleads, if_neg (mt Tables.isActiveMember_iff.1 absent)]
    rfl
  | kicked other leads m inside user active ends =>
    obtain ⟨l, hl, hleads⟩ := leads.lobby? hsound
    subst inside user
    have hthere : w.tables.isActiveMember m.lobbyId m.userId :=
      Tables.isActiveMember_iff.2 ⟨m, ends.mem, rfl, rfl, active⟩
    rw [if_neg other, hl]
    dsimp only
    rw [if_pos hleads, if_pos hthere, hsound.updateMembers_ofUser ends.mem active,
      ← (hsound.ends_iff ends.mem).1 ends]
    rfl

/-- Every kick ends in one of the ways. -/
theorem KickOutcome.total (hsound : w.tables.Sound) (caller : Caller) (lobby target : Uuid) :
    ∃ r w', KickOutcome w caller lobby target r w' := by
  by_cases other : target = caller.userId
  case pos => exact ⟨_, _, .oneself other⟩
  by_cases known : ∃ l ∈ w.tables.lobbies, l.id = lobby
  case neg => exact ⟨_, _, .unknownLobby other known⟩
  obtain ⟨l, hl, named⟩ := known
  by_cases leads : l.leaderId = caller.userId
  case neg => exact ⟨_, _, .notLeader other l hl named leads⟩
  have ledBy : w.tables.LedBy caller lobby := ⟨l, hl, named, leads⟩
  by_cases there : ∃ m ∈ w.tables.members, m.lobbyId = lobby ∧ m.userId = target ∧ m.isActive
  case neg => exact ⟨_, _, .notThere other ledBy there⟩
  obtain ⟨m, hm, inside, user, active⟩ := there
  exact ⟨_, _, .kicked other ledBy m inside user active ((hsound.ends_iff hm).2 rfl)⟩

/-- What comes of a kick is one of the ways. -/
theorem KickOutcome.of_execute (hsound : w.tables.Sound) (hexp : rules.expired = false)
    {r : Except Failure Result} {w' : World}
    (h : w.execute rules [] (.kick caller lobby target) = (r, w')) :
    KickOutcome w caller lobby target r w' := by
  obtain ⟨r', w'', houtcome⟩ := KickOutcome.total hsound caller lobby target
  obtain ⟨rfl, rfl⟩ := Prod.mk.inj ((houtcome.execute hsound hexp).symm.trans h)
  exact houtcome

/-- Before its deadline, a kick on reachable tables ends in exactly the ways that are listed. -/
theorem World.execute_kick_iff (h : w.tables.Reachable) (hexp : rules.expired = false)
    (r : Except Failure Result) (w' : World) :
    KickOutcome w caller lobby target r w' ↔
      w.execute rules [] (.kick caller lobby target) = (r, w') :=
  outcome_iff (fun houtcome => houtcome.execute h.sound hexp)
    (KickOutcome.total h.sound caller lobby target) r w'

end

namespace Sample

/-- Ann's lobby once Bob has been kicked from it and is back. His stays there have the identifiers
with the serial numbers 3 and 4. -/
def returned : World :=
  ((Service.fresh {} supply).after [.command (.create ann), .command (.join bob "LMNOPQ"),
    .command (.kick ann (IdSource.serial 1) bob.userId), .command (.join bob "LMNOPQ")]).world

/-- The sample world that Bob has returned in can be reached. -/
theorem reachable_returned : returned.tables.Reachable :=
  ⟨{}, supply, [.command (.create ann), .command (.join bob "LMNOPQ"),
    .command (.kick ann (IdSource.serial 1) bob.userId), .command (.join bob "LMNOPQ")],
    by rw [returned]⟩

end Sample

open Sample in
/-- Bob cannot kick, and when he is kicked for the second time his first stay is as it was. -/
theorem World.execute_kick_iff_returned :
    let lobby := IdSource.serial 1
    returned.tables.Reachable ∧ ({} : Rules).expired = false ∧
      KickOutcome returned bob lobby ann.userId
        (.error (.refused (RefusalClass.forbidden.saying "Only the lobby leader can do this")))
        returned ∧
      ∃ w', KickOutcome returned ann lobby bob.userId (.ok .done) w' ∧
        w'.tables.members.map (·.isActive) = [true, false, false] ∧
        w'.tables.members.take 2 = returned.tables.members.take 2 := by
  intro lobby
  have hexp : ({} : Rules).expired = false := by decide +kernel
  refine ⟨reachable_returned, hexp, ?_, ?_⟩
  · rw [World.execute_kick_iff reachable_returned hexp]
    decide +kernel
  · have hok : (returned.execute {} [] (.kick ann lobby bob.userId)).1 = .ok .done := by
      decide +kernel
    have hrows : (returned.execute {} [] (.kick ann lobby bob.userId)).2.tables.members.map
          (·.isActive) = [true, false, false] ∧
        (returned.execute {} [] (.kick ann lobby bob.userId)).2.tables.members.take 2 =
          returned.tables.members.take 2 := by
      decide +kernel
    cases hrun : returned.execute {} [] (.kick ann lobby bob.userId) with | mk r w' =>
    rw [hrun] at hok hrows
    subst hok
    exact ⟨w', (World.execute_kick_iff reachable_returned hexp _ w').2 hrun, hrows⟩

/-! ## Setting the active flag -/

/-- The ways in which the setting of an active flag can end: what is answered, and the world after
it. -/
inductive SetActiveOutcome (w : World) (lobby membership : Uuid) :
    Bool → Except Failure Result → World → Prop
  | unknownLobby (active : Bool) (unknown : ¬ ∃ l ∈ w.tables.lobbies, l.id = lobby) :
      SetActiveOutcome w lobby membership active
        (.error (.refused RefusalClass.lobbyNotFound.refusal)) w
  | notThere (active : Bool) (known : ∃ l ∈ w.tables.lobbies, l.id = lobby)
      (absent : ¬ ∃ m ∈ w.tables.members, m.id = membership ∧ m.lobbyId = lobby ∧ m.isActive) :
      SetActiveOutcome w lobby membership active
        (.error (.refused RefusalClass.playerNotFound.refusal)) w
  /-- What is active already is active. -/
  | kept (known : ∃ l ∈ w.tables.lobbies, l.id = lobby)
      (there : ∃ m ∈ w.tables.members, m.id = membership ∧ m.lobbyId = lobby ∧ m.isActive) :
      SetActiveOutcome w lobby membership true (.ok .done) w
  /-- The membership ends, at a reading of the clock. -/
  | dismissed (known : ∃ l ∈ w.tables.lobbies, l.id = lobby) (m : MemberRow)
      (named : m.id = membership) (inside : m.lobbyId = lobby) (active : m.isActive) {t' : Tables}
      (ends : w.tables.Ends m (w.supply.time 0) t') :
      SetActiveOutcome w lobby membership false (.ok .done)
        ⟨t', w.supply.drawn 1 0 w.supply.entropy⟩

section
variable {w : World} {rules : Rules} {lobby membership : Uuid} {active : Bool}

/-- Before the deadline the setting of an active flag is performed unhindered. -/
theorem World.execute_setActive (hexp : rules.expired = false) :
    w.execute rules [] (.setActive lobby membership active) =
      ((w.perform {} (.setActive lobby membership active)).1.map fun () => Result.done,
        (w.perform {} (.setActive lobby membership active)).2) := by
  simp only [execute, conditions_of_not_expired hexp]

/-- A membership is set active only when it is active, so the write changes nothing. -/
theorem World.perform_setActive_true (h : w.tables.Sound) (lobby membership : Uuid) :
    (w.perform {} (.setActive lobby membership true)).2 = w := by
  rw [perform_setActive]
  split
  · rfl
  split
  · next hthere =>
    dsimp only
    rw [if_pos rfl, h.updateMembers_reopened hthere]
    rfl
  · rfl

/-- A setting of an active flag that ends in one of the ways does so. -/
theorem SetActiveOutcome.execute (hsound : w.tables.Sound) (hexp : rules.expired = false)
    {r : Except Failure Result} {w' : World}
    (h : SetActiveOutcome w lobby membership active r w') :
    w.execute rules [] (.setActive lobby membership active) = (r, w') := by
  have hknown : (∃ l ∈ w.tables.lobbies, l.id = lobby) →
      ¬ (w.tables.lobby? lobby).isNone = true := fun known => by
    rw [Option.isNone_iff_eq_none, ← ne_eq, ← Option.isSome_iff_ne_none]
    exact Tables.isSome_lobby?_iff.2 known
  rw [World.execute_setActive hexp, World.perform_setActive]
  cases h with
  | unknownLobby _ unknown =>
    rw [Tables.lobby?_of_unknown unknown]
    rfl
  | notThere _ known absent =>
    rw [if_neg (hknown known), if_neg (mt Tables.isActiveMembership_iff.1 absent)]
    rfl
  | kept known there =>
    have hthere := Tables.isActiveMembership_iff.2 there
    rw [if_neg (hknown known), if_pos hthere]
    simp only [↓reduceIte, hsound.updateMembers_reopened hthere]
    rfl
  | dismissed known m named inside active ends =>
    subst named inside
    have hthere : w.tables.isActiveMembership m.lobbyId m.id :=
      Tables.isActiveMembership_iff.2 ⟨m, ends.mem, rfl, rfl, active⟩
    rw [if_neg (hknown known), if_pos hthere]
    simp only [Bool.false_eq_true, ↓reduceIte]
    rw [hsound.updateMembers_ofId ends.mem, ← (hsound.ends_iff ends.mem).1 ends]
    rfl

/-- Every setting of an active flag ends in one of the ways. -/
theorem SetActiveOutcome.total (hsound : w.tables.Sound) (lobby membership : Uuid) (active : Bool) :
    ∃ r w', SetActiveOutcome w lobby membership active r w' := by
  by_cases known : ∃ l ∈ w.tables.lobbies, l.id = lobby
  case neg => exact ⟨_, _, .unknownLobby active known⟩
  by_cases there : ∃ m ∈ w.tables.members, m.id = membership ∧ m.lobbyId = lobby ∧ m.isActive
  case neg => exact ⟨_, _, .notThere active known there⟩
  cases active with
  | true => exact ⟨_, _, .kept known there⟩
  | false =>
    obtain ⟨m, hm, named, inside, hactive⟩ := there
    exact ⟨_, _, .dismissed known m named inside hactive ((hsound.ends_iff hm).2 rfl)⟩

/-- The write that follows the check finds the membership, so it makes no difference what is done
where it finds none. -/
theorem World.perform_setActiveOr (w : World) (rules : Rules) (other : Program (Closing Unit))
    (lobby membership : Uuid) (active : Bool) :
    w.perform (rules.conditions []) (.setActiveOr other lobby membership active) =
      w.perform (rules.conditions []) (.setActive lobby membership active) := by
  cases hexp : rules.expired with
  | true =>
    exact (perform_ask_of_expired hexp (.leader lobby) _ w).trans
      (perform_ask_of_expired hexp (.leader lobby) _ w).symm
  | false =>
    obtain ⟨t, s⟩ := w
    rw [conditions_of_not_expired hexp, perform_eq_settle, perform_eq_settle, attempt_setActiveOr,
      attempt_setActive]

/-- Setting an active flag to true changes no table that history has led to, whatever the rules and
whichever tables are missing. Before its deadline, the setting of a flag ends in exactly the ways
that are listed, and it never comes to the refusal that is laid down behind the write. -/
theorem World.setActive_only_ends (h : w.tables.Reachable) (lobby membership : Uuid) :
    (∀ (rules : Rules) missing,
      (w.execute rules missing (.setActive lobby membership true)).2.tables = w.tables) ∧
    (∀ (rules : Rules) active r w', rules.expired = false →
      (SetActiveOutcome w lobby membership active r w' ↔
        w.execute rules [] (.setActive lobby membership active) = (r, w'))) ∧
    ∀ (rules : Rules) active other,
      w.perform (rules.conditions []) (.setActiveOr other lobby membership active) =
        w.perform (rules.conditions []) (.setActive lobby membership active) := by
  refine ⟨fun rules missing => ?_, fun rules active r w' hexp => ?_,
    fun rules active other => perform_setActiveOr w rules other lobby membership active⟩
  · change (w.perform (rules.conditions missing) (.setActive lobby membership true)).2.tables =
      w.tables
    rcases perform_or_undone (Operation.givesUp_setActive lobby membership true)
      (fun _ => Operation.consults_setActive lobby membership true)
      (rules.conditions missing) w with hsame | ⟨_, -, hundone⟩
    · rw [hsame, perform_setActive_true h.sound]
    · exact hundone
  · exact outcome_iff (fun houtcome => houtcome.execute h.sound hexp)
      (SetActiveOutcome.total h.sound lobby membership active) r w'

end

open Sample in
/-- Bob's first stay is over for good. His second one is as active as before when it is set active,
and is over when it is set inactive. -/
theorem World.setActive_only_ends_returned :
    let lobby := IdSource.serial 1
    returned.tables.Reachable ∧ ({} : Rules).expired = false ∧
      SetActiveOutcome returned lobby (IdSource.serial 3) true
        (.error (.refused RefusalClass.playerNotFound.refusal)) returned ∧
      (returned.execute {} [] (.setActive lobby (IdSource.serial 4) true)).1 = .ok .done ∧
      (returned.execute {} [] (.setActive lobby (IdSource.serial 4) true)).2.tables =
        returned.tables ∧
      ∃ w', SetActiveOutcome returned lobby (IdSource.serial 4) false (.ok .done) w' ∧
        w'.tables.members.map (·.isActive) = [true, false, false] := by
  intro lobby
  have hexp : ({} : Rules).expired = false := by decide +kernel
  have hfirst := World.setActive_only_ends reachable_returned lobby (IdSource.serial 3)
  have hsecond := World.setActive_only_ends reachable_returned lobby (IdSource.serial 4)
  have hok : (returned.execute {} [] (.setActive lobby (IdSource.serial 4) false)).1 =
      .ok .done := by
    decide +kernel
  have hrows : (returned.execute {} []
      (.setActive lobby (IdSource.serial 4) false)).2.tables.members.map (·.isActive) =
        [true, false, false] := by
    decide +kernel
  refine ⟨reachable_returned, hexp, (hfirst.2.1 {} true _ _ hexp).2 (by decide +kernel),
    by decide +kernel, hsecond.1 {} [], ?_⟩
  cases hrun : returned.execute {} [] (.setActive lobby (IdSource.serial 4) false) with | mk r w' =>
  rw [hrun] at hok hrows
  subst hok
  exact ⟨w', (hsecond.2.1 {} false _ w' hexp).2 hrun, hrows⟩

/-! ## Both ways -/

section
variable {w : World} {rules : Rules}

/-- A player other than the leader is removed alike by a kick and by the setting of the active flag:
both succeed and come to the same world, in which the membership has ended at the one reading of the
clock that has been taken. Done again there, either is refused and changes nothing. -/
theorem World.removals_agree (h : w.tables.Reachable) (hexp : rules.expired = false) {l : LobbyRow}
    (hl : l ∈ w.tables.lobbies) {m : MemberRow} (hm : m ∈ w.tables.members)
    (hinside : m.lobbyId = l.id) (hactive : m.isActive = true) (hother : m.userId ≠ l.leaderId)
    {leader : Caller} (hleads : leader.userId = l.leaderId) :
    ∃ w' : World,
      w.execute rules [] (.kick leader l.id m.userId) = (.ok .done, w') ∧
      w.execute rules [] (.setActive l.id m.id false) = (.ok .done, w') ∧
      w.tables.Ends m (w.supply.time 0) w'.tables ∧
      w'.supply = w.supply.drawn 1 0 w.supply.entropy ∧
      w'.execute rules [] (.kick leader l.id m.userId) =
        (.error (.refused RefusalClass.playerNotInLobby.refusal), w') ∧
      w'.execute rules [] (.setActive l.id m.id false) =
        (.error (.refused RefusalClass.playerNotFound.refusal), w') := by
  have hsound := h.sound
  have hself : m.userId ≠ leader.userId := hleads ▸ hother
  have hledBy : w.tables.LedBy leader l.id := ⟨l, hl, rfl, hleads.symm⟩
  let w' : World :=
    ⟨w.tables.endMember m (w.supply.time 0), w.supply.drawn 1 0 w.supply.entropy⟩
  have hends : w.tables.Ends m (w.supply.time 0) w'.tables := (hsound.ends_iff hm).2 rfl
  have hsound' : w'.tables.Sound := hsound.updateMembers_ended _ _
  have hgone : ¬ ∃ k ∈ w'.tables.members, k.lobbyId = l.id ∧ k.userId = m.userId ∧ k.isActive := by
    rintro ⟨k, hk, hlobby, huser, hopen⟩
    obtain ⟨hmem, hne⟩ := Tables.mem_of_mem_endMember hk hopen
    exact hne (hsound.activeMember_ext hm hmem (hlobby.trans hinside.symm) huser hactive hopen)
  have hgone' : ¬ ∃ k ∈ w'.tables.members, k.id = m.id ∧ k.lobbyId = l.id ∧ k.isActive := by
    rintro ⟨k, hk, hid, -, hopen⟩
    obtain ⟨hmem, hne⟩ := Tables.mem_of_mem_endMember hk hopen
    exact hne (hsound.member_ext hmem hm hid)
  refine ⟨w', ?_, ?_, hends, rfl, ?_, ?_⟩
  · exact (KickOutcome.kicked hself hledBy m hinside rfl hactive hends).execute hsound hexp
  · exact (SetActiveOutcome.dismissed ⟨l, hl, rfl⟩ m rfl hinside hactive hends).execute hsound hexp
  · exact (KickOutcome.notThere (w := w') hself hledBy hgone).execute hsound' hexp
  · exact (SetActiveOutcome.notThere (w := w') false ⟨l, hl, rfl⟩ hgone').execute hsound' hexp

end

open Sample in
/-- Ann kicks Bob, or his second stay is set inactive. -/
theorem World.removals_agree_returned :
    ∃ l ∈ returned.tables.lobbies, ∃ m ∈ returned.tables.members,
      returned.tables.Reachable ∧ ({} : Rules).expired = false ∧ m.lobbyId = l.id ∧
      m.isActive = true ∧ m.userId ≠ l.leaderId ∧ ann.userId = l.leaderId ∧
      ∃ w', returned.execute {} [] (.kick ann l.id m.userId) = (.ok .done, w') ∧
        returned.execute {} [] (.setActive l.id m.id false) = (.ok .done, w') ∧
        w'.tables.activeCount l.id = 1 := by
  have hexp : ({} : Rules).expired = false := by decide +kernel
  obtain ⟨l, hl, hlobby, hleads⟩ : ∃ l ∈ returned.tables.lobbies,
      l.id = IdSource.serial 1 ∧ ann.userId = l.leaderId := by decide +kernel
  obtain ⟨m, hm, hid, hinside, huser, hactive⟩ : ∃ m ∈ returned.tables.members,
      m.id = IdSource.serial 4 ∧ m.lobbyId = IdSource.serial 1 ∧ m.userId = bob.userId ∧
        m.isActive = true := by decide +kernel
  have hother : m.userId ≠ l.leaderId := by
    rw [huser, ← hleads]
    decide +kernel
  have hplace : m.lobbyId = l.id := hinside.trans hlobby.symm
  obtain ⟨w', hkick, hset, -⟩ :=
    World.removals_agree reachable_returned hexp hl hm hplace hactive hother hleads
  refine ⟨l, hl, m, hm, reachable_returned, hexp, hplace, hactive, hother, hleads, w', hkick, hset,
    ?_⟩
  rw [hlobby, huser] at hkick
  have hleft : (returned.execute {} [] (.kick ann (IdSource.serial 1)
      bob.userId)).2.tables.activeCount (IdSource.serial 1) = 1 := by decide +kernel
  rw [hkick] at hleft
  rw [hlobby]
  exact hleft

end GameLobby
