import GameLobby.Proofs.Removals

/-!
# Removals in either order

A removal looks up its lobby and one active membership, and nothing else (`Removal.ruling`). Of
these it writes the membership alone, and it ends it for good. So two removals of different players
read nothing that the other one writes (`Removal.find?_seeks_endMember`): each finds what it would
have found on its own, and as long as the clock stands still it does not matter which of them comes
first. That holds of the leader's own membership, too, since whoever leads a lobby is looked up in
its row.
-/

namespace GameLobby

/-- The clock stands still: all its readings are the same. -/
def Supply.Still (s : Supply) : Prop :=
  ∀ n, s.time n = s.time 0

/-- A clock without readings laid out in advance stands still if its step is nothing. -/
theorem Supply.still_of_step {s : Supply} (hqueue : s.clock.queue = []) (hstep : s.clock.step = 0) :
    s.Still := by
  obtain ⟨⟨queue, now, step⟩, ids, entropy⟩ := s
  obtain rfl : queue = [] := hqueue
  obtain rfl : step = 0 := hstep
  have hread : (⟨[], now, 0⟩ : Clock).read.2 = ⟨[], now, 0⟩ := by
    simp [Clock.read]
  have hrepeat : ∀ n, Nat.repeat (·.read.2) n (⟨[], now, 0⟩ : Clock) = ⟨[], now, 0⟩ := by
    intro n
    induction n with
    | zero => rfl
    | succ n ih =>
      rw [Nat.repeat, ih]
      exact hread
  intro n
  rw [time, time, hrepeat, hrepeat]

/-- A command that can end a membership. -/
inductive Removal where
  | kick (caller : Caller) (lobby target : Uuid)
  | setActive (lobby membership : Uuid) (active : Bool)
  deriving DecidableEq, Repr

namespace Removal

/-- The command of a removal. -/
def command : Removal → Command
  | kick caller lobby target => .kick caller lobby target
  | setActive lobby membership active => .setActive lobby membership active

/-- The lobby that a removal is addressed to. -/
def lobby : Removal → Uuid
  | kick _ lobby _ | setActive lobby _ _ => lobby

/-- Whose membership, and in which lobby, a removal can affect: that of the player who is kicked, or
that of the owner of the membership. A membership that does not exist is nobody's. -/
def affected? (t : Tables) : Removal → Option (Uuid × Uuid)
  | kick _ lobby target => some (lobby, target)
  | setActive _ membership _ =>
    (t.members.find? (·.id = membership)).map fun m => (m.lobbyId, m.userId)

/-- The active memberships that a removal looks for. -/
def seeks : Removal → MemberRow → Bool
  | kick _ lobby target, m => m.lobbyId = lobby ∧ m.userId = target ∧ m.isActive
  | setActive lobby membership _, m => m.id = membership ∧ m.lobbyId = lobby ∧ m.isActive

/-- What a removal answers and which membership it ends, by the lobby and the membership that it has
found. -/
def ruling : Removal → Option LobbyRow → Option MemberRow → Except Failure Result × Option MemberRow
  | kick caller _ target, row, m =>
    if target = caller.userId then (.error (.refused RefusalClass.cannotKickSelf.refusal), none)
    else match row, m with
      | none, _ => (.error (.refused RefusalClass.lobbyNotFound.refusal), none)
      | some row, m =>
        if caller.userId = row.leaderId then
          match m with
          | some m => (.ok .done, some m)
          | none => (.error (.refused RefusalClass.playerNotInLobby.refusal), none)
        else
          (.error (.refused (RefusalClass.forbidden.saying "Only the lobby leader can do this")),
            none)
  | setActive _ _ active, row, m =>
    match row, m with
    | none, _ => (.error (.refused RefusalClass.lobbyNotFound.refusal), none)
    | some _, some m => (.ok .done, if active then none else some m)
    | some _, none => (.error (.refused RefusalClass.playerNotFound.refusal), none)

end Removal

/-- The world once a membership has ended at the next reading of the clock, if one is to end. -/
def World.dismiss (w : World) : Option MemberRow → World
  | none => w
  | some m => ⟨w.tables.endMember m (w.supply.time 0), w.supply.drawn 1 0 w.supply.entropy⟩

namespace Removal

/-- What a removal comes to on a world. -/
def outcome (r : Removal) (w : World) : Except Failure Result × Option MemberRow :=
  r.ruling (w.tables.lobby? r.lobby) (w.tables.members.find? r.seeks)

section
variable {w : World} {t : Tables} {rules : Rules} {r other : Removal} {m k : MemberRow}

/-! ## What a removal does -/

/-- A kick seeks the active membership of its target. -/
theorem isActiveMember_eq (t : Tables) (caller : Caller) (lobby target : Uuid) :
    t.isActiveMember lobby target = (t.members.find? (kick caller lobby target).seeks).isSome :=
  List.isSome_find?.symm

/-- A change of the active flag seeks the membership by its identifier. -/
theorem isActiveMembership_eq (t : Tables) (lobby membership : Uuid) (active : Bool) :
    t.isActiveMembership lobby membership =
      (t.members.find? (setActive lobby membership active).seeks).isSome :=
  List.isSome_find?.symm

/-- Before its deadline, a kick comes to what it comes to as a removal. -/
theorem execute_kick (hsound : w.tables.Sound) (hexp : rules.expired = false) (caller : Caller)
    (lobby target : Uuid) :
    w.execute rules [] (.kick caller lobby target) =
      (((kick caller lobby target).outcome w).1,
        w.dismiss ((kick caller lobby target).outcome w).2) := by
  obtain ⟨t, s⟩ := w
  rw [World.execute_kick hexp, World.perform_kick, isActiveMember_eq t caller, outcome,
    Removal.lobby]
  dsimp only
  by_cases hself : target = caller.userId
  case pos => simp only [ruling, if_pos hself]; rfl
  simp only [ruling, if_neg hself]
  cases t.lobby? lobby with
  | none => rfl
  | some row =>
    dsimp only
    by_cases hleads : caller.userId = row.leaderId
    case neg => simp only [if_neg hleads]; rfl
    simp only [if_pos hleads]
    cases hfind : t.members.find? (kick caller lobby target).seeks with
    | none => rfl
    | some m =>
      obtain ⟨rfl, rfl, hactive⟩ : m.lobbyId = lobby ∧ m.userId = target ∧ m.isActive := by
        simpa [seeks] using List.find?_some hfind
      rw [Option.isSome_some, if_pos rfl,
        hsound.updateMembers_ofUser (List.mem_of_find?_eq_some hfind) hactive]
      rfl

/-- So does a change of the active flag. -/
theorem execute_setActive (hsound : w.tables.Sound) (hexp : rules.expired = false)
    (lobby membership : Uuid) (active : Bool) :
    w.execute rules [] (.setActive lobby membership active) =
      (((setActive lobby membership active).outcome w).1,
        w.dismiss ((setActive lobby membership active).outcome w).2) := by
  obtain ⟨t, s⟩ := w
  rw [World.execute_setActive hexp, World.perform_setActive, isActiveMembership_eq t _ _ active,
    outcome, Removal.lobby]
  dsimp only
  simp only [ruling]
  cases t.lobby? lobby with
  | none => rfl
  | some row =>
    cases hfind : t.members.find? (setActive lobby membership active).seeks with
    | none => rfl
    | some m =>
      have hm : m ∈ t.members := List.mem_of_find?_eq_some hfind
      obtain ⟨rfl, rfl, hactive⟩ : m.id = membership ∧ m.lobbyId = lobby ∧ m.isActive := by
        simpa [seeks] using List.find?_some hfind
      simp only [Option.isNone_some, Bool.false_eq_true, Option.isSome_some, ↓reduceIte]
      cases active with
      | true =>
        have hthere := Tables.isActiveMembership_iff.2 ⟨m, hm, rfl, rfl, hactive⟩
        simp only [↓reduceIte, hsound.updateMembers_reopened hthere]
        rfl
      | false =>
        simp only [Bool.false_eq_true, ↓reduceIte, hsound.updateMembers_ofId hm]
        rfl

/-- Before its deadline, a removal on sound tables answers and ends what its ruling says. -/
theorem execute_eq (hsound : w.tables.Sound) (hexp : rules.expired = false) (r : Removal) :
    w.execute rules [] r.command = ((r.outcome w).1, w.dismiss (r.outcome w).2) := by
  cases r with
  | kick caller lobby target => exact execute_kick hsound hexp caller lobby target
  | setActive lobby membership active =>
    exact execute_setActive hsound hexp lobby membership active

/-- Past its deadline, a removal answers the same on every world and changes none. -/
theorem execute_of_expired (hexp : rules.expired = true) (r : Removal) :
    ∃ answer, ∀ w : World, w.execute rules [] r.command = (answer, w) := by
  have hc : (rules.conditions []).expired = true := hexp
  cases r with
  | kick caller lobby target =>
    by_cases hself : target = caller.userId
    · exact ⟨_, fun w => World.execute_kick_self [] hself⟩
    · refine ⟨.error (.timedOut []), fun w => ?_⟩
      have hlate : w.perform (rules.conditions []) (.kick caller lobby target) =
          (.error (.timedOut []), w) := by
        rw [Operation.kick, if_neg hself]
        exact World.perform_ask_of_expired hc (.leader lobby) _ w
      simp only [command, World.execute, hlate]
      rfl
  | setActive lobby membership active =>
    refine ⟨.error (.timedOut []), fun w => ?_⟩
    have hlate : w.perform (rules.conditions []) (.setActive lobby membership active) =
        (.error (.timedOut []), w) :=
      World.perform_ask_of_expired hc (.leader lobby) _ w
    simp only [command, World.execute, hlate]
    rfl

/-- What a removal ends is an active membership that it has looked for. -/
theorem of_outcome (h : (r.outcome w).2 = some m) : w.tables.members.find? r.seeks = some m := by
  cases r with
  | kick caller lobby target =>
    simp only [outcome, ruling] at h
    grind
  | setActive lobby membership active =>
    simp only [outcome, ruling] at h
    grind

/-! ## Memberships of different players -/

/-- A removal only looks for memberships of the player whom it can affect. -/
theorem affected?_of_seeks (hsound : t.Sound) (hm : m ∈ t.members) (h : r.seeks m = true) :
    r.affected? t = some (m.lobbyId, m.userId) := by
  cases r with
  | kick caller lobby target =>
    obtain ⟨rfl, rfl, -⟩ : m.lobbyId = lobby ∧ m.userId = target ∧ m.isActive := by
      simpa [seeks] using h
    rfl
  | setActive lobby membership active =>
    obtain ⟨rfl, rfl, -⟩ : m.id = membership ∧ m.lobbyId = lobby ∧ m.isActive := by
      simpa [seeks] using h
    rw [affected?, Tables.find?_eq_of_nodup hsound.memberIds hm]
    rfl

/-- A removal looks for active memberships only. -/
theorem isActive_of_seeks (h : r.seeks m = true) : m.isActive = true := by
  cases r <;> simp_all [seeks]

/-- A membership that a removal does not look for can end without it finding another one. -/
theorem find?_seeks_endMember (h : r.seeks k = false) (leftAt : Timestamp) :
    (t.endMember k leftAt).members.find? r.seeks = t.members.find? r.seeks := by
  have hended : r.seeks (k.ended leftAt) = false :=
    Bool.eq_false_iff.2 fun hseeks => Bool.false_ne_true (isActive_of_seeks hseeks)
  have hsame : r.seeks ∘ (fun j => if decide (j = k) then j.ended leftAt else j) = r.seeks := by
    funext j
    rw [Function.comp_apply]
    split
    · next hj => rw [of_decide_eq_true hj, hended, h]
    · rfl
  rw [Tables.endMember, Tables.updateMembers_members, List.find?_map, hsame]
  cases hfind : t.members.find? r.seeks with
  | none => rfl
  | some m =>
    have hne : m ≠ k := fun heq => by
      rw [← heq, List.find?_some hfind] at h
      cases h
    rw [Option.map_some, if_neg (by simpa using hne)]

/-- Two removals of different players look for different memberships. -/
theorem seeks_eq_false (hsound : t.Sound) (hm : m ∈ t.members) (hother : other.seeks m = true)
    (hdifferent : ∀ p, r.affected? t = some p → other.affected? t ≠ some p) : r.seeks m = false :=
  Bool.eq_false_iff.2 fun h =>
    hdifferent _ (affected?_of_seeks hsound hm h) (affected?_of_seeks hsound hm hother)

/-- A removal comes to the same before and after one of another player. -/
theorem outcome_dismiss (hsound : w.tables.Sound)
    (hdifferent : ∀ p, r.affected? w.tables = some p → other.affected? w.tables ≠ some p) :
    r.outcome (w.dismiss (other.outcome w).2) = r.outcome w := by
  cases h : (other.outcome w).2 with
  | none => rfl
  | some k =>
    have hfind := of_outcome h
    have hseeks := seeks_eq_false hsound (List.mem_of_find?_eq_some hfind) (List.find?_some hfind)
      hdifferent
    rw [outcome, outcome, World.dismiss, find?_seeks_endMember hseeks]
    rfl

end

end Removal

/-! ## Either order -/

/-- Two memberships end in either order. -/
theorem Tables.endMember_comm {t : Tables} {m k : MemberRow} (hm : m.isActive = true)
    (hk : k.isActive = true) (hne : m ≠ k) (at_ : Timestamp) :
    (t.endMember m at_).endMember k at_ = (t.endMember k at_).endMember m at_ := by
  have hended : ∀ {a b : MemberRow}, b.isActive = true → a.ended at_ ≠ b := by
    rintro a b hb rfl
    cases hb
  have hrows : ∀ j : MemberRow,
      (if decide ((if decide (j = m) then j.ended at_ else j) = k) then
          (if decide (j = m) then j.ended at_ else j).ended at_
        else if decide (j = m) then j.ended at_ else j) =
      if decide ((if decide (j = k) then j.ended at_ else j) = m) then
          (if decide (j = k) then j.ended at_ else j).ended at_
        else if decide (j = k) then j.ended at_ else j := by
    intro j
    by_cases hjm : j = m
    · subst hjm
      simp [hne, hended hk]
    · by_cases hjk : j = k
      · subst hjk
        simp [hjm, hended hm]
      · simp [hjm, hjk]
  refine Tables.ext rfl rfl ?_
  simp only [endMember, updateMembers_members, List.map_map]
  exact List.map_congr_left fun j _ => hrows j

namespace World

section
variable {w : World}

/-- The tables are sound once a membership has ended. -/
theorem sound_dismiss (h : w.tables.Sound) (m : Option MemberRow) : (w.dismiss m).tables.Sound := by
  cases m with
  | none => exact h
  | some m => exact h.updateMembers_ended _ _

/-- While the clock stands still, two memberships end in either order. -/
theorem dismiss_comm (hstill : w.supply.Still) {m k : Option MemberRow}
    (hm : ∀ x ∈ m, x.isActive = true) (hk : ∀ x ∈ k, x.isActive = true)
    (hne : ∀ x ∈ m, x ∉ k) : (w.dismiss m).dismiss k = (w.dismiss k).dismiss m := by
  cases m with
  | none => rfl
  | some m =>
    cases k with
    | none => rfl
    | some k =>
      have htime : (w.supply.drawn 1 0 w.supply.entropy).time 0 = w.supply.time 0 := hstill 1
      have hother : m ≠ k := fun heq => hne m rfl (congrArg some heq.symm)
      simp only [dismiss, htime]
      rw [Tables.endMember_comm (hm m rfl) (hk k rfl) hother]

/-- Two removals of different players can be carried out in either order while the clock stands
still: each answers what it answers on its own, and both orders lead to the same world. -/
theorem removals_commute (h : w.tables.Reachable) (hstill : w.supply.Still) {r other : Removal}
    (hdifferent : ∀ p, r.affected? w.tables = some p → other.affected? w.tables ≠ some p)
    (rules : Rules) :
    let first := w.execute rules [] r.command
    let second := w.execute rules [] other.command
    (second.2.execute rules [] r.command).1 = first.1 ∧
      (first.2.execute rules [] other.command).1 = second.1 ∧
      (first.2.execute rules [] other.command).2 = (second.2.execute rules [] r.command).2 := by
  intro first second
  cases hexp : rules.expired with
  | true =>
    obtain ⟨answer, hr⟩ := r.execute_of_expired hexp
    obtain ⟨answer', hother⟩ := other.execute_of_expired hexp
    simp only [first, second, hr, hother, and_self]
  | false =>
    have hsound := h.sound
    have hsymm : ∀ p, other.affected? w.tables = some p → r.affected? w.tables ≠ some p :=
      fun p hp hr => hdifferent p hr hp
    have hfirst : first = ((r.outcome w).1, w.dismiss (r.outcome w).2) :=
      Removal.execute_eq hsound hexp r
    have hsecond : second = ((other.outcome w).1, w.dismiss (other.outcome w).2) :=
      Removal.execute_eq hsound hexp other
    rw [hfirst, hsecond, Removal.execute_eq (sound_dismiss hsound _) hexp r,
      Removal.execute_eq (sound_dismiss hsound _) hexp other,
      Removal.outcome_dismiss hsound hdifferent, Removal.outcome_dismiss hsound hsymm]
    refine ⟨rfl, rfl, dismiss_comm hstill ?_ ?_ ?_⟩
    · exact fun m hm => Removal.isActive_of_seeks (List.find?_some (Removal.of_outcome hm))
    · exact fun m hm => Removal.isActive_of_seeks (List.find?_some (Removal.of_outcome hm))
    · intro m hm hother
      have hfind := Removal.of_outcome hother
      have hseeks := Removal.seeks_eq_false hsound (List.mem_of_find?_eq_some hfind)
        (List.find?_some hfind) hdifferent
      rw [List.find?_some (Removal.of_outcome hm)] at hseeks
      cases hseeks

end

open Sample in
/-- Ann leads a lobby with Bob and Cleo. She kicks Bob, and her own membership is set inactive:
whichever comes first, both succeed, and Cleo is left. -/
theorem removals_commute_leader :
    let lobby := IdSource.serial 1
    let w := ((Service.fresh {} { Sample.supply with clock := ⟨[], 0, 0⟩ }).after
      [.command (.create ann), .command (.join bob "LMNOPQ"), .command (.join cleo "LMNOPQ")]).world
    let kick : Removal := .kick ann lobby bob.userId
    let resign : Removal := .setActive lobby (IdSource.serial 2) false
    w.tables.Reachable ∧ w.supply.Still ∧
      (∀ p, kick.affected? w.tables = some p → resign.affected? w.tables ≠ some p) ∧
      (w.execute {} [] kick.command).1 = .ok .done ∧
      ((w.execute {} [] resign.command).2.execute {} [] kick.command).1 = .ok .done ∧
      ((w.execute {} [] kick.command).2.execute {} [] resign.command).2 =
        ((w.execute {} [] resign.command).2.execute {} [] kick.command).2 ∧
      ((w.execute {} [] kick.command).2.execute {} [] resign.command).2.tables.members.map
        (·.isActive) = [false, false, true] := by
  intro lobby w kick resign
  have hw : w.tables.Reachable := ⟨_, _, _, rfl⟩
  have hstill : w.supply.Still := Supply.still_of_step (by decide +kernel) (by decide +kernel)
  have hne : kick.affected? w.tables ≠ resign.affected? w.tables := by decide +kernel
  have hdifferent : ∀ p, kick.affected? w.tables = some p → resign.affected? w.tables ≠ some p :=
    fun p hkick hresign => hne (hkick.trans hresign.symm)
  have hok : (w.execute {} [] kick.command).1 = .ok .done := by decide +kernel
  have hleft : ((w.execute {} [] kick.command).2.execute {} [] resign.command).2.tables.members.map
      (·.isActive) = [false, false, true] := by decide +kernel
  obtain ⟨hkick, -, hsame⟩ := removals_commute hw hstill hdifferent {}
  exact ⟨hw, hstill, hdifferent, hok, hkick.trans hok, hsame, hleft⟩

end World

end GameLobby
