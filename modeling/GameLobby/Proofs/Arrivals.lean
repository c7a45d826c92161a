import GameLobby.Proofs.Details
import GameLobby.Proofs.Readings

/-!
# Players appear in the order in which they came

The store sorts the memberships of a lobby by the time at which they began and then by identifier.
The identifiers do not follow any order, so what the list looks like depends on the clock: if each
reading is later than the one before, the memberships stand in their table in that order already,
and sorting leaves them there (`Tables.playersOf_of_pairwise`). So the players of a lobby are the
ways into it (`Entrance`), one for one, as the answers of the history tell of them
(`Tables.Records`).
-/

namespace GameLobby

/-- The same stay in a lobby, at another time. -/
structure Membership.SameStay (p q : Membership) : Prop where
  id : q.id = p.id
  userId : q.userId = p.userId
  displayName : q.displayName = p.displayName
  joinedAt : q.joinedAt = p.joinedAt

/-- The active membership of a caller among those of a lobby. -/
def LobbyDetail.stayOf? (d : LobbyDetail) (caller : Caller) : Option Membership :=
  d.players.find? fun p => p.userId = caller.userId ∧ p.isActive

/-- A way into a lobby: a creation or a join that has succeeded, with the membership of its
caller. -/
structure Entrance where
  lobby : Uuid
  founding : Bool
  membership : Membership
  deriving DecidableEq, Repr

/-- The entrance that a step and its answer tell of. -/
def Step.entrance? : Step → Except Failure Result → Option Entrance
  | .command (.create caller), .ok (.detail d) => (d.stayOf? caller).map (⟨d.lobby.id, true, ·⟩)
  | .command (.join caller _), .ok (.detail d) => (d.stayOf? caller).map (⟨d.lobby.id, false, ·⟩)
  | _, _ => none

/-- The entrances of a history, in their order. -/
def Service.entrances (s : Service) (steps : List Step) : List Entrance :=
  (steps.zip (s.run steps).1).filterMap fun (x, r) => x.entrance? r

namespace Tables

/-- A row is the membership of an entrance, under the name of its user. -/
def Entered (t : Tables) (m : MemberRow) (e : Entrance) : Prop :=
  e.lobby = m.lobbyId ∧
    ∃ u, t.user? m.userId = some u ∧ e.membership.SameStay (m.membership u.username)

/-- The memberships are those of the entrances, one for one, and the first entrance of a lobby is
its creation by its leader. -/
structure Records (t : Tables) (entrances : List Entrance) : Prop where
  rows : List.Forall₂ t.Entered t.members entrances
  founded : ∀ l ∈ t.lobbies, ∃ e, entrances.find? (·.lobby = l.id) = some e ∧ e.founding = true ∧
    e.membership.userId = l.leaderId

section
variable {t t' : Tables} {log : List Entrance}

/-! ## Rows in order -/

/-- Memberships that stand in the order in which they began are shown in that order. -/
theorem playersOf_of_pairwise (h : t.members.Pairwise fun m k => m.joinedAt < k.joinedAt)
    (lobby : Uuid) :
    t.playersOf lobby = (t.membersOf lobby).filterMap fun m =>
      (t.user? m.userId).map fun u => m.membership u.username := by
  have hsorted : (t.membersOf lobby).Pairwise fun m k => m.precedes k :=
    (h.sublist List.filter_sublist).imp fun hlt => MemberRow.precedes_iff.2 (.inl hlt)
  rw [playersOf, List.mergeSort_of_pairwise hsorted]

/-- The rows of a lobby show the stays of its entrances. -/
theorem forall₂_players {rows : List MemberRow} (h : List.Forall₂ t.Entered rows log)
    (lobby : Uuid) :
    List.Forall₂ (fun e p => e.membership.SameStay p) (log.filter (·.lobby = lobby))
      ((rows.filter (·.lobbyId = lobby)).filterMap fun m =>
        (t.user? m.userId).map fun u => m.membership u.username) := by
  induction h with
  | nil => exact .nil
  | @cons m e rows log hentered _ ih =>
    obtain ⟨hlobby, u, hu, hsame⟩ := hentered
    by_cases hin : m.lobbyId = lobby
    · rw [List.filter_cons_of_pos (by simpa [hlobby] using hin),
        List.filter_cons_of_pos (by simpa using hin), List.filterMap_cons, hu]
      exact .cons hsame ih
    · rw [List.filter_cons_of_neg (by simpa [hlobby] using hin),
        List.filter_cons_of_neg (by simpa using hin)]
      exact ih

/-- In sound tables a detail has one active membership of a user at most, so whoever is in the lobby
finds their own. -/
theorem Sound.exists_stayOf? (h : t.Sound) {m : MemberRow} (hm : m ∈ t.members)
    (hactive : m.isActive = true) {d : LobbyDetail} (hd : d.players = t.playersOf m.lobbyId)
    {caller : Caller} (huser : m.userId = caller.userId) :
    ∃ p, d.stayOf? caller = some p ∧ ∀ founding, t.Entered m ⟨m.lobbyId, founding, p⟩ := by
  obtain ⟨u, hu, -⟩ := exists_user? (h.memberUsers m hm)
  have hshown : m.membership u.username ∈ d.players := by
    rw [hd]
    exact mem_playersOf_iff.2 ⟨m, hm, rfl, u, hu, rfl⟩
  have hthere : (d.stayOf? caller).isSome := by
    rw [LobbyDetail.stayOf?, List.find?_isSome]
    exact ⟨_, hshown, by simp [MemberRow.membership, huser, hactive]⟩
  obtain ⟨p, hp⟩ := Option.isSome_iff_exists.1 hthere
  refine ⟨p, hp, fun founding => ⟨rfl, u, hu, ?_⟩⟩
  unfold LobbyDetail.stayOf? at hp
  have hfound : p ∈ t.playersOf m.lobbyId := hd ▸ List.mem_of_find?_eq_some hp
  obtain ⟨hcaller, hopen⟩ : p.userId = caller.userId ∧ p.isActive = true := by
    simpa using List.find?_some hp
  obtain ⟨k, hk, hlobby, v, hv, rfl⟩ := mem_playersOf_iff.1 hfound
  obtain rfl := h.activeMember_ext hm hk hlobby (hcaller.trans huser.symm) hactive hopen
  obtain rfl := Option.some.inj (hu.symm.trans hv)
  exact ⟨rfl, rfl, rfl, rfl⟩

/-- A name that is on record when another user is entered stays. -/
theorem user?_putUser_of_some {u v : UserRow} {id : Uuid} (h : t.user? id = some v) :
    (t.putUser u).user? id = some v := by
  rw [user?_putUser, h, Option.some_or]

/-- A player who joins last is shown last. -/
theorem Sound.playersOf_withPlayer (h : t.Sound) (s : Supply) (caller : Caller) (lobby : Uuid)
    (horder : (t.withPlayer s caller lobby).members.Pairwise
      fun m k => m.joinedAt < k.joinedAt) :
    ∃ name, (t.withPlayer s caller lobby).playersOf lobby =
      t.playersOf lobby ++ [⟨s.id 0, caller.userId, name, s.time 1, true, none⟩] := by
  have hbefore : t.members.Pairwise fun m k => m.joinedAt < k.joinedAt := by
    rw [withPlayer_members] at horder
    exact horder.sublist (List.sublist_append_left _ _)
  obtain ⟨u, hu, -⟩ :=
    exists_user? (Sound.mem_putUser_self t ⟨caller.userId, caller.username, s.time 0⟩)
  refine ⟨u.username, ?_⟩
  rw [playersOf_of_pairwise horder, playersOf_of_pairwise hbefore, withPlayer, membersOf_addMember,
    if_pos rfl, List.filterMap_append]
  congr 1
  · have hrows : (t.putUser ⟨caller.userId, caller.username, s.time 0⟩).membersOf lobby =
        t.membersOf lobby := by
      rw [membersOf, putUser_members, membersOf]
    rw [hrows]
    refine List.filterMap_congr fun m hm => ?_
    obtain ⟨v, hv, -⟩ := exists_user? (h.memberUsers m (mem_membersOf.1 hm).1)
    rw [hv]
    exact congrArg _ (user?_putUser_of_some hv)
  · exact List.filterMap_cons_some (congrArg _ hu)

/-! ## Entrances are recorded -/

/-- A membership stays one of an entrance as long as its user is known. -/
theorem Entered.of_user? {m : MemberRow} {e : Entrance} (h : t.Entered m e)
    (husers : ∀ {id u}, t.user? id = some u → t'.user? id = some u) : t'.Entered m e := by
  obtain ⟨hlobby, u, hu, hsame⟩ := h
  exact ⟨hlobby, u, husers hu, hsame⟩

/-- One more membership for one more entrance. -/
theorem entered_concat (h : List.Forall₂ t.Entered t.members log) {m : MemberRow} {e : Entrance}
    (hentered : t'.Entered m e) (hmembers : t'.members = t.members ++ [m])
    (husers : ∀ {id u}, t.user? id = some u → t'.user? id = some u) :
    List.Forall₂ t'.Entered t'.members (log ++ [e]) := by
  rw [hmembers]
  exact List.rel_append (h.imp fun _ _ hold => hold.of_user? husers) (.cons hentered .nil)

/-- The entrances lead into lobbies that are there. -/
theorem map_lobby_of_entered {rows : List MemberRow} (h : List.Forall₂ t.Entered rows log) :
    log.map (·.lobby) = rows.map (·.lobbyId) := by
  induction h with
  | nil => rfl
  | cons hentered _ ih => rw [List.map_cons, List.map_cons, hentered.1, ih]

/-- Nobody has entered a lobby that has not been there. -/
theorem Records.find?_eq_none (h : t.Records log) (hsound : t.Sound) {lobby : Uuid}
    (hnew : lobby ∉ t.lobbies.map (·.id)) : log.find? (·.lobby = lobby) = none := by
  rw [List.find?_eq_none]
  intro e he hlobby
  obtain rfl : e.lobby = lobby := by simpa using hlobby
  have hin : e.lobby ∈ t.members.map (·.lobbyId) :=
    map_lobby_of_entered h.rows ▸ List.mem_map_of_mem he
  obtain ⟨m, hm, hid⟩ := List.mem_map.1 hin
  exact hnew (hid ▸ hsound.memberLobbies m hm)

/-- A lobby keeps its first entrance. -/
theorem Records.founded_concat (h : t.Records log) (e : Entrance) {l : LobbyRow}
    (hl : l ∈ t.lobbies) :
    ∃ first, (log ++ [e]).find? (·.lobby = l.id) = some first ∧ first.founding = true ∧
      first.membership.userId = l.leaderId := by
  obtain ⟨first, hfirst, hfounds⟩ := h.founded l hl
  exact ⟨first, by rw [List.find?_append, hfirst, Option.some_or], hfounds⟩

/-- Whoever joins a lobby enters it. -/
theorem Records.join (h : t.Records log) {s : Supply} {caller : Caller} {d : LobbyDetail}
    (hnext : (t.withPlayer s caller d.lobby.id).Sound)
    (hd : d.players = (t.withPlayer s caller d.lobby.id).playersOf d.lobby.id) (typed : Text) :
    (t.withPlayer s caller d.lobby.id).Records
      (log ++ ((Step.command (.join caller typed)).entrance? (.ok (.detail d))).toList) := by
  have hmembers := withPlayer_members t s caller d.lobby.id
  obtain ⟨p, hp, hentered⟩ := hnext.exists_stayOf? (hmembers ▸ List.mem_append_right _ (.head _))
    rfl hd rfl
  rw [Step.entrance?, hp]
  refine ⟨entered_concat h.rows (hentered false) hmembers user?_putUser_of_some, ?_⟩
  rw [withPlayer_lobbies]
  exact fun l hl => h.founded_concat _ hl

/-- Whoever creates a lobby enters it, as the first to do so. -/
theorem Records.create (h : t.Records log) (hsound : t.Sound) {s : Supply} {caller : Caller}
    {code : Text} (hnew : s.id 0 ∉ t.lobbies.map (·.id)) (hnext : (t.withLobby s caller code).Sound)
    {d : LobbyDetail} (hid : d.lobby.id = s.id 0)
    (hd : d.players = (t.withLobby s caller code).playersOf (s.id 0)) :
    (t.withLobby s caller code).Records
      (log ++ ((Step.command (.create caller)).entrance? (.ok (.detail d))).toList) := by
  have hmembers := withLobby_members t s caller code
  obtain ⟨p, hp, hentered⟩ := hnext.exists_stayOf? (hmembers ▸ List.mem_append_right _ (.head _))
    rfl hd rfl
  rw [Step.entrance?, hp, hid]
  refine ⟨entered_concat h.rows (hentered true) hmembers user?_putUser_of_some, ?_⟩
  rw [withLobby_lobbies, List.forall_mem_append, List.forall_mem_singleton]
  refine ⟨fun l hl => h.founded_concat _ hl, ⟨s.id 0, true, p⟩, ?_, rfl, ?_⟩
  · rw [List.find?_append, h.find?_eq_none hsound hnew, Option.none_or]
    exact List.find?_cons_of_pos (by simp)
  · obtain ⟨-, u, -, hsame⟩ := hentered true
    exact hsame.userId.symm

/-- A membership that ends leaves the record of how it began. -/
theorem Records.endMember (h : t.Records log) (m : MemberRow) (leftAt : Timestamp) :
    (t.endMember m leftAt).Records log := by
  refine ⟨?_, h.founded⟩
  rw [Tables.endMember, updateMembers_members, List.forall₂_map_left_iff]
  refine h.rows.imp fun k e hold => ?_
  obtain ⟨hlobby, u, hu, hsame⟩ := hold
  split
  · exact ⟨hlobby, u, hu, hsame.id, hsame.userId, hsame.displayName, hsame.joinedAt⟩
  · exact ⟨hlobby, u, hu, hsame⟩

/-- The other commands bring nobody in. -/
theorem Records.deed (h : t.Records log) {c : Command} (hdeed : t.Deed c t')
    (hcreate : c.operation ≠ .create) (hjoin : c.operation ≠ .join) : t'.Records log := by
  cases hdeed with
  | create => exact absurd rfl hcreate
  | join => exact absurd rfl hjoin
  | read | keep => exact h
  | kick _ _ m leftAt => exact h.endMember m leftAt
  | dismiss m leftAt => exact h.endMember m leftAt

/-- The record does not speak of the stages of lobbies. -/
theorem Records.setStatus (h : t.Records log) (lobby : Uuid) (status : Text) :
    (t.setStatus lobby status).Records log := by
  refine ⟨h.rows, fun l hl => ?_⟩
  obtain ⟨k, hk, rfl⟩ := List.mem_map.1 hl
  split <;> exact h.founded k hk

end

end Tables

/-! ## Along a history -/

namespace World

variable {w : World} {rules : Rules} {log : List Entrance}

/-- A command that succeeds is recorded as the entrance that its answer tells of. -/
theorem execute_records (hsound : w.tables.Sound) (h : w.tables.Records log) {c : Command}
    {a : Result} (hr : (w.execute rules [] c).1 = .ok a) :
    (w.execute rules [] c).2.tables.Records
      (log ++ ((Step.command c).entrance? (.ok a)).toList) := by
  have hnext := hsound.move (execute_move rules hsound c)
  cases c with
  | create caller =>
    obtain ⟨code, e, hnew, hrun⟩ := execute_create_ok hr
    rw [hrun] at hr hnext ⊢
    obtain rfl := Except.ok.inj hr
    exact h.create hsound hnew hnext rfl rfl
  | join caller typed =>
    obtain ⟨l, -, lobby, -, hid, -, hrun⟩ := execute_join_ok hsound hr
    rw [hrun] at hr hnext ⊢
    obtain rfl := Except.ok.inj hr
    rw [← hid] at hnext ⊢
    exact h.join (d := ⟨lobby, _⟩) hnext rfl typed
  | read | kick | setActive =>
    simp only [Step.entrance?, Option.toList_none, List.append_nil]
    exact h.deed (execute_deed hsound hr) nofun nofun

end World

namespace Service

variable {s : Service} {log : List Entrance}

/-- A step is recorded as the entrance that its answer tells of, if it is one. -/
theorem step_records (hsound : s.world.tables.Sound) (h : s.world.tables.Records log) (x : Step) :
    (s.step x).2.world.tables.Records (log ++ (x.entrance? (s.step x).1).toList) := by
  cases x with
  | command c =>
    have hanswer : (s.step (.command c)).1 = (s.world.execute s.rules [] c).1 := rfl
    have hworld : (s.step (.command c)).2.world = (s.world.execute s.rules [] c).2 := rfl
    rw [hanswer, hworld]
    cases hr : (s.world.execute s.rules [] c).1 with
    | error f =>
      rw [(World.execute_allOrNothing hsound s.rules c).1 f hr]
      simpa [Step.entrance?] using h
    | ok a => exact World.execute_records hsound h hr
  | setStatus lobby status =>
    simp only [Step.entrance?, Option.toList_none, List.append_nil]
    exact h.setStatus lobby status
  | advance | adopt =>
    simp only [Step.entrance?, Option.toList_none, List.append_nil]
    exact h

/-- The entrances of a history are those of its first step and of the rest. -/
theorem entrances_cons (s : Service) (x : Step) (rest : List Step) :
    s.entrances (x :: rest) =
      (x.entrance? (s.step x).1).toList ++ (s.step x).2.entrances rest := by
  have hzip : (x :: rest).zip (s.run (x :: rest)).1 =
      (x, (s.step x).1) :: rest.zip ((s.step x).2.run rest).1 := rfl
  rw [entrances, hzip, List.filterMap_cons]
  cases h : x.entrance? (s.step x).1 <;> simp [h, entrances]

/-- After a history, the record has its entrances behind the ones of before. -/
theorem records_after (hsound : s.world.tables.Sound) (h : s.world.tables.Records log)
    (steps : List Step) :
    (s.after steps).world.tables.Records (log ++ s.entrances steps) := by
  induction steps generalizing s log with
  | nil => simpa [entrances, after] using h
  | cons x rest ih =>
    have hrest := ih (hsound.move (step_move hsound x)) (step_records hsound h x)
    rwa [List.append_assoc, ← entrances_cons] at hrest

/-- With a clock whose readings increase, the memberships stand in their table in the order in which
they began. -/
theorem pairwise_joinedAt (rules : Rules) (supply : Supply) (steps : List Step)
    (hclock : ((fresh rules supply).readings steps).Pairwise (· < ·)) :
    ((fresh rules supply).after steps).world.tables.members.Pairwise
      fun m k => m.joinedAt < k.joinedAt := by
  have hjoins := hclock.sublist (joinedAt_sublist rules supply steps)
  exact List.pairwise_map.1 hjoins

/-- If each clock reading that a history takes is later than the one before, the players of a lobby
are the entrances that creating and joining it have given, in the order in which these succeeded and
whatever the identifiers are. The first of them is the membership that the leader got by creating
it. A join that succeeds next, at later readings still, returns the players of before with one new
active membership of the caller behind them. -/
theorem players_in_join_order (rules : Rules) (supply : Supply) (steps : List Step)
    (hclock : ((fresh rules supply).readings steps).Pairwise (· < ·)) :
    let s := (fresh rules supply).after steps
    (∀ l ∈ s.world.tables.lobbies, ∀ stage : Status, l.status = Text.ofString stage.label →
      let entrances := ((fresh rules supply).entrances steps).filter (·.lobby = l.id)
      ∃ d, s.world.tables.detail? l.id = .ok (some d) ∧
        List.Forall₂ (fun e p => e.membership.SameStay p) entrances d.players ∧
        ∃ e p, entrances.head? = some e ∧ d.players.head? = some p ∧ e.founding = true ∧
          e.membership.SameStay p ∧ p.userId = l.leaderId) ∧
    ∀ caller typed d, (s.step (.command (.join caller typed))).1 = .ok (.detail d) →
      ((fresh rules supply).readings (steps ++ [.command (.join caller typed)])).Pairwise
        (· < ·) →
      ∃ before p, s.world.tables.detail? d.lobby.id = .ok (some before) ∧
        d.players = before.players ++ [p] ∧ p.userId = caller.userId ∧ p.isActive = true ∧
        p.leftAt = none ∧ ∀ q ∈ before.players, q.id ≠ p.id := by
  intro s
  have hsound : s.world.tables.Sound := sound_after Tables.Sound.empty steps
  have hrecords : s.world.tables.Records ((fresh rules supply).entrances steps) := by
    have hempty : (fresh rules supply).world.tables.Records [] := by
      constructor <;> simp [fresh, Tables.empty]
    exact records_after Tables.Sound.empty hempty steps
  have horder := pairwise_joinedAt rules supply steps hclock
  constructor
  · intro l hl stage hstage entrances
    have hplayers := Tables.forall₂_players hrecords.rows l.id
    rw [← Tables.membersOf, ← Tables.playersOf_of_pairwise horder] at hplayers
    obtain ⟨e, hfirst, hfounding, hleader⟩ := hrecords.founded l hl
    rw [← List.head?_filter] at hfirst
    obtain ⟨rest, hentrances⟩ := List.head?_eq_some_iff.1 hfirst
    obtain ⟨p, ps, hsame, -, hlist⟩ := List.forall₂_cons_left_iff.1 (hentrances ▸ hplayers)
    refine ⟨⟨⟨l.id, l.joinCode, l.leaderId, stage, l.createdAt, l.updatedAt⟩,
      s.world.tables.playersOf l.id⟩, ?_, hplayers, e, p, hfirst, ?_, hfounding, hsame,
      hsame.userId.trans hleader⟩
    · rw [Tables.detail?, hsound.lobby?_of_mem hl]
      dsimp only
      rw [LobbyRow.lobby?_of_status hstage]
      rfl
    · dsimp only
      rw [hlist, List.head?_cons]
  · intro caller typed d hjoin hnext
    obtain ⟨l, hl, lobby, hlobby, hid, -, hrun⟩ := World.execute_join_ok hsound hjoin
    have hanswer : (s.step (.command (.join caller typed))).1 =
        (s.world.execute s.rules [] (.join caller typed)).1 := rfl
    rw [hanswer, hrun] at hjoin
    cases hjoin
    have hlater := pairwise_joinedAt rules supply _ hnext
    have hids := (sound_after Tables.Sound.empty (steps ++ [.command (.join caller typed)])
      (s := fresh rules supply)).memberIds
    rw [after_append] at hlater hids
    have htables : (s.after [.command (.join caller typed)]).world.tables =
        (s.world.execute s.rules [] (.join caller typed)).2.tables := rfl
    rw [htables, hrun] at hlater hids
    obtain ⟨name, hplayers⟩ := hsound.playersOf_withPlayer _ caller l.id hlater
    refine ⟨⟨lobby, s.world.tables.playersOf l.id⟩, _, ?_, hplayers, rfl, rfl, rfl, ?_⟩
    · rw [hid, Tables.detail?, hsound.lobby?_of_mem hl]
      dsimp only
      rw [hlobby]
      rfl
    · intro q hq
      obtain ⟨k, hk, -, v, -, rfl⟩ := Tables.mem_playersOf_iff.1 hq
      rw [Tables.withPlayer_members, List.map_append, List.nodup_append] at hids
      exact hids.2.2 k.id (List.mem_map_of_mem hk) _ (.head _)

open Sample in
/-- Ann, Bob and Cleo come one after the other, with smaller identifiers each time, and Bob is
kicked before Cleo comes. They are shown in this order, Bob in his place. -/
theorem players_in_join_order_falling :
    let falling : Supply := { supply with ids := ⟨[.ofNat 77, .ofNat 9, .ofNat 5, .ofNat 3], 0⟩ }
    let steps : List Step := [.command (.create ann), .command (.join bob "LMNOPQ"),
      .command (.kick ann (.ofNat 77) bob.userId)]
    let join : Step := .command (.join cleo "LMNOPQ")
    let s := (fresh {} falling).after steps
    ((fresh {} falling).readings steps).Pairwise (· < ·) ∧
      ((fresh {} falling).readings (steps ++ [join])).Pairwise (· < ·) ∧
      (∃ l ∈ s.world.tables.lobbies, l.status = Text.ofString Status.waiting.label ∧
        ∃ d, s.world.tables.detail? l.id = .ok (some d) ∧
          List.Forall₂ (fun e p => e.membership.SameStay p)
            (((fresh {} falling).entrances steps).filter (·.lobby = l.id)) d.players) ∧
      s.world.tables.members.map (·.id) = [.ofNat 9, .ofNat 5] ∧
      ∃ d before p, (s.step join).1 = .ok (.detail d) ∧
        s.world.tables.detail? d.lobby.id = .ok (some before) ∧
        d.players = before.players ++ [p] ∧ p.userId = cleo.userId := by
  intro falling steps join s
  have hclock : ((fresh {} falling).readings steps).Pairwise (· < ·) := by decide +kernel
  have hnext : ((fresh {} falling).readings (steps ++ [join])).Pairwise (· < ·) := by
    decide +kernel
  have hlobby : ∃ l ∈ s.world.tables.lobbies, l.status = Text.ofString Status.waiting.label := by
    decide +kernel
  have hids : s.world.tables.members.map (·.id) = [.ofNat 9, .ofNat 5] := by decide +kernel
  have hok : (s.step join).1.isOk := by decide +kernel
  have hdetail : (s.step join).1 ≠ .ok .done := by decide +kernel
  have horder := players_in_join_order {} falling steps hclock
  have hs : (fresh {} falling).after steps = s := rfl
  rw [hs] at horder
  clear_value s
  obtain ⟨hplayers, hjoin⟩ := horder
  refine ⟨hclock, hnext, ?_, hids, ?_⟩
  · obtain ⟨l, hl, hstage⟩ := hlobby
    obtain ⟨d, hd, hsame, -⟩ := hplayers l hl .waiting hstage
    exact ⟨l, hl, hstage, d, hd, hsame⟩
  · cases hanswer : (s.step join).1 with
    | error f =>
      rw [hanswer] at hok
      cases hok
    | ok r =>
      cases r with
      | done => exact absurd hanswer hdetail
      | detail d =>
        obtain ⟨before, p, hbefore, happend, hcleo, -⟩ := hjoin cleo "LMNOPQ" d hanswer hnext
        exact ⟨d, before, p, rfl, hbefore, happend, hcleo⟩

end Service

end GameLobby
