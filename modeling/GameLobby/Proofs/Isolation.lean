import GameLobby.Proofs.Agreement
import GameLobby.Proofs.Deeds

/-!
# Lobbies do not touch each other

A command is addressed to one lobby at most (`Tables.addressee?`). Every other lobby is untouched by
it, whatever comes of it (`Tables.Deed.untouched`): its row and its memberships are as before, and
so is its detail, since entering a user changes no name. The other way round, what comes of a
command is settled by the lobby that it is addressed to and by the users (`World.Agrees`). The one
exception is a join, which fails when the next identifier is that of any membership.
-/

namespace GameLobby

namespace Tables

/-- The lobby that a command is addressed to, by its join code or by its identifier. -/
def addressee? (t : Tables) : Command → Option LobbyRow
  | .create _ => none
  | .join _ typed => if typed.length = JoinCode.size then t.lobbyByCode? typed.upper else none
  | .read _ lobby | .kick _ lobby _ | .setActive lobby _ _ => t.lobby? lobby

/-- What a command is addressed to is a lobby that is there. -/
theorem mem_of_addressee? {t : Tables} {c : Command} {l : LobbyRow} (h : t.addressee? c = some l) :
    l ∈ t.lobbies := by
  cases c with
  | create caller => cases h
  | join caller typed =>
    rw [addressee?] at h
    split at h
    · exact (mem_of_lobbyByCode? h).1
    · cases h
  | read | kick | setActive => exact (mem_of_lobby? h).1

/-! ## Other lobbies -/

/-- A lobby is untouched: its row, its memberships and the users of these are as before. -/
structure Untouched (lobby : Uuid) (t t' : Tables) : Prop where
  row : t'.lobby? lobby = t.lobby? lobby
  members : t'.membersOf lobby = t.membersOf lobby
  users : ∀ m ∈ t.membersOf lobby, t'.user? m.userId = t.user? m.userId

section
variable {t t' : Tables} {c : Command} {l : LobbyRow} {lobby : Uuid}

theorem Untouched.refl (lobby : Uuid) (t : Tables) : Untouched lobby t t :=
  ⟨rfl, rfl, fun _ _ => rfl⟩

theorem Untouched.trans {t'' : Tables} (h : Untouched lobby t t') (h' : Untouched lobby t' t'') :
    Untouched lobby t t'' where
  row := h'.row.trans h.row
  members := h'.members.trans h.members
  users m hm := (h'.users m (h.members ▸ hm)).trans (h.users m hm)

/-- A lobby that has been left alone has the players that it had. -/
theorem Untouched.playersOf (hsound : t.Sound) (h : Untouched lobby t t') :
    t'.playersOf lobby = t.playersOf lobby :=
  playersOf_congr hsound (.of_eq h.members) h.users

/-- The detail of an untouched lobby is as before. -/
theorem Untouched.detail? (hsound : t.Sound) (h : Untouched lobby t t') :
    t'.detail? lobby = t.detail? lobby := by
  rw [Tables.detail?, Tables.detail?, h.row, h.playersOf hsound]

/-- Entering a user leaves the users of all memberships. -/
theorem Sound.untouched_putUser (h : t.Sound) (u : UserRow) : Untouched lobby t (t.putUser u) where
  row := by rw [lobby?, putUser_lobbies, lobby?]
  members := by rw [membersOf, putUser_members, membersOf]
  users := by
    intro m hm
    obtain ⟨k, hk, -⟩ := exists_user? (h.memberUsers m (mem_membersOf.1 hm).1)
    rw [user?_putUser, hk, Option.some_or]

/-- Opening another lobby leaves a lobby alone. -/
theorem untouched_addLobby {row : LobbyRow} (hother : row.id ≠ lobby) :
    Untouched lobby t (t.addLobby row) where
  row := by simp [lobby?, List.find?_append, hother]
  members := rfl
  users _ _ := rfl

/-- A membership that begins in another lobby leaves a lobby alone. -/
theorem untouched_addMember {m : MemberRow} (hother : m.lobbyId ≠ lobby) :
    Untouched lobby t (t.addMember m) where
  row := rfl
  members := by rw [membersOf_addMember, if_neg hother, List.append_nil]
  users _ _ := rfl

/-- A membership that ends in another lobby leaves a lobby alone. -/
theorem untouched_endMember {m : MemberRow} (hother : m.lobbyId ≠ lobby) (leftAt : Timestamp) :
    Untouched lobby t (t.endMember m leftAt) where
  row := rfl
  members := by
    have hrows : ∀ k ∈ t.membersOf lobby, (if decide (k = m) then k.ended leftAt else k) = k := by
      intro k hk
      refine if_neg fun heq => hother ?_
      rw [← of_decide_eq_true heq]
      exact (mem_membersOf.1 hk).2
    have hended : ∀ k : MemberRow, (k.ended leftAt).lobbyId = k.lobbyId := fun _ => rfl
    rw [endMember, membersOf_updateMembers t _ hended, List.map_congr_left hrows, List.map_id']
  users _ _ := rfl

/-- A lobby that is not the one under an identifier has another identifier. -/
theorem Sound.ne_of_lobby?_ne (h : t.Sound) (hl : l ∈ t.lobbies)
    (hother : t.lobby? lobby ≠ some l) :
    lobby ≠ l.id := by
  rintro rfl
  exact hother (h.lobby?_of_mem hl)

/-- What a command does to a lobby that it is not addressed to: nothing. -/
theorem Deed.untouched (hsound : t.Sound) (hdeed : t.Deed c t') (hl : l ∈ t.lobbies)
    (hother : t.addressee? c ≠ some l) : Untouched l.id t t' := by
  cases hdeed with
  | create caller code s newCode newLobby =>
    have hid : s.id 0 ≠ l.id := fun heq => newLobby (heq ▸ List.mem_map_of_mem hl)
    exact ((hsound.untouched_putUser _).trans (untouched_addLobby hid)).trans
      (untouched_addMember hid)
  | join caller typed lobby s known absent newMember length code =>
    have hfound : t.addressee? (.join caller typed) = some lobby := by
      rw [addressee?, if_pos length, ← code]
      exact hsound.lobbyByCode?_of_mem known
    have hid : lobby.id ≠ l.id := by
      refine hsound.ne_of_lobby?_ne hl ?_
      rwa [hsound.lobby?_of_mem known, ← hfound]
    exact (hsound.untouched_putUser _).trans (untouched_addMember hid)
  | read | keep => exact .refl l.id t
  | kick caller lobby m leftAt known leads member inside =>
    exact untouched_endMember (inside ▸ hsound.ne_of_lobby?_ne hl hother) leftAt
  | dismiss m leftAt => exact untouched_endMember (hsound.ne_of_lobby?_ne hl hother) leftAt

end

end Tables

/-- Two supplies whose next identifier and next two clock readings are the same. Operations other
than creations draw no more than that. -/
structure Supply.SameDraws (s s' : Supply) : Prop where
  id : s'.id 0 = s.id 0
  time : ∀ n < 2, s'.time n = s.time n

/-- The same player enters where the draws are the same. -/
theorem Tables.AgreeOn.withPlayer {t t' : Tables} {lobby : Uuid} (h : AgreeOn lobby t t')
    {s s' : Supply} (hdraws : s.SameDraws s') (caller : Caller) (entered : Uuid) :
    AgreeOn lobby (t.withPlayer s caller entered) (t'.withPlayer s' caller entered) := by
  rw [Tables.withPlayer, Tables.withPlayer, hdraws.id, hdraws.time 0 (by decide),
    hdraws.time 1 (by decide)]
  exact (h.putUser _).addMember _

namespace World

/-- Past its deadline, what an operation comes to does not depend on the world. -/
theorem perform_fst_of_expired {α : Type} {conditions : Conditions}
    (hexp : conditions.expired = true)
    {op : Operation α} (hop : op.AsksFirst) (w w' : World) :
    (w'.perform conditions op).1 = (w.perform conditions op).1 := by
  cases op with
  | refused r => rfl
  | transact body =>
    obtain ⟨q, next, rfl⟩ := hop
    rw [perform_ask_of_expired hexp, perform_ask_of_expired hexp]

/-- What is read of a lobby comes from its row, its memberships and its players. -/
theorem perform_read_congr {t t' : Tables} {caller : Caller} {lobby : Uuid}
    (hrow : t'.lobby? lobby = t.lobby? lobby)
    (hknown : ∀ row, t.lobby? lobby = some row →
      t'.hasMembership lobby caller.userId = t.hasMembership lobby caller.userId ∧
        t'.playersOf lobby = t.playersOf lobby) (s s' : Supply) :
    (perform {} (.read caller lobby) ⟨t', s'⟩).1 = (perform {} (.read caller lobby) ⟨t, s⟩).1 := by
  rw [perform_read, perform_read, hrow]
  cases h : t.lobby? lobby with
  | none => rfl
  | some row =>
    obtain ⟨hmembership, hplayers⟩ := hknown row h
    dsimp only
    rw [hmembership, hplayers]
    split <;> rfl

/-- Whoever reads an untouched lobby is told the same as before. -/
theorem execute_read_of_untouched {t t' : Tables} (hsound : t.Sound) {lobby : Uuid}
    (h : Tables.Untouched lobby t t') (rules : Rules) (caller : Caller) (s s' : Supply) :
    ((⟨t', s'⟩ : World).execute rules [] (.read caller lobby)).1 =
      ((⟨t, s⟩ : World).execute rules [] (.read caller lobby)).1 := by
  have hread : (perform (rules.conditions []) (.read caller lobby) ⟨t', s'⟩).1 =
      (perform (rules.conditions []) (.read caller lobby) ⟨t, s⟩).1 := by
    cases hexp : rules.expired with
    | true => exact perform_fst_of_expired hexp (Operation.asksFirst_read caller lobby) _ _
    | false =>
      rw [conditions_of_not_expired hexp]
      exact perform_read_congr h.row (fun _ _ =>
        ⟨Tables.hasMembership_congr (.of_eq h.members) _, h.playersOf hsound⟩) s s'
  exact congrArg (Except.map Result.detail) hread

/-- Whatever comes of a command, it leaves all lobbies untouched but the one that it is addressed
to. -/
theorem execute_untouched {w : World} (hsound : w.tables.Sound) (rules : Rules) (c : Command)
    {l : LobbyRow} (hl : l ∈ w.tables.lobbies) (hother : w.tables.addressee? c ≠ some l) :
    Tables.Untouched l.id w.tables (w.execute rules [] c).2.tables := by
  cases hresult : (w.execute rules [] c).1 with
  | ok a => exact (execute_deed hsound hresult).untouched hsound hl hother
  | error f =>
    rw [(execute_allOrNothing hsound rules c).1 f hresult]
    exact .refl l.id w.tables

/-! ## What settles a command -/

/-- Two worlds agree about a command: it is addressed to the same lobby and they agree on that, and
if it is a join, the next identifier is that of a membership in both or in none. -/
structure Agrees (c : Command) (w w' : World) : Prop where
  addressee : w'.tables.addressee? c = w.tables.addressee? c
  lobby : ∀ l, w.tables.addressee? c = some l → Tables.AgreeOn l.id w.tables w'.tables
  identifier : ∀ caller typed, c = .join caller typed →
    ((∃ m ∈ w'.tables.members, m.id = w'.supply.id 0) ↔
      ∃ m ∈ w.tables.members, m.id = w.supply.id 0)

section
variable {α β : Type} {c : Command} {w w' : World} {r r' : Except Failure α × World}

/-- What comes of a command on two worlds is alike: it succeeds on both, or fails on both for the
same reason. Where the draws are the same so is the result, and the tables agree on the lobby
afterwards. -/
structure Alike (c : Command) (w w' : World) (r r' : Except Failure α × World) : Prop where
  ends : r'.1.map (fun _ => ()) = r.1.map fun _ => ()
  result : w.supply.SameDraws w'.supply → r'.1 = r.1
  tables : w.supply.SameDraws w'.supply → ∀ l, w.tables.addressee? c = some l →
    Tables.AgreeOn l.id r.2.tables r'.2.tables

/-- Nothing is changed, and the result is the same. -/
theorem Alike.unchanged (h : Agrees c w w') (hresult : r'.1 = r.1) (hr : r.2.tables = w.tables)
    (hr' : r'.2.tables = w'.tables) : Alike c w w' r r' where
  ends := by rw [hresult]
  result _ := hresult
  tables _ l hl := by
    rw [hr, hr']
    exact h.lobby l hl

theorem Alike.map (h : Alike c w w' r r') (g : α → β) :
    Alike c w w' (r.1.map g, r.2) (r'.1.map g, r'.2) where
  ends := by
    have hends : ∀ x : Except Failure α, (x.map g).map (fun _ => ()) = x.map fun _ => () := by
      intro x
      cases x <;> rfl
    rw [hends, hends]
    exact h.ends
  result hdraws := congrArg (Except.map g) (h.result hdraws)
  tables := h.tables

/-- An operation that comes to what is alike before its deadline does so past it. -/
theorem Alike.perform {op : Operation α} (hop : op.AsksFirst) (h : Agrees c w w')
    (halike : Alike c w w' (w.perform {} op) (w'.perform {} op)) (rules : Rules) :
    Alike c w w' (w.perform (rules.conditions []) op) (w'.perform (rules.conditions []) op) := by
  cases hexp : rules.expired with
  | true =>
    have hc : (rules.conditions []).expired = true := hexp
    exact .unchanged h (perform_fst_of_expired hc hop w w') (perform_tables_of_expired hc op w)
      (perform_tables_of_expired hc op w')
  | false =>
    rw [conditions_of_not_expired hexp]
    exact halike

end

section
variable {t t' : Tables} {s s' : Supply} {c : Command}

/-- A read runs alike in worlds that agree on its lobby. -/
theorem perform_read_alike (hsound : t.Sound) {caller : Caller} {lobby : Uuid}
    (h : Agrees (.read caller lobby) ⟨t, s⟩ ⟨t', s'⟩) :
    Alike (.read caller lobby) ⟨t, s⟩ ⟨t', s'⟩ (perform {} (.read caller lobby) ⟨t, s⟩)
      (perform {} (.read caller lobby) ⟨t', s'⟩) := by
  refine .unchanged h ?_ (perform_read_tables t s caller lobby)
    (perform_read_tables t' s' caller lobby)
  refine perform_read_congr h.addressee (fun row hrow => ?_) s s'
  have hagree := h.lobby row hrow
  obtain ⟨-, rfl⟩ := Tables.mem_of_lobby? hrow
  exact ⟨Tables.hasMembership_congr hagree.members _, hagree.playersOf hsound⟩

/-- A kick runs alike in worlds that agree on its lobby. -/
theorem perform_kick_alike {caller : Caller} {lobby target : Uuid}
    (h : Agrees (.kick caller lobby target) ⟨t, s⟩ ⟨t', s'⟩) :
    Alike (.kick caller lobby target) ⟨t, s⟩ ⟨t', s'⟩
      (perform {} (.kick caller lobby target) ⟨t, s⟩)
      (perform {} (.kick caller lobby target) ⟨t', s'⟩) := by
  have hrow' : t'.lobby? lobby = t.lobby? lobby := h.addressee
  rw [perform_kick, perform_kick, hrow']
  split
  · exact .unchanged h rfl rfl rfl
  cases hrow : t.lobby? lobby with
  | none => exact .unchanged h rfl rfl rfl
  | some row =>
    have hagree := h.lobby row hrow
    obtain ⟨-, rfl⟩ := Tables.mem_of_lobby? hrow
    dsimp only
    rw [Tables.isActiveMember_congr hagree.members target]
    split
    · split
      · refine ⟨rfl, fun _ => rfl, fun hdraws l hl => ?_⟩
        dsimp only
        rw [hdraws.time 0 (by decide)]
        exact (h.lobby l hl).updateMembers _ fun _ => rfl
      · exact .unchanged h rfl rfl rfl
    · exact .unchanged h rfl rfl rfl

/-- A change of the active flag runs alike in worlds that agree on its lobby. -/
theorem perform_setActive_alike {lobby membership : Uuid} {active : Bool}
    (h : Agrees (.setActive lobby membership active) ⟨t, s⟩ ⟨t', s'⟩) :
    Alike (.setActive lobby membership active) ⟨t, s⟩ ⟨t', s'⟩
      (perform {} (.setActive lobby membership active) ⟨t, s⟩)
      (perform {} (.setActive lobby membership active) ⟨t', s'⟩) := by
  have hrow' : t'.lobby? lobby = t.lobby? lobby := h.addressee
  rw [perform_setActive, perform_setActive, hrow']
  cases hrow : t.lobby? lobby with
  | none => exact .unchanged h rfl rfl rfl
  | some row =>
    have hagree := h.lobby row hrow
    obtain ⟨-, rfl⟩ := Tables.mem_of_lobby? hrow
    simp only [Option.isNone_some, Bool.false_eq_true, ↓reduceIte]
    rw [Tables.isActiveMembership_congr hagree.members membership]
    split
    · refine ⟨rfl, fun _ => rfl, fun hdraws l hl => ?_⟩
      dsimp only
      rw [hdraws.time 0 (by decide)]
      refine (h.lobby l hl).updateMembers _ fun m => ?_
      cases active <;> rfl
    · exact .unchanged h rfl rfl rfl

/-- Whom a lobby takes in depends on nothing but the lobby. -/
theorem admission_congr {code : Text} (hfound : t'.lobbyByCode? code = t.lobbyByCode? code)
    (hagree : ∀ l, t.lobbyByCode? code = some l → Tables.AgreeOn l.id t t') (rules : Rules)
    (caller : Caller) : t'.admission rules caller code = t.admission rules caller code := by
  rw [Tables.admission, Tables.admission, hfound]
  cases encodable code with
  | error f => rfl
  | ok _ =>
    cases hrow : t.lobbyByCode? code with
    | none => rfl
    | some row =>
      dsimp only
      cases hlobby : row.lobby? with
      | error f => rfl
      | ok lobby =>
        have hid : lobby.id = row.id := by rw [(LobbyRow.lobby?_ok hlobby).2]
        have hmembers := (hagree row hrow).members
        simp only [hid, Tables.activeCount_congr hmembers, Tables.isActiveMember_congr hmembers]

/-- A caller who has been taken in is told of the lobby. -/
theorem withPlayer_alike (hsound : t.Sound) (hsound' : t'.Sound) {rules : Rules} {caller : Caller}
    {code : Text} {lobby : Lobby} (h : Agrees c ⟨t, s⟩ ⟨t', s'⟩)
    (hfound : t'.lobbyByCode? code = t.lobbyByCode? code)
    (hagree : ∀ l, t.lobbyByCode? code = some l → Tables.AgreeOn l.id t t')
    (hadmission : t.admission rules caller code = .ok lobby)
    (hnew : ¬ t.members.any (·.id = s.id 0) = true) (after after' : Supply) :
    Alike c ⟨t, s⟩ ⟨t', s'⟩
      (((t.withPlayer s caller lobby.id).detail? lobby.id).bind Operation.found,
        ⟨t.withPlayer s caller lobby.id, after⟩)
      (((t'.withPlayer s' caller lobby.id).detail? lobby.id).bind Operation.found,
        ⟨t'.withPlayer s' caller lobby.id, after'⟩) := by
  obtain ⟨row, hrow, hlobby, -⟩ := Tables.admission_ok hadmission
  have hid : lobby.id = row.id := by rw [(LobbyRow.lobby?_ok hlobby).2]
  have hentered : (t.withPlayer s caller lobby.id).Sound :=
    hsound.move (withPlayer_move s hadmission hnew)
  rw [hsound.detail?_withPlayer hrow hlobby,
    hsound'.detail?_withPlayer (hfound.trans hrow) hlobby]
  refine ⟨rfl, fun hdraws => ?_,
    fun hdraws l hl => (h.lobby l hl).withPlayer hdraws caller lobby.id⟩
  have hplayers := ((hagree row hrow).withPlayer hdraws caller row.id).playersOf (hid ▸ hentered)
  rw [← hid] at hplayers
  rw [hplayers]

/-- A join runs alike in worlds that agree on the lobby that its code leads to. -/
theorem perform_join_alike (hsound : t.Sound) (hsound' : t'.Sound) (rules : Rules) {caller : Caller}
    {typed : Text} (h : Agrees (.join caller typed) ⟨t, s⟩ ⟨t', s'⟩) :
    Alike (.join caller typed) ⟨t, s⟩ ⟨t', s'⟩ (perform {} (.join rules caller typed) ⟨t, s⟩)
      (perform {} (.join rules caller typed) ⟨t', s'⟩) := by
  have hused : t'.members.any (·.id = s'.id 0) = t.members.any (·.id = s.id 0) := by
    rw [Bool.eq_iff_iff]
    simpa using h.identifier caller typed rfl
  rw [perform_join, perform_join]
  cases hcode : JoinCode.normalize typed with
  | error r => exact .unchanged h rfl rfl rfl
  | ok code =>
    obtain ⟨hlength, rfl⟩ := JoinCode.normalize_ok hcode
    have haddressee : ∀ t : Tables,
        t.addressee? (.join caller typed) = t.lobbyByCode? typed.upper := fun _ => if_pos hlength
    have hfound : t'.lobbyByCode? typed.upper = t.lobbyByCode? typed.upper := by
      rw [← haddressee, ← haddressee]
      exact h.addressee
    have hagree : ∀ l, t.lobbyByCode? typed.upper = some l → Tables.AgreeOn l.id t t' :=
      fun l hl => h.lobby l ((haddressee t).trans hl)
    dsimp only
    rw [admission_congr hfound hagree]
    cases hadmission : t.admission rules caller typed.upper with
    | error f => exact .unchanged h rfl rfl rfl
    | ok lobby =>
      dsimp only
      cases encodable caller.username with
      | error f => exact .unchanged h rfl rfl rfl
      | ok _ =>
        dsimp only
        rw [hused]
        split
        · exact .unchanged h rfl rfl rfl
        · next hnew => exact withPlayer_alike hsound hsound' h hfound hagree hadmission hnew _ _

/-- What comes of a command that is no creation is alike on worlds that agree about it. -/
theorem execute_alike {w w' : World} (hsound : w.tables.Sound) (hsound' : w'.tables.Sound)
    (rules : Rules) {c : Command} (hc : ∀ caller, c ≠ .create caller) (h : Agrees c w w') :
    Alike c w w' (w.execute rules [] c) (w'.execute rules [] c) := by
  cases c with
  | create caller => exact absurd rfl (hc caller)
  | join caller typed =>
    have hjoin := perform_join_alike hsound hsound' rules h
    exact (hjoin.perform (Operation.asksFirst_join rules caller typed) h rules).map _
  | read caller lobby =>
    have hread := perform_read_alike hsound h
    exact (hread.perform (Operation.asksFirst_read caller lobby) h rules).map _
  | kick caller lobby target =>
    have hkick := perform_kick_alike h
    exact (hkick.perform (Operation.asksFirst_kick caller lobby target) h rules).map _
  | setActive lobby membership active =>
    have hset := perform_setActive_alike h
    exact (hset.perform (Operation.asksFirst_setActive lobby membership active) h rules).map _

end

/-- Whatever comes of a command, all lobbies but the one that it is addressed to have the same row,
the same memberships and the same detail afterwards, and whoever reads one is told the same. And
unless it is a creation, whether it succeeds or why it fails depends on nothing but its arguments,
that lobby, the users and, for a join, whether the next identifier is that of a membership. Where
the same is drawn, so do its result and what it does to that lobby. -/
theorem lobbies_isolated {w : World} (h : w.tables.Reachable) (rules : Rules) (c : Command) :
    (∀ l ∈ w.tables.lobbies, w.tables.addressee? c ≠ some l →
      let after := (w.execute rules [] c).2
      after.tables.lobby? l.id = some l ∧
        after.tables.membersOf l.id = w.tables.membersOf l.id ∧
        after.tables.detail? l.id = w.tables.detail? l.id ∧
        ∀ rules' caller, (after.execute rules' [] (.read caller l.id)).1 =
          (w.execute rules' [] (.read caller l.id)).1) ∧
    ∀ w' : World, w'.tables.Reachable → (∀ caller, c ≠ .create caller) → Agrees c w w' →
      (w'.execute rules [] c).1.map (fun _ => ()) = (w.execute rules [] c).1.map (fun _ => ()) ∧
      (w.supply.SameDraws w'.supply →
        (w'.execute rules [] c).1 = (w.execute rules [] c).1 ∧
        ∀ l, w.tables.addressee? c = some l →
          Tables.AgreeOn l.id (w.execute rules [] c).2.tables
            (w'.execute rules [] c).2.tables) := by
  have hsound := h.sound
  refine ⟨fun l hl hother => ?_, fun w' h' hc hagrees => ?_⟩
  · have huntouched := execute_untouched hsound rules c hl hother
    exact ⟨huntouched.row.trans (hsound.lobby?_of_mem hl), huntouched.members,
      huntouched.detail? hsound,
      fun rules' caller => execute_read_of_untouched hsound huntouched rules' caller _ _⟩
  · have halike := execute_alike hsound h'.sound rules hc hagrees
    exact ⟨halike.ends, fun hdraws => ⟨halike.result hdraws, halike.tables hdraws⟩⟩

open Sample in
/-- Cleo joins Ann's lobby. Bob's lobby is as it was, and whether it is open or closed makes no
difference to her. -/
theorem lobbies_isolated_bob :
    let past : List Step := [.command (.create ann), .command (.create bob)]
    let closing : Step := .setStatus (IdSource.serial 3) "closed"
    let w := ((Service.fresh {} Sample.supply).after past).world
    let w' := ((Service.fresh {} Sample.supply).after (past ++ [closing])).world
    let c : Command := .join cleo "LMNOPQ"
    w.tables.Reachable ∧ w'.tables.Reachable ∧ w'.tables ≠ w.tables ∧ Agrees c w w' ∧
      (w.execute {} [] c).1.isOk = true ∧ (w'.execute {} [] c).1 = (w.execute {} [] c).1 ∧
      ∃ l ∈ w.tables.lobbies, l.leaderId = bob.userId ∧
        (w.execute {} [] c).2.tables.detail? l.id = w.tables.detail? l.id := by
  intro past closing w w' c
  have h : w.tables.Reachable := ⟨{}, Sample.supply, past, rfl⟩
  have h' : w'.tables.Reachable := ⟨{}, Sample.supply, past ++ [closing], rfl⟩
  have hjoin : ∀ caller, c ≠ .create caller := fun _ => nofun
  have hlobby : ∀ l ∈ w.tables.lobbies, w.tables.addressee? c = some l →
      w'.tables.users = w.tables.users ∧ w'.tables.lobby? l.id = w.tables.lobby? l.id ∧
        w'.tables.membersOf l.id = w.tables.membersOf l.id := by
    decide +kernel
  have hagrees : Agrees c w w' := by
    refine ⟨by decide +kernel, fun l hl => ?_, ?_⟩
    · obtain ⟨husers, hrow, hmembers⟩ := hlobby l (Tables.mem_of_addressee? hl) hl
      exact ⟨.of_eq husers, hrow, .of_eq hmembers⟩
    · rintro _ _ -
      exact iff_of_false (by decide +kernel) (by decide +kernel)
  have hsupply : w'.supply = w.supply := by decide +kernel
  have hdifferent : w'.tables ≠ w.tables := by decide +kernel
  have hok : (w.execute {} [] c).1.isOk = true := by decide +kernel
  obtain ⟨l, hl, hleads, hother⟩ : ∃ l ∈ w.tables.lobbies, l.leaderId = bob.userId ∧
      w.tables.addressee? c ≠ some l := by decide +kernel
  have hisolated := lobbies_isolated h {} c
  clear_value w w' c
  have hdraws : w.supply.SameDraws w'.supply := by
    rw [hsupply]
    exact ⟨rfl, fun _ _ => rfl⟩
  obtain ⟨hothers, hsame⟩ := hisolated
  exact ⟨h, h', hdifferent, hagrees, hok, ((hsame w' h' hjoin hagrees).2 hdraws).1, l, hl, hleads,
    (hothers l hl hother).2.2.1⟩

end World

end GameLobby
