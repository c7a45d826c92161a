import GameLobby.Proofs.Deeds

/-!
# The names of users

A user is entered under the name of their first creation or join that is carried out, and keeps it.
Later names are passed over, since entering a known user changes nothing. A name in a command that
fails leaves no trace, although it has been written by then: the failure undoes it. So the stored
name can be read off the commands that have been carried out (`Tables.Named`), and every detail
tells the stored names.
-/

namespace GameLobby

/-- The name under which a command enters a user, if it is a creation or a join by the user. -/
def Command.nameOf? (user : Uuid) : Command → Option Text
  | create caller | join caller _ => if caller.userId = user then some caller.username else none
  | read .. | kick .. | setActive .. => none

/-- The name in the first creation or join of a user that a history has carried out. -/
def Service.firstName? (s : Service) (steps : List Step) (user : Uuid) : Option Text :=
  (s.carriedOut steps).findSome? (Command.nameOf? user)

namespace Tables

section
variable {t t' : Tables} {done : List Command} {c : Command}

/-! ## Stored names -/

/-- Users are stored under the names in the first commands that have entered them. -/
def Named (t : Tables) (done : List Command) : Prop :=
  ∀ user, (t.user? user).map (·.username) = done.findSome? (Command.nameOf? user)

theorem Named.empty : Named Tables.empty [] :=
  fun _ => rfl

/-- A command that is carried out counts behind those before it. -/
theorem Named.concat (h : t.Named done)
    (hnames : ∀ user, (t'.user? user).map (·.username) =
      ((t.user? user).map (·.username)).or (c.nameOf? user)) : t'.Named (done ++ [c]) := by
  intro user
  rw [hnames, h user, List.findSome?_append, List.findSome?_singleton]

/-- A command that enters its caller gives a name to whoever had none. -/
theorem Named.putUser (h : t.Named done) (caller : Caller) (at_ : Timestamp)
    (hc : ∀ user, c.nameOf? user = if caller.userId = user then some caller.username else none)
    (husers : t'.users = (t.putUser ⟨caller.userId, caller.username, at_⟩).users) :
    t'.Named (done ++ [c]) := by
  refine h.concat fun user => ?_
  have huser : t'.user? user = (t.putUser ⟨caller.userId, caller.username, at_⟩).user? user := by
    rw [user?, husers, user?]
  rw [huser, user?_putUser, hc, Option.map_or]
  split <;> rfl

/-- A command that enters nobody leaves the names. -/
theorem Named.same (h : t.Named done) (hc : ∀ user, c.nameOf? user = none)
    (husers : t'.users = t.users) : t'.Named (done ++ [c]) := by
  refine h.concat fun user => ?_
  rw [hc, Option.or_none, user?, husers, user?]

/-- The names stay those of the first commands when another one is carried out. -/
theorem Named.deed (h : t.Named done) (hdeed : t.Deed c t') : t'.Named (done ++ [c]) := by
  cases hdeed with
  | create caller code s => exact h.putUser caller (s.time 0) (fun _ => rfl) rfl
  | join caller typed lobby s => exact h.putUser caller (s.time 0) (fun _ => rfl) rfl
  | read | kick | dismiss | keep => exact h.same (fun _ => rfl) rfl

/-- The stage of a lobby has no part in the names. -/
theorem Named.setStatus (h : t.Named done) (lobby : Uuid) (status : Text) :
    (t.setStatus lobby status).Named done :=
  h

/-- A detail tells the stored names. -/
theorem name_of_mem_playersOf {lobby : Uuid} {p : Membership} (hp : p ∈ t.playersOf lobby) :
    (t.user? p.userId).map (·.username) = some p.displayName := by
  obtain ⟨m, -, -, u, hu, rfl⟩ := mem_playersOf_iff.1 hp
  exact congrArg (Option.map (·.username)) hu

/-- The detail of a lobby lists its players. -/
theorem detail?_ok {lobby : Uuid} {d : LobbyDetail} (h : t.detail? lobby = .ok (some d)) :
    d.players = t.playersOf lobby := by
  rw [detail?] at h
  split at h
  · cases h
  · obtain ⟨l, -, hl⟩ := World.of_map_ok h
    cases hl
    rfl

/-- A detail tells of the lobby that has been asked for. -/
theorem lobby?_of_detail? {lobby : Uuid} {d : LobbyDetail} (h : t.detail? lobby = .ok (some d)) :
    ∃ row, t.lobby? lobby = some row ∧ row.lobby? = .ok d.lobby ∧ d.lobby.id = lobby := by
  rw [detail?] at h
  split at h
  · cases h
  · next row hrow =>
    obtain ⟨l, hl, hd⟩ := World.of_map_ok h
    cases hd
    refine ⟨row, hrow, hl, ?_⟩
    rw [(LobbyRow.lobby?_ok hl).2]
    exact (mem_of_lobby? hrow).2

/-- A detail is what the tables show of its lobby. -/
def Shows (t : Tables) (d : LobbyDetail) : Prop :=
  t.detail? d.lobby.id = .ok (some d)

/-- The detail of a lobby shows the names that are stored. -/
theorem shows_of_detail? {lobby : Uuid} {d : LobbyDetail} (h : t.detail? lobby = .ok (some d)) :
    t.Shows d := by
  obtain ⟨-, -, -, hid⟩ := lobby?_of_detail? h
  rw [Shows, hid, h]

end

end Tables

/-- What is found is what there was. -/
theorem Operation.of_found {r : Except Failure (Option LobbyDetail)} {d : LobbyDetail}
    (h : r.bind found = .ok d) : r = .ok (some d) := by
  cases r with
  | error f => cases h
  | ok detail =>
    cases detail with
    | none => cases h
    | some d' => exact congrArg (Except.ok ∘ some) (Except.ok.inj h)

namespace World

/-! ## What is told of a lobby -/

section
variable {t : Tables} {s : Supply} {rules : Rules} {caller : Caller} {d : LobbyDetail} {w : World}

/-- A creation tells the names that are stored after it: of the ways in which it ends, only the last
tells of a lobby. -/
theorem perform_create_shows (h : perform {} (.create rules caller) ⟨t, s⟩ = (.ok d, w)) :
    w.tables.Shows d := by
  rw [perform_create] at h
  split at h
  · cases h
  split at h
  · cases h
  split at h
  · cases h
  split at h
  · cases h
  next hid =>
  split at h
  · cases h
  · cases h
    have hnew : (t.putUser ⟨caller.userId, caller.username, s.time 0⟩).lobby? (s.id 0) = none := by
      rw [Tables.lobby?, Tables.putUser_lobbies]
      simpa [Tables.lobby?] using hid
    exact congrArg Prod.fst (answer_detail_addLobby hnew rfl _ s)

theorem perform_join_shows {typed : Text}
    (h : perform {} (.join rules caller typed) ⟨t, s⟩ = (.ok d, w)) : w.tables.Shows d := by
  rw [perform_join] at h
  split at h
  · cases h
  split at h
  · cases h
  split at h
  · cases h
  split at h
  · cases h
  · obtain ⟨hd, rfl⟩ := Prod.mk.inj h
    exact Tables.shows_of_detail? (Operation.of_found hd)

theorem perform_read_shows {lobby : Uuid}
    (h : perform {} (.read caller lobby) ⟨t, s⟩ = (.ok d, w)) : w.tables.Shows d := by
  rw [perform_read] at h
  split at h
  · cases h
  next row hrow =>
  split at h
  · obtain ⟨hd, rfl⟩ := Prod.mk.inj h
    obtain ⟨l, hl, rfl⟩ := of_map_ok hd
    have hdetail : t.detail? lobby = .ok (some ⟨l, t.playersOf lobby⟩) := by
      rw [Tables.detail?, hrow]
      dsimp only
      rw [hl]
      rfl
    exact Tables.shows_of_detail? hdetail
  · cases h

/-- What a command tells of a lobby is what the tables show of it when the command is done. -/
theorem execute_shows {c : Command} (h : (w.execute rules [] c).1 = .ok (.detail d)) :
    (w.execute rules [] c).2.tables.Shows d := by
  have hopen := conditions_of_execute_ok h
  obtain ⟨t, s⟩ := w
  cases c with
  | create caller =>
    obtain ⟨_, hd, ⟨⟩⟩ := of_map_ok h
    simp only [execute, hopen] at hd ⊢
    exact perform_create_shows (Prod.ext hd rfl)
  | join caller typed =>
    obtain ⟨_, hd, ⟨⟩⟩ := of_map_ok h
    simp only [execute, hopen] at hd ⊢
    exact perform_join_shows (Prod.ext hd rfl)
  | read caller lobby =>
    obtain ⟨_, hd, ⟨⟩⟩ := of_map_ok h
    simp only [execute, hopen] at hd ⊢
    exact perform_read_shows (Prod.ext hd rfl)
  | kick caller lobby target =>
    obtain ⟨_, -, hdone⟩ := of_map_ok h
    cases hdone
  | setActive lobby membership active =>
    obtain ⟨_, -, hdone⟩ := of_map_ok h
    cases hdone

end

end World

namespace Service

/-! ## Along a history -/

/-- What two histories carry out one after the other. -/
theorem carriedOut_append (s : Service) (xs ys : List Step) :
    s.carriedOut (xs ++ ys) = s.carriedOut xs ++ (s.after xs).carriedOut ys := by
  induction xs generalizing s with
  | nil => rfl
  | cons x xs ih =>
    rw [List.cons_append, carriedOut_cons, carriedOut_cons, ih, List.append_assoc]
    rfl

section
variable {s : Service} {done : List Command}

/-- Every step keeps the names of users to the first ones. -/
theorem lasts_named : Lasts Tables.Named :=
  ⟨fun _ h hdeed => h.deed hdeed, fun h lobby status => h.setStatus lobby status⟩

/-- A name that is the first at some time is the first from then on. -/
theorem nameOf?_append {user : Uuid} {name : Text} (more : List Command)
    (h : done.findSome? (Command.nameOf? user) = some name) :
    (done ++ more).findSome? (Command.nameOf? user) = some name := by
  rw [List.findSome?_append, h, Option.some_or]

/-- The players that a history tells of have the names in the first commands that have entered
them. -/
theorem told_names (hsound : s.world.tables.Sound) (h : s.world.tables.Named done)
    (steps : List Step) {d : LobbyDetail} (hd : .ok (.detail d) ∈ (s.run steps).1) {p : Membership}
    (hp : p ∈ d.players) :
    (done ++ s.carriedOut steps).findSome? (Command.nameOf? p.userId) = some p.displayName := by
  induction steps generalizing s done with
  | nil => cases hd
  | cons x rest ih =>
    have hnext := lasts_named.step hsound h x
    rw [carriedOut_cons, ← List.append_assoc]
    rcases List.mem_cons.1 hd with hx | hrest
    · cases x with
      | command c =>
        rw [Tables.detail?_ok (World.execute_shows hx.symm)] at hp
        refine nameOf?_append _ ?_
        rw [← hnext p.userId]
        exact Tables.name_of_mem_playersOf hp
      | setStatus | advance | adopt => cases hx
    · exact ih (hsound.move (step_move hsound x)) hnext hrest

end

/-- Once a user has created or joined a lobby, the name in the first of these commands that has been
carried out is the one that is stored, and told in every detail, from then on. -/
theorem first_name_wins (rules : Rules) (supply : Supply) (past : List Step) {user : Uuid}
    {name : Text} (h : (fresh rules supply).firstName? past user = some name) (future : List Step) :
    let s := fresh rules supply
    let t := (s.after (past ++ future)).world.tables
    (∃ u ∈ t.users, u.id = user ∧ u.username = name ∧ ∀ u' ∈ t.users, u'.id = user → u' = u) ∧
    (∀ d, .ok (.detail d) ∈ (s.run (past ++ future)).1 →
      ∀ p ∈ d.players, p.userId = user → p.displayName = name) ∧
    ∀ lobby d, t.detail? lobby = .ok (some d) →
      ∀ p ∈ d.players, p.userId = user → p.displayName = name := by
  intro s t
  have hsound : t.Sound := sound_after Tables.Sound.empty (past ++ future)
  have hnamed : t.Named (s.carriedOut (past ++ future)) :=
    lasts_named.after (s := s) Tables.Sound.empty Tables.Named.empty (past ++ future)
  have hfirst : (s.carriedOut (past ++ future)).findSome? (Command.nameOf? user) = some name := by
    rw [carriedOut_append]
    exact nameOf?_append _ h
  refine ⟨?_, fun d hd p hp huser => ?_, fun lobby d hd p hp huser => ?_⟩
  · obtain ⟨u, hu, hname⟩ := Option.map_eq_some_iff.1 ((hnamed user).trans hfirst)
    refine ⟨u, List.mem_of_find?_eq_some hu, by simpa using List.find?_some hu, hname, ?_⟩
    rintro u' hu' rfl
    exact Option.some.inj ((Tables.find?_eq_of_nodup hsound.userIds hu').symm.trans hu)
  · have htold := told_names (s := s) Tables.Sound.empty Tables.Named.empty (past ++ future) hd hp
    rw [huser, List.nil_append, hfirst] at htold
    exact (Option.some.inj htold).symm
  · rw [Tables.detail?_ok hd] at hp
    have hstored := Tables.name_of_mem_playersOf hp
    rw [hnamed p.userId, huser, hfirst] at hstored
    exact (Option.some.inj hstored).symm

open Sample in
/-- Bob opens a lobby as Robert, which fails when his membership gets the identifier of Ann's and
his name has been written. He joins Ann's lobby as Bob and stays so, although he opens another one
as Bobby. -/
theorem first_name_wins_bob :
    let s := fresh {} { supply with ids := ⟨[.ofNat 10, .ofNat 11, .ofNat 12, .ofNat 11], 0⟩ }
    let past : List Step := [.command (.create ann), .command (.create ⟨bob.userId, "Robert"⟩),
      .command (.join bob "LMNOPQ")]
    let future : List Step := [.command (.create ⟨bob.userId, "Bobby"⟩)]
    (s.run (past ++ future)).1.map (·.isOk) = [true, false, true, true] ∧
      s.firstName? past bob.userId = some (Text.ofString "Bob") ∧
      (∃ u ∈ (s.after (past ++ future)).world.tables.users,
        u.id = bob.userId ∧ u.username = Text.ofString "Bob") ∧
      ∀ d, .ok (.detail d) ∈ (s.run (past ++ future)).1 →
        ∀ p ∈ d.players, p.userId = bob.userId → p.displayName = Text.ofString "Bob" := by
  intro s past future
  have hfirst : s.firstName? past bob.userId = some (Text.ofString "Bob") := by decide +kernel
  have hresults : (s.run (past ++ future)).1.map (·.isOk) = [true, false, true, true] := by
    decide +kernel
  have hwins := first_name_wins {} _ past hfirst future
  have hs : fresh {} _ = s := rfl
  rw [hs] at hwins
  clear_value s past future
  obtain ⟨⟨u, hu, hid, hname, -⟩, htold, -⟩ := hwins
  exact ⟨hresults, hfirst, ⟨u, hu, hid, hname⟩, htold⟩

end Service

end GameLobby
