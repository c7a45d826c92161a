import GameLobby.Proofs.Addresses
import GameLobby.Proofs.Deeds
import GameLobby.Proofs.Effects
import GameLobby.Proofs.Identity
import GameLobby.Schema

/-!
# What fits into the columns

The schema limits how long the texts of three columns may be, and not every database enforces that.
What comes through requests fits anyway. No lobby operation looks at how long a name is, but a name
has been a user name before it comes to one (`Http.App.Asks.isUsername`), a join code is one that
the application has drawn, and the stage of a lobby is the one that it begins at. So these are the
forms of all texts that are stored at any time (`Tables.WellFormed`), as long as no other service
writes into the tables (`Http.App.stored_texts_fit`).
-/

namespace GameLobby

/-! ## Columns of texts -/

namespace Schema

/-- A column of texts, and the greatest number of characters of a text in it. -/
structure TextColumn where
  table : String
  column : String
  length : Nat
  deriving DecidableEq, Repr

/-- The columns of texts in a table. -/
def Layout.textColumns (t : Layout) : List TextColumn :=
  t.columns.filterMap fun c =>
    match c.type with
    | .text length => some ⟨t.name, c.name, length⟩
    | .uuid | .time | .flag => none

/-- The columns for texts, and how much each has room for. -/
theorem textColumns_modelled : modelled.flatMap Layout.textColumns =
    [⟨"users", "username", 20⟩, ⟨"lobbies", "join_code", 6⟩, ⟨"lobbies", "status", 20⟩] := rfl

/-- The migration gives texts as much room as the model of the application does. -/
theorem textColumns_migrated :
    migrated.flatMap Layout.textColumns = modelled.flatMap Layout.textColumns := rfl

end Schema

namespace Tables

/-- The texts that stand in a column. -/
def texts? (t : Tables) (table column : String) : Option (List Text) :=
  match table, column with
  | "users", "username" => some (t.users.map (·.username))
  | "lobbies", "join_code" => some (t.lobbies.map (·.joinCode))
  | "lobbies", "status" => some (t.lobbies.map (·.status))
  | _, _ => none

/-- The texts in each column of texts are such that it has room for them. -/
def Fits (t : Tables) (layouts : List Schema.Layout) : Prop :=
  ∀ c ∈ layouts.flatMap Schema.Layout.textColumns,
    ∃ texts, t.texts? c.table c.column = some texts ∧ ∀ text ∈ texts, text.length ≤ c.length

/-- The tables are sound and can be stored, and their texts have the forms that an application gives
them. -/
structure WellFormed (t : Tables) : Prop where
  sound : t.Sound
  storable : t.Storable
  names : ∀ u ∈ t.users, Http.IsUsername u.username
  codes : t.Formed
  waiting : ∀ l ∈ t.lobbies, l.status = Text.ofString Status.waiting.label

section
variable {t t' : Tables}

theorem WellFormed.empty : WellFormed .empty :=
  ⟨.empty, .empty, nofun, nofun, nofun⟩

/-- Texts of these forms fit. -/
theorem WellFormed.fits (h : t.WellFormed) : t.Fits Schema.modelled := by
  intro c hc
  rw [Schema.textColumns_modelled] at hc
  simp only [List.mem_cons, List.not_mem_nil, or_false] at hc
  rcases hc with rfl | rfl | rfl
  · exact ⟨_, rfl, List.forall_mem_map.2 fun u hu => (h.names u hu).short⟩
  · exact ⟨_, rfl, List.forall_mem_map.2 fun l hl => Nat.le_of_eq (h.codes l hl).length⟩
  · refine ⟨_, rfl, List.forall_mem_map.2 fun l hl => ?_⟩
    rw [h.waiting l hl]
    decide

/-- A deed of somebody whose name is a user name keeps the names user names. -/
theorem WellFormed.names_deed {c : Command} (h : t.WellFormed) (hdeed : t.Deed c t')
    (hname : ∀ caller, c.caller? = some caller → Http.IsUsername caller.username) :
    ∀ u ∈ t'.users, Http.IsUsername u.username := by
  cases hdeed with
  | create caller | join caller => exact forall_users_putUser h.names (hname caller rfl)
  | read | kick | dismiss | keep => exact h.names

/-- No deed gives a lobby another stage than the first. -/
theorem WellFormed.waiting_deed {c : Command} (h : t.WellFormed) (hdeed : t.Deed c t') :
    ∀ l ∈ t'.lobbies, l.status = Text.ofString Status.waiting.label := by
  cases hdeed with
  | create caller code s =>
    intro l hl
    rw [withLobby, addMember_lobbies, addLobby_lobbies, putUser_lobbies] at hl
    rcases List.mem_append.1 hl with hl | hl
    · exact h.waiting l hl
    · rw [List.mem_singleton.1 hl]
  | join caller typed lobby s =>
    rw [withPlayer, addMember_lobbies, putUser_lobbies]
    exact h.waiting
  | read | kick | dismiss | keep => exact h.waiting

end

end Tables

/-! ## Commands -/

namespace World

/-- Whatever stands in its way, a command changes nothing or does its deed, which is a move. -/
theorem execute_does {w : World} (hsound : w.tables.Sound) (rules : Rules) (missing : List Table)
    (c : Command) :
    (w.execute rules missing c).2.tables = w.tables ∨
      w.tables.Deed c (w.execute rules missing c).2.tables ∧
        w.tables.Move rules.maxPlayers (w.execute rules missing c).2.tables := by
  rcases execute_or_undone rules missing w c with hsame | hundone
  case inr => exact .inl hundone
  rw [hsame]
  let untimed : Rules := { rules with timeout := none }
  cases hresult : (w.execute untimed [] c).1 with
  | error f =>
    rw [(execute_allOrNothing hsound untimed c).1 f hresult]
    exact .inl rfl
  | ok result => exact .inr ⟨execute_deed hsound hresult, execute_move untimed hsound c⟩

/-- Commands of somebody whose name is a user name keep the tables well-formed. -/
theorem execute_wellFormed {w : World} {c : Command} (h : w.tables.WellFormed)
    (hname : ∀ caller, c.caller? = some caller → Http.IsUsername caller.username) (rules : Rules)
    (missing : List Table) : (w.execute rules missing c).2.tables.WellFormed := by
  have hstorable := (execute_kept h.storable rules missing c).storable h.storable
  rcases execute_does h.sound rules missing c with hsame | ⟨hdeed, hmove⟩
  · rwa [hsame]
  · exact ⟨h.sound.move hmove, hstorable, h.names_deed hdeed hname, h.codes.move hmove,
      h.waiting_deed hdeed⟩

end World

namespace Http

/-! ## Who asks -/

/-- The caller of a command is the one that the headers name. -/
theorem caller_of_command {s : Settings} {headers : Headers} {body : Body} {route : Route}
    {c : Command} (h : command s headers body route = .ok (some c)) {asking : Caller}
    (hasking : c.caller? = some asking) : caller s headers = .ok asking := by
  cases route with
  | health | home => cases h
  | create =>
    obtain ⟨found, hfound, ⟨⟩⟩ := exists_of_bind_ok h
    cases hasking
    exact hfound
  | join =>
    obtain ⟨found, hfound, hrest⟩ := exists_of_bind_ok h
    obtain ⟨typed, -, ⟨⟩⟩ := exists_of_bind_ok hrest
    cases hasking
    exact hfound
  | read lobby =>
    obtain ⟨found, hfound, hrest⟩ := exists_of_bind_ok h
    obtain ⟨id, -, ⟨⟩⟩ := exists_of_bind_ok hrest
    cases hasking
    exact hfound
  | kick lobby =>
    obtain ⟨found, hfound, hrest⟩ := exists_of_bind_ok h
    obtain ⟨id, -, hrest⟩ := exists_of_bind_ok hrest
    obtain ⟨target, -, ⟨⟩⟩ := exists_of_bind_ok hrest
    cases hasking
    exact hfound
  | setActive lobby membership =>
    obtain ⟨id, -, hrest⟩ := exists_of_bind_ok h
    obtain ⟨member, -, hrest⟩ := exists_of_bind_ok hrest
    obtain ⟨active, -, ⟨⟩⟩ := exists_of_bind_ok hrest
    cases hasking

namespace App

section
variable {a : App}

/-- Whoever asks for a command has a user name. -/
theorem Asks.isUsername {r : Request} {c : Command} (h : a.Asks r c) :
    ∀ caller, c.caller? = some caller → IsUsername caller.username := by
  obtain ⟨route, body, -, -, hcommand⟩ := h
  exact fun caller hcaller => isUsername_of_caller (caller_of_command hcommand hcaller)

/-- Whatever happens but a write by another service keeps the tables well-formed. -/
theorem wellFormed_happen (h : a.world.tables.WellFormed) {e : Event}
    (hown : ∀ lobby status, e ≠ .setStatus lobby status) :
    (a.happen e).world.tables.WellFormed := by
  cases e with
  | request r =>
    have heffect := process_effect h.storable r
    change (a.process r).2.world.tables.WellFormed
    generalize (a.process r).2.world = w at heffect
    cases heffect with
    | idle => exact h
    | carried c asked =>
      exact World.execute_wellFormed h asked.isUsername a.settings.rules a.missing
  | setStatus lobby status => exact absurd rfl (hown lobby status)
  | advance | lose | sabotage => exact h

/-- Whatever happens but writes by another service, the tables stay well-formed. -/
theorem wellFormed_after (h : a.world.tables.WellFormed) {events : List Event}
    (hown : ∀ lobby status, .setStatus lobby status ∉ events) :
    (a.after events).world.tables.WellFormed := by
  induction events generalizing a with
  | nil => exact h
  | cons e events ih =>
    have hfirst : ∀ lobby status, e ≠ .setStatus lobby status := by
      rintro lobby status rfl
      exact hown lobby status (.head _)
    exact ih (wellFormed_happen h hfirst) fun lobby status hmem => hown lobby status (.tail _ hmem)

end

/--
Whatever requests have come to an application since it was set up, and whatever else has happened
short of a write by another service: every user name that is stored has one to twenty characters and
no blank at either end, every join code six characters of the alphabet, and every lobby waits. So
each text has room in its column, both in the tables of the application's model and in those of the
migration.
-/
theorem stored_texts_fit {given : Json} {supply : Supply}
    {urlFault? : Request → Option Failure} {a : App}
    (h : setUp given supply urlFault? = .ok a) {events : List Event}
    (hown : ∀ lobby status, .setStatus lobby status ∉ events) :
    let t := (a.after events).world.tables
    (∀ u ∈ t.users, IsUsername u.username) ∧
    (∀ l ∈ t.lobbies, JoinCode.Formed l.joinCode ∧
      l.status = Text.ofString Status.waiting.label) ∧
    t.Fits Schema.modelled ∧ t.Fits Schema.migrated := by
  intro t
  have hempty : a.world.tables.WellFormed := by
    rw [tables_setUp h]
    exact .empty
  have hformed : t.WellFormed := wellFormed_after hempty hown
  have hmigrated : t.Fits Schema.migrated := by
    rw [Tables.Fits, Schema.textColumns_migrated]
    exact hformed.fits
  exact ⟨hformed.names, fun l hl => ⟨hformed.codes l hl, hformed.waiting l hl⟩, hformed.fits,
    hmigrated⟩

open Sample in
/-- A name of twenty characters among blanks is entered with a lobby. In the next hour, one of
twenty-one characters is not. -/
theorem stored_texts_fit_twenty :
    let a : App := ⟨{}, ⟨.empty, supply⟩, [], 0, [], [], fun _ => none⟩
    let opening := sampleRequest "POST" "/api/lobbies"
    let events : List Event :=
      [.request (opening "00000000-0000-0000-0000-000000000001" "  Ann of twenty points  "),
        .advance 3600000000,
        .request (opening "00000000-0000-0000-0000-000000000002" "Bob of the others now")]
    let t := (a.after events).world.tables
    setUp (.obj []) supply = .ok a ∧ (∀ lobby status, .setStatus lobby status ∉ events) ∧
      (t.users.map (·.username.length), t.lobbies.length) = ([20], 1) ∧
      (∀ u ∈ t.users, IsUsername u.username) ∧
      (∀ l ∈ t.lobbies, JoinCode.Formed l.joinCode ∧
        l.status = Text.ofString Status.waiting.label) ∧
      t.Fits Schema.modelled ∧ t.Fits Schema.migrated := by
  intro a opening events t
  have hsetUp : setUp (.obj []) supply = .ok a := setUp_default supply _
  have hown : ∀ lobby status, .setStatus lobby status ∉ events := by
    intro lobby status hmem
    simp [events] at hmem
  have hstored : (t.users.map (·.username.length), t.lobbies.length) = ([20], 1) := by
    decide +kernel
  exact ⟨hsetUp, hown, hstored, stored_texts_fit hsetUp hown⟩

end App

end Http

end GameLobby
