import GameLobby.Http.Body
import GameLobby.Http.DetailView
import GameLobby.Proofs.Calendar
import GameLobby.Proofs.Rereading
import GameLobby.Proofs.Spellings

/-!
# What clients learn from a view

A client reads the text of a view as JSON and its members by name: identifiers in one of their fixed
shapes, stages by their labels, timestamps in the form of responses, and `null` for an end that has
not come (`Http.readView?`). Whatever detail has been written, the client gets back all that it
shows (`Http.view_read_back`), so no two details that show something else have the same text.
-/

namespace GameLobby

/-- What clients are shown of a lobby: not when it was created and changed. -/
structure LobbyView where
  lobbyId : Uuid
  joinCode : Text
  leaderId : Uuid
  status : Status
  players : List Membership
  deriving DecidableEq, Repr

/-- What clients are shown of a detail. -/
def LobbyDetail.shown (d : LobbyDetail) : LobbyView :=
  ⟨d.lobby.id, d.lobby.joinCode, d.lobby.leaderId, d.lobby.status, d.players⟩

/-- A membership with civil timestamps. -/
structure Membership.Civil (m : Membership) : Prop where
  joinedAt : m.joinedAt.Civil
  leftAt : ∀ t, m.leftAt = some t → t.Civil

/-- A detail with civil timestamps of all players. -/
def LobbyDetail.Civil (d : LobbyDetail) : Prop :=
  ∀ m ∈ d.players, m.Civil

namespace Http

/-! ## Reading a view -/

/-- A text. -/
def readText? : Json → Option Text
  | .str t => some t
  | _ => none

/-- A flag. -/
def readFlag? : Json → Option Bool
  | .bool b => some b
  | _ => none

/-- An identifier in one of its fixed shapes. -/
def readUuid? (v : Json) : Option Uuid :=
  (readText? v).bind fun t => t.toChars?.bind Uuid.ofChars?

/-- A stage by its label. -/
def readStatus? (v : Json) : Option Status :=
  (readText? v).bind Status.ofLabel?

/-- A timestamp. -/
def readTimestamp? (v : Json) : Option Timestamp :=
  (readText? v).bind fun t => t.toChars?.bind Timestamp.ofChars?

/-- A value that may be missing, for which `null` stands then and only then. -/
def readOptional? {α : Type} (read? : Json → Option α) : Json → Option (Option α)
  | .null => some none
  | v => (read? v).map some

/-- The items of an array in their order. -/
def readItems? {α : Type} (read? : Json → Option α) : Json → Option (List α)
  | .arr items => items.mapM read?
  | _ => none

/-- A membership. -/
def readPlayer? (v : Json) : Option Membership := do
  let id ← (v.get? "membershipId").bind readUuid?
  let userId ← (v.get? "userId").bind readUuid?
  let displayName ← (v.get? "displayName").bind readText?
  let joinedAt ← (v.get? "joinedAt").bind readTimestamp?
  let isActive ← (v.get? "isActive").bind readFlag?
  let leftAt ← (v.get? "leftAt").bind (readOptional? readTimestamp?)
  return ⟨id, userId, displayName, joinedAt, isActive, leftAt⟩

/-- A view. -/
def readView? (v : Json) : Option LobbyView := do
  let lobbyId ← (v.get? "lobbyId").bind readUuid?
  let joinCode ← (v.get? "joinCode").bind readText?
  let leaderId ← (v.get? "leaderId").bind readUuid?
  let status ← (v.get? "status").bind readStatus?
  let players ← (v.get? "players").bind (readItems? readPlayer?)
  return ⟨lobbyId, joinCode, leaderId, status, players⟩

section
variable {m : Membership} {d : LobbyDetail}

/-- An identifier is read as it is shown. -/
theorem readUuid?_viewUuid (u : Uuid) : readUuid? (viewUuid u) = some u := by
  rw [viewUuid, readUuid?, readText?, Option.bind_some, Text.toChars?_map_scalar, Option.bind_some,
    Uuid.ofChars?_chars]

/-- A timestamp of the calendar is read as it is shown. -/
theorem readTimestamp?_viewTimestamp {t : Timestamp} (h : t.Civil) :
    readTimestamp? (viewTimestamp t) = some t := by
  rw [viewTimestamp, readTimestamp?, readText?, Option.bind_some, Text.toChars?_map_scalar,
    Option.bind_some, h.ofChars?_responseChars]

/-- A stage is read from its label. -/
theorem readStatus?_label (s : Status) : readStatus? (.str s.label) = some s :=
  s.ofLabel?_label

/-- A timestamp that may be missing is read as it is shown. -/
theorem readOptional?_viewTimestamp {t? : Option Timestamp} (h : ∀ t, t? = some t → t.Civil) :
    readOptional? readTimestamp? ((t?.map viewTimestamp).getD .null) = some t? := by
  cases t? with
  | none => rfl
  | some t =>
    have hread := readTimestamp?_viewTimestamp (h t rfl)
    exact congrArg (Option.map some) hread

/-- Items that are read back one by one are read back in their order. -/
theorem readItems?_map {α : Type} {read? : Json → Option α} {write : α → Json} {items : List α}
    (h : ∀ a ∈ items, read? (write a) = some a) :
    readItems? read? (.arr (items.map write)) = some items := by
  rw [readItems?]
  induction items with
  | nil => rfl
  | cons a items ih =>
    rw [List.map_cons, List.mapM_cons, h a (.head _), ih fun b hb => h b (.tail _ hb)]
    rfl

/-- A membership is read back. -/
theorem readPlayer?_viewPlayer (h : m.Civil) : readPlayer? (viewPlayer m) = some m := by
  have hid : (viewPlayer m).get? "membershipId" = some (viewUuid m.id) := rfl
  have huser : (viewPlayer m).get? "userId" = some (viewUuid m.userId) := rfl
  have hname : (viewPlayer m).get? "displayName" = some (.str m.displayName) := rfl
  have hjoined : (viewPlayer m).get? "joinedAt" = some (viewTimestamp m.joinedAt) := rfl
  have hactive : (viewPlayer m).get? "isActive" = some (.bool m.isActive) := rfl
  have hleft : (viewPlayer m).get? "leftAt" = some ((m.leftAt.map viewTimestamp).getD .null) := rfl
  rw [readPlayer?, hid, huser, hname, hjoined, hactive, hleft]
  simp only [Option.bind_some, readUuid?_viewUuid, readTimestamp?_viewTimestamp h.joinedAt,
    readOptional?_viewTimestamp h.leftAt]
  rfl

/-- A view is read back. -/
theorem readView?_view (h : d.Civil) : readView? (view d) = some d.shown := by
  have hid : (view d).get? "lobbyId" = some (viewUuid d.lobby.id) := rfl
  have hcode : (view d).get? "joinCode" = some (.str d.lobby.joinCode) := rfl
  have hleader : (view d).get? "leaderId" = some (viewUuid d.lobby.leaderId) := rfl
  have hstatus : (view d).get? "status" = some (.str d.lobby.status.label) := rfl
  have hplayers : (view d).get? "players" = some (.arr (d.players.map viewPlayer)) := rfl
  rw [readView?, hid, hcode, hleader, hstatus, hplayers]
  simp only [Option.bind_some, readUuid?_viewUuid, readStatus?_label,
    readItems?_map fun m hm => readPlayer?_viewPlayer (h m hm)]
  rfl

/-! ## The text of a view -/

/-- A player is shown as an object that can be read again. -/
theorem wordy_viewPlayer (m : Membership) : (viewPlayer m).Wordy 1 := by
  have hnames : (["membershipId", "userId", "displayName", "joinedAt", "isActive", "leftAt"] :
      List Text).Nodup := by decide +kernel
  refine .obj hnames fun member hmember => ?_
  simp only [List.mem_cons, List.not_mem_nil, or_false] at hmember
  rcases hmember with rfl | rfl | rfl | rfl | rfl | rfl
  case inr.inr.inr.inr.inr =>
    cases m.leftAt with
    | none => exact .null
    | some t => exact .str _
  case inr.inr.inr.inr.inl => exact .bool m.isActive
  all_goals exact .str _

/-- A view has no numbers and nests three deep. -/
theorem wordy_view (d : LobbyDetail) : (view d).Wordy 3 := by
  have hnames : (["lobbyId", "joinCode", "leaderId", "status", "players"] : List Text).Nodup := by
    decide +kernel
  have hplayers : (Json.arr (d.players.map viewPlayer)).Wordy 2 := by
    refine .arr fun v hv => ?_
    obtain ⟨m, -, rfl⟩ := List.mem_map.1 hv
    exact wordy_viewPlayer m
  refine .obj hnames fun member hmember => ?_
  simp only [List.mem_cons, List.not_mem_nil, or_false] at hmember
  rcases hmember with rfl | rfl | rfl | rfl | rfl
  case inr.inr.inr.inr => exact hplayers
  all_goals exact .str _

/-- The text of a view is read as the view by every reader that goes three deep, and what it shows
is read from there. -/
theorem read_viewText {limits : Json.Limits} (hdepth : 3 ≤ limits.depth) (h : d.Civil) :
    Json.read limits (viewText d) = .ok (view d) ∧ readView? (view d) = some d.shown :=
  ⟨Json.read_write (wordy_view d) hdepth, readView?_view h⟩

end

/--
The text of a view loses nothing of what it shows. Whatever identifiers, join code, stage and
players a lobby has, in whatever number, and whatever the names of the players are made of: the text
is JSON, from which the identifiers, the code, the stage and all players with their fields are read
back in their order, as long as their timestamps are civil. So two details with the same text show
the same.
-/
theorem view_read_back :
    (∀ (limits : Json.Limits) (d : LobbyDetail), 3 ≤ limits.depth → d.Civil →
      ∃ v, Json.read limits (viewText d) = .ok v ∧ readView? v = some d.shown) ∧
    ∀ d d' : LobbyDetail, d.Civil → d'.Civil → viewText d = viewText d' → d.shown = d'.shown := by
  constructor
  · intro limits d hdepth h
    exact ⟨_, read_viewText hdepth h⟩
  · intro d d' h h' htext
    have hdepth : 3 ≤ bodyLimits.depth := by decide
    obtain ⟨hread, hshown⟩ := read_viewText hdepth h
    obtain ⟨hread', hshown'⟩ := read_viewText hdepth h'
    rw [htext] at hread
    have hview : view d = view d' := Except.ok.inj (hread.symm.trans hread')
    rw [hview] at hshown
    exact Option.some.inj (hshown.symm.trans hshown')

/-- A code with a quotation mark and a backslash, a player whose name has a control character and
one beyond the basic plane, who joined at a full second and has left a millisecond later, and one
who is there. The lobby has been touched since, which the view does not show. -/
theorem view_read_back_escaped :
    let left : Membership := ⟨.ofNat 3, .ofNat 4, "\x01é😀\n", .naive 1700000000000000, false,
      some (.naive 1700000000001000)⟩
    let there : Membership := ⟨.ofNat 5, .ofNat 6, "", .naive (-1), true, none⟩
    let d : LobbyDetail :=
      ⟨⟨.ofNat 1, "A\"B\\CD", .ofNat 4, .inGame, .naive 0, .naive 0⟩, [left, there]⟩
    let d' : LobbyDetail := { d with lobby := { d.lobby with updatedAt := .naive 1 } }
    (∃ v, Json.read bodyLimits (viewText d) = .ok v ∧
        readView? v = some ⟨.ofNat 1, "A\"B\\CD", .ofNat 4, .inGame, [left, there]⟩) ∧
      d.shown = d'.shown := by
  intro left there d d'
  have hcivil :
    ∀ wall, 1 ≤ (Timestamp.naive wall).date.year ∧ (Timestamp.naive wall).date.year ≤ 9999 →
      (Timestamp.naive wall).Civil := fun wall hyear => ⟨rfl, hyear⟩
  have hleft : left.Civil := by
    refine ⟨hcivil _ (by decide +kernel), fun t ht => ?_⟩
    cases ht
    exact hcivil _ (by decide +kernel)
  have hthere : there.Civil := ⟨hcivil _ (by decide +kernel), nofun⟩
  have hd : d.Civil := by
    intro m hm
    rcases List.mem_cons.1 hm with rfl | hm
    · exact hleft
    · rw [List.mem_singleton.1 hm]
      exact hthere
  obtain ⟨hread, hsame⟩ := view_read_back
  exact ⟨hread bodyLimits d (by decide) hd, hsame d d' hd hd rfl⟩

end Http

end GameLobby
