import GameLobby.Proofs.Envelope
import GameLobby.Proofs.Join
import GameLobby.Proofs.Octets
import GameLobby.Proofs.Rereading
import GameLobby.Proofs.Secrecy

/-!
# Messages of errors

The envelope of an error holds its message as it is, but for the few characters that JSON spells in
another way, so on the wire a message may take more bytes than it has characters. What a client gets
are these bytes and their number, and from them it reads the code and the message again
(`Http.Response.carries_of_body`). One message quotes the client: the refusal of a join code that no
lobby has. It arrives as well (`Http.App.error_bodies_intact`), whatever six characters have been
typed.
-/

namespace GameLobby.Http

/-! ## What arrives -/

/-- A response is sent as these bytes. They are the UTF-8 form of its body, and their number is
announced. -/
structure Response.SentAs (r : Response) (bytes : List UInt8) : Prop where
  sent : r.send = .responded r
  encoded : ∃ s : String, r.body = Text.ofString s ∧ bytes.toByteArray = s.toUTF8
  announced : r.announced = .ok (some bytes.length)

/-- From the bytes of a response, any reader reads an object of two members, a code and a
message. -/
def Response.Carries (r : Response) (code message : Text) : Prop :=
  ∃ bytes t, r.SentAs bytes ∧ Text.ofDocument? bytes = some t ∧
    ∀ limits : Json.Limits, 0 < limits.depth →
      Json.read limits t = .ok (.obj [("error", .str code), ("message", .str message)])

/-- A body of characters is sent as their bytes, under a status of a response that has a body. -/
theorem Response.sentAs_of_body {r : Response} {cs : List Char} (hstatus : 400 ≤ r.status)
    (hbody : r.body = cs.map .scalar) : r.SentAs (cs.flatMap Text.utf8Char) := by
  have hlength : r.length = .ok (cs.flatMap Text.utf8Char).length := by
    rw [length, hbody, Text.utf8?, Text.toChars?_map_scalar]
    rfl
  constructor
  case sent => rw [send, hlength]
  case encoded =>
    refine ⟨String.ofList cs, ?_, Text.toByteArray_flatMap_utf8Char cs⟩
    rw [hbody, Text.ofString, String.toList_ofList]
  case announced =>
    have hbodied : ¬ (r.status < 200 ∨ r.status = 204 ∨ r.status = 304) := by omega
    rw [announced, hlength, Except.map, if_neg hbodied]

section
variable {m : Text × Json} {members : List (Text × Json)} {cs : List Char}

/-- An object that is not empty begins with a brace and the quote of its first name. -/
theorem exists_write_obj (m : Text × Json) (members : List (Text × Json)) :
    ∃ t : Text, (Json.obj (m :: members)).write .plain = .scalar '\x7b' :: .scalar '"' :: t := by
  cases members with
  | nil =>
    rw [Json.write, Json.writeMembers, Json.writeString]
    exact ⟨_, rfl⟩
  | cons m' members =>
    rw [Json.write, Json.writeMembers, Json.writeString]
    · exact ⟨_, rfl⟩
    · exact List.cons_ne_nil m' members

/-- An object that is written and sent is read from its bytes as the text that was written. -/
theorem ofDocument?_write_obj (h : (Json.obj (m :: members)).write .plain = cs.map .scalar) :
    Text.ofDocument? (cs.flatMap Text.utf8Char) =
      some ((Json.obj (m :: members)).write .plain) := by
  obtain ⟨t, ht⟩ := exists_write_obj m members
  rw [h] at ht ⊢
  exact Text.ofDocument?_object ht

/-- An object that a client writes into the body of a request is read. -/
theorem readBody_write_obj {r : Request} {depth : Nat}
    (hwordy : (Json.obj (m :: members)).Wordy depth)
    (hdepth : depth ≤ bodyLimits.depth)
    (hjson : (header? r.headers "content-type").map isJsonType = some true)
    (h : (Json.obj (m :: members)).write .plain = cs.map .scalar)
    (hbody : r.body = cs.flatMap Text.utf8Char) :
    readBody r = .ok (.json (.obj (m :: members))) := by
  have hdocument : Text.ofDocument? r.body = some ((Json.obj (m :: members)).write .plain) := by
    rw [hbody, ofDocument?_write_obj h]
  have hne : r.body ≠ [] := by
    intro hnil
    obtain ⟨t, ht⟩ := exists_write_obj m members
    rw [hnil, ht] at hdocument
    exact nomatch hdocument.symm.trans (Text.ofUtf8?_flatMap_utf8Char [])
  rw [readBody, if_neg hne, hjson, hdocument]
  dsimp only
  rw [Json.read_write hwordy hdepth]
  rfl

end

section
variable {code message : Text}

/-- The body of an error is an object that can be read again. -/
theorem wordy_error (code message : Text) :
    (Json.obj [("error", .str code), ("message", .str message)]).Wordy 1 := by
  have hnames : [Text.ofString "error", Text.ofString "message"].Nodup := by decide
  refine .obj hnames fun m hm => ?_
  simp only [List.mem_cons, List.not_mem_nil, or_false] at hm
  rcases hm with rfl | rfl
  · exact .str code
  · exact .str message

/-- Refusals are answered under the status of an error. -/
theorem le_status (kind : RefusalKind) : 400 ≤ status kind := by
  cases kind <;> decide

/-- The code and the message of an error arrive as they are, whatever headers come with them. -/
theorem Response.carries_of_body {r : Response} (hstatus : 400 ≤ r.status)
    (hbody : r.body = (error r.status code message).body) (hcode : ¬ code.HasSurrogate)
    (hmessage : ¬ message.HasSurrogate) : r.Carries code message := by
  obtain ⟨cs, hcs⟩ := Text.exists_toChars? (plain_error r.status hcode hmessage)
  have hchars : (error r.status code message).body = cs.map .scalar :=
    Text.eq_map_scalar_of_toChars? hcs
  refine ⟨_, _, sentAs_of_body hstatus (hbody.trans hchars), ofDocument?_write_obj hchars, ?_⟩
  intro limits hdepth
  exact Json.read_write (wordy_error code message) hdepth

end

/-! ## What has been typed -/

/-- A message that quotes a code has a surrogate only if the code has. -/
theorem plain_noLobbyWith {typed : Text} (h : ¬ typed.HasSurrogate) :
    ¬ (Operation.noLobbyWith typed.upper).message.HasSurrogate := by
  have hmessage : (Operation.noLobbyWith typed.upper).message =
      Text.ofString "No lobby found with join code: " ++ typed.upper := rfl
  rw [hmessage, Text.hasSurrogate_append, Text.hasSurrogate_upper]
  exact not_or.2 ⟨Text.hasSurrogate_ofString _, h⟩

namespace App

/-- A request of a player who types a code that no lobby has. -/
structure TypesUnknown (a : App) (r : Request) (caller : Caller) (typed : Text) : Prop where
  formed : a.FormsUrl r
  routed : destination r.method r.path = .route .join
  reached : a.Reaches .join r (.join caller typed)
  working : a.faults = []
  complete : a.missing = []
  inTime : a.settings.rules.expired = false
  length : typed.length = JoinCode.size
  scalar : ¬ typed.HasSurrogate
  unknown : ¬ ∃ l ∈ a.world.tables.lobbies, l.joinCode = typed.upper

/-- A player who types a code that no lobby has is told so. -/
theorem TypesUnknown.serve_fst {a : App} {r : Request} {caller : Caller} {typed : Text}
    (h : a.TypesUnknown r caller typed) :
    (a.serve .join r).1 =
      .responded (.error 404 "not_found" ("No lobby found with join code: " ++ typed.upper)) := by
  have htold : RefusalClass.lobbyNotFound.kind ≠ .internal := by decide
  have hrefused := World.execute_join_refused h.inTime (if_pos h.length)
    (Tables.admission_of_unknownCode h.scalar h.unknown a.settings.rules caller)
  rw [serve_of_reaches h.working h.reached, outcomeOf, h.complete, hrefused]
  exact failed_of_told htold (plain_noLobbyWith h.scalar)

/--
An error is sent, whatever its status, and whatever characters its code and its message have. What
arrives is UTF-8 of as many bytes as are announced, and any reader reads the code and the message
from it, and nothing else. This goes for every refusal that is told. Among them is the one of any
six characters that no lobby has, which quotes them in upper case.
-/
theorem error_bodies_intact :
    (∀ (status : Nat) (code message : Text), 400 ≤ status → ¬ code.HasSurrogate →
      ¬ message.HasSurrogate → (Response.error status code message).Carries code message) ∧
    (∀ refused : Refusal, refused.refusalClass.kind ≠ .internal → ¬ refused.message.HasSurrogate →
      ∃ response, failed (.refused refused) = .responded response ∧
        response.status = status refused.refusalClass.kind ∧
        response.Carries refused.refusalClass.code refused.message) ∧
    ∀ (a : App) (r : Request) (caller : Caller) (typed : Text), a.TypesUnknown r caller typed →
      ∃ response, (a.handle r).1 = .responded response ∧ response.status = 404 ∧
        response.Carries "not_found" ("No lobby found with join code: " ++ typed.upper) := by
  refine ⟨fun status code message hstatus hcode hmessage => ?_, fun refused hkind hmessage => ?_,
    fun a r caller typed h => ?_⟩
  · exact Response.carries_of_body hstatus rfl hcode hmessage
  · refine ⟨_, failed_of_told hkind hmessage, rfl, ?_⟩
    exact Response.carries_of_body (le_status refused.refusalClass.kind) rfl
      (Text.hasSurrogate_ofString _) hmessage
  · obtain ⟨more, hmore⟩ := Cors.decorate_eq a.settings r.headers
      (.error 404 "not_found" ("No lobby found with join code: " ++ typed.upper))
    have hstatus : 400 ≤ 404 := by decide
    rw [h.formed.handle, process_of_route h.routed, h.serve_fst]
    dsimp only
    rw [hmore]
    refine ⟨_, rfl, rfl, ?_⟩
    exact Response.carries_of_body hstatus rfl (Text.hasSurrogate_ofString _)
      (plain_noLobbyWith h.scalar)

open Sample in
/-- Bob types a quote, a backslash, a control character, a letter of two bytes that is two in upper
case, another letter and a character of four bytes. -/
theorem error_bodies_intact_bob :
    let typed : Text := "\"\\\x01ßé😀"
    let body := "\x7b\"joinCode\":\"\\\"\\\\\\u0001ßé😀\"\x7d"
    let a : App := ⟨{}, opened, [], 0, [], [], fun _ => none⟩
    let r : Request :=
      ⟨"POST", "/api/lobbies/join", [],
        [("content-type", "application/json"),
          ("x-user-id", "00000000-0000-0000-0000-000000000002"),
          ("x-username", "Bob")],
        body.toList.flatMap Text.utf8Char, none⟩
    a.TypesUnknown r bob typed ∧
      (∃ response, (a.handle r).1 = .responded response ∧ response.status = 404 ∧
        response.Carries "not_found" "No lobby found with join code: \"\\\x01SSÉ😀") ∧
      (Response.error 418 typed typed).Carries typed typed := by
  intro typed body a r
  have hbody : readBody r = .ok (.json (.obj [("joinCode", .str typed)])) := by
    have hwordy : (Json.obj [("joinCode", .str typed)]).Wordy 1 :=
      .obj (List.pairwise_singleton _ _) (List.forall_mem_singleton.2 (.str typed))
    have hwritten : (Json.obj [("joinCode", .str typed)]).write .plain =
        body.toList.map .scalar := by
      decide +kernel
    exact readBody_write_obj hwordy (by decide) (by decide +kernel) hwritten rfl
  have htyped : ¬ typed.HasSurrogate := Text.hasSurrogate_ofString _
  have hunknown : a.TypesUnknown r bob typed := by
    have hcommand : command a.settings r.headers (.json (.obj [("joinCode", .str typed)])) .join =
        .ok (some (.join bob typed)) := eq_ok_of_toOption (by decide +kernel)
    exact ⟨rfl, by decide +kernel, ⟨⟨_, hbody, hcommand⟩, by decide +kernel⟩, rfl, rfl,
      by decide +kernel, by decide +kernel, htyped, by decide +kernel⟩
  obtain ⟨herror, -, hjoin⟩ := error_bodies_intact
  refine ⟨hunknown, ?_, herror 418 typed typed (by decide) htyped htyped⟩
  have hupper : Text.ofString "No lobby found with join code: " ++ typed.upper =
      Text.ofString "No lobby found with join code: \"\\\x01SSÉ😀" := by decide +kernel
  rw [← hupper]
  exact hjoin a r bob typed hunknown

end App

end GameLobby.Http
