import Kufibot.Services.RemoteConnection

/-!
# `Services.RemoteMessages` — which messages of a client are harmless

The text of a client goes through the parser, and then each of the four branches of `service_function`
converts what it reads. `HarmlessMessage` says of a message which of them it reaches and that what is read
there has the right type; the others throw (`exists_messageSteps_iff`). `Services.RemoteReads` shows what an
exception does to the service thread.

A byte string is the string of the characters with its numbers (`ofBytes`).
-/

namespace Kufibot

open Lib

/-- The `std::string` of these bytes. -/
def ofBytes (bytes : List UInt8) : String := String.ofList (bytes.map fun b => Char.ofNat b.toNat)

/-! ## What is read with the right type -/

/-- The members that the command of this name converts. -/
def HarmlessControl (name : String) (control : Json) : Prop :=
  if name = "body_joystick" ∨ name = "head_joystick" then
    control.HasNumber "Angle" ∧ control.HasNumber "Strength"
  else if name = "right_arm" ∨ name = "left_arm" then control.HasNumber "Angle"
  else if name = "left_eye" ∨ name = "right_eye" then control.Subscriptable
  else True

/-- **A message that no branch fails on.** -/
def HarmlessMessage (message : Json) : Prop :=
  if message.contains "talkie" then message.HasString "talkie"
  else if message.contains "wifi_config" then
    ∃ config, message.member "wifi_config" = some config ∧ config.HasString "SSID" ∧
      config.HasString "Password"
  else if message.contains "database_insert" then
    ∃ insert, message.member "database_insert" = some insert ∧ insert.HasString "input" ∧
      insert.HasString "output"
  else ∀ name control, message.firstKey = some name → message.member name = some control →
    HarmlessControl name control

/-- A text that is not parsed, or is JSON and harmless. -/
def Harmless (parse : String → Option Json) (text : String) : Prop :=
  text = "on_open" ∨ text = "on_close" ∨ ∃ message, parse text = some message ∧ HarmlessMessage message

/-! ## The branches -/

theorem exists_bind_iff {α β : Type} (x : Option α) (f : α → β) :
    (∃ b, (x.bind fun a => some (f a)) = some b) ↔ ∃ a, x = some a := by
  cases x with
  | none => exact ⟨fun ⟨_, h⟩ => (nomatch h), fun ⟨_, h⟩ => (nomatch h)⟩
  | some a => exact ⟨fun _ => ⟨a, rfl⟩, fun _ => ⟨f a, rfl⟩⟩

theorem exists_bind₂_iff {α β γ : Type} (x : Option α) (y : Option β) (f : α → β → γ) :
    (∃ c, (x.bind fun a => y.bind fun b => some (f a b)) = some c) ↔
      (∃ a, x = some a) ∧ ∃ b, y = some b := by
  cases x with
  | none => exact ⟨fun ⟨_, h⟩ => (nomatch h), fun ⟨⟨_, h⟩, _⟩ => (nomatch h)⟩
  | some a => exact (exists_bind_iff y (f a)).trans ⟨fun h => ⟨⟨a, rfl⟩, h⟩, And.right⟩

/-- Two strings below a member. -/
theorem exists_strings_iff {β : Type} (message : Json) (key first second : String)
    (f : String → String → β) :
    (∃ b, ((message.index key).bind fun config => ((config.index first).bind Json.asString).bind fun s =>
        ((config.index second).bind Json.asString).bind fun t => some (f s t)) = some b) ↔
      ∃ config, message.member key = some config ∧ config.HasString first ∧ config.HasString second := by
  cases hconfig : message.index key with
  | none =>
      refine ⟨fun ⟨_, h⟩ => (nomatch h), fun ⟨config, h, _⟩ => ?_⟩
      rw [Json.index_of_member h] at hconfig
      cases hconfig
  | some config =>
      rw [Option.bind_some, exists_bind₂_iff, Json.exists_string_iff, Json.exists_string_iff]
      constructor
      · rintro ⟨hfirst, hsecond⟩
        refine ⟨config, Json.member_of_index hconfig ?_, hfirst, hsecond⟩
        rintro rfl
        obtain ⟨_, h⟩ := hfirst
        cases h
      · rintro ⟨config', hconfig', h⟩
        cases hconfig.symm.trans (Json.index_of_member hconfig')
        exact h

theorem exists_ofJson_iff (message : Json) :
    (∃ data, ControlData.ofJson message = some data) ↔
      ∀ name control, message.firstKey = some name → message.member name = some control →
        HarmlessControl name control := by
  unfold ControlData.ofJson
  cases hkey : message.firstKey with
  | none => exact ⟨fun _ _ _ => (nomatch ·), fun _ => ⟨{}, rfl⟩⟩
  | some name =>
      obtain ⟨control, hcontrol⟩ := Json.exists_member_of_firstKey hkey
      have hforall : (∀ name' control', some name = some name' → message.member name' = some control' →
          HarmlessControl name' control') ↔ HarmlessControl name control := by
        constructor
        · exact fun h => h name control rfl hcontrol
        · rintro h name' control' hname hcontrol'
          cases hname
          cases hcontrol.symm.trans hcontrol'
          exact h
      rw [hforall]
      simp only [Json.index_of_member hcontrol, Option.bind_eq_bind, Option.bind_some, Option.pure_def]
      unfold HarmlessControl
      by_cases hbody : name = "body_joystick"
      · rw [if_pos hbody, if_pos (.inl hbody), exists_bind₂_iff, Json.exists_number_iff, Json.exists_number_iff]
      by_cases hhead : name = "head_joystick"
      · rw [if_neg hbody, if_pos hhead, if_pos (.inr hhead), exists_bind₂_iff, Json.exists_number_iff,
          Json.exists_number_iff]
      rw [if_neg hbody, if_neg hhead, if_neg (not_or.mpr ⟨hbody, hhead⟩)]
      by_cases hright : name = "right_arm"
      · rw [if_pos hright, if_pos (.inl hright), exists_bind_iff, Json.exists_number_iff]
      by_cases hleft : name = "left_arm"
      · rw [if_neg hright, if_pos hleft, if_pos (.inr hleft), exists_bind_iff, Json.exists_number_iff]
      rw [if_neg hright, if_neg hleft, if_neg (not_or.mpr ⟨hright, hleft⟩)]
      by_cases hleftEye : name = "left_eye"
      · rw [if_pos hleftEye, if_pos (.inl hleftEye), exists_bind_iff, Json.exists_index_iff]
      by_cases hrightEye : name = "right_eye"
      · rw [if_neg hleftEye, if_pos hrightEye, if_pos (.inr hrightEye), exists_bind_iff, Json.exists_index_iff]
      rw [if_neg hleftEye, if_neg hrightEye, if_neg (not_or.mpr ⟨hleftEye, hrightEye⟩)]
      exact ⟨fun _ => trivial, fun _ => ⟨{}, rfl⟩⟩

/-- **A message reaches statements** iff it is harmless. -/
theorem exists_messageSteps_iff (message : Json) :
    (∃ steps, messageSteps message = some steps) ↔ HarmlessMessage message := by
  unfold messageSteps HarmlessMessage
  by_cases htalkie : message.contains "talkie"
  · rw [if_pos htalkie, if_pos htalkie, ← Json.exists_string_iff]
    simp only [Option.bind_eq_bind, Option.pure_def, ← Option.bind_assoc]
    exact exists_bind_iff _ _
  by_cases hwifi : message.contains "wifi_config"
  · rw [if_neg htalkie, if_pos hwifi, if_neg htalkie, if_pos hwifi,
      ← exists_strings_iff message "wifi_config" "SSID" "Password" wifiSteps]
    simp only [Option.bind_eq_bind, Option.pure_def, Option.bind_assoc]
  by_cases hinsert : message.contains "database_insert"
  · rw [if_neg htalkie, if_neg hwifi, if_pos hinsert, if_neg htalkie, if_neg hwifi, if_pos hinsert,
      ← exists_strings_iff message "database_insert" "input" "output" fun input output =>
        [RemoteStep.publish (.databaseInsertData input output)]]
    simp only [Option.bind_eq_bind, Option.pure_def, Option.bind_assoc]
  · rw [if_neg htalkie, if_neg hwifi, if_neg hinsert, if_neg htalkie, if_neg hwifi, if_neg hinsert,
      ← exists_ofJson_iff]
    exact exists_bind_iff _ _

theorem exists_socketSteps_iff (parse : String → Option Json) (text : String) :
    (∃ steps, socketSteps parse text = some steps) ↔ Harmless parse text := by
  unfold socketSteps Harmless
  by_cases hopen : text = "on_open"
  · rw [if_pos hopen]
    exact ⟨fun _ => .inl hopen, fun _ => ⟨_, rfl⟩⟩
  by_cases hclose : text = "on_close"
  · rw [if_neg hopen, if_pos hclose]
    exact ⟨fun _ => .inr (.inl hclose), fun _ => ⟨_, rfl⟩⟩
  rw [if_neg hopen, if_neg hclose]
  constructor
  · rintro ⟨steps, h⟩
    obtain ⟨message, hparse, hsteps⟩ := Option.bind_eq_some_iff.mp h
    exact .inr (.inr ⟨message, hparse, (exists_messageSteps_iff message).mp ⟨steps, hsteps⟩⟩)
  · rintro (h | h | ⟨message, hparse, hmessage⟩)
    · exact absurd h hopen
    · exact absurd h hclose
    · obtain ⟨steps, hsteps⟩ := (exists_messageSteps_iff message).mpr hmessage
      exact ⟨steps, by rw [hparse]; exact hsteps⟩

end Kufibot
