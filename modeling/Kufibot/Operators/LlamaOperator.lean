import Kufibot.Lib.Outcome
import Mathlib.Algebra.Ring.Nat
import Mathlib.Data.List.TakeWhile

/-!
# `Operators.LlamaOperator` — the prompts of a conversation

`chat` formats the whole conversation into a buffer of as many bytes as the context has tokens, and feeds the
model with the part behind `prev_len`. That variable is local to the call: it is 0 in every turn, so every turn
feeds the conversation from its beginning. What has been fed is then the formatted conversation only as long
as nothing was fed before (`incremental_prompt_iff`).

The length that `llama_chat_apply_template` returns is not compared with the size of the buffer either, so the
range that is copied out lies in it only for a conversation that fits (`prompt_in_buffer_iff`); a conversation
outgrows any buffer (`not_staysInside_of_long`).
-/

namespace Kufibot

open Lib

/-! ## The functions -/

/-- `llama_chat_message`; the content is a C string. -/
structure ChatMessage where
  role : String
  content : List UInt8
deriving DecidableEq

/-- What `strdup` keeps of a string. -/
def cString (s : List UInt8) : List UInt8 := s.takeWhile (· ≠ 0)

/-- The template of the model: the formatted messages, with the beginning of a reply if `add_ass` is set.
    `none` if the template is not supported. -/
abbrev ChatTemplate := List ChatMessage → Bool → Option (List UInt8)

/-- `llama_chat_apply_template`: the length of the formatted messages, of which it writes as many bytes as
    fit, or a negative number. -/
def llamaChatApplyTemplate (tmpl : ChatTemplate) (messages : List ChatMessage) (addAss : Bool)
    (buf : List UInt8) : Int × List UInt8 :=
  match tmpl messages addAss with
  | some text => (text.length, text.take buf.length ++ buf.drop text.length)
  | none => (-1, buf)

/-- `std::string(buf.begin() + first, buf.begin() + last)`. -/
def copyRange (buf : List UInt8) (first last : Int) : Outcome (List UInt8) :=
  if 0 ≤ first ∧ first ≤ last ∧ last ≤ buf.length then
    .ok ((buf.drop first.toNat).take (last - first).toNat)
  else .error .undefined

structure LlamaOperator where
  systemMessage : List UInt8
  /-- `llama_n_ctx(_ctx)`. -/
  nCtx : Nat
  running : Bool := false
  messages : List ChatMessage := []
  /-- The text that is in the context of the model: prompts and generated pieces. -/
  fed : List UInt8 := []

namespace LlamaOperator

/-- The messages with the input of this turn. -/
def conversation (userInput : List UInt8) (o : LlamaOperator) : List ChatMessage :=
  let messages :=
    if o.messages.isEmpty && !o.systemMessage.isEmpty then
      o.messages ++ [⟨"system", cString o.systemMessage⟩]
    else o.messages
  messages ++ [⟨"user", cString userInput⟩]

/-- `new_len`, and the buffer. -/
def formatted (tmpl : ChatTemplate) (userInput : List UInt8) (o : LlamaOperator) : Int × List UInt8 :=
  llamaChatApplyTemplate tmpl (o.conversation userInput) true (List.replicate o.nCtx 0)

/-- `prev_len`: a local variable. -/
def prevLen : Int := 0

def prompt (tmpl : ChatTemplate) (userInput : List UInt8) (o : LlamaOperator) : Outcome (List UInt8) :=
  copyRange (o.formatted tmpl userInput).2 prevLen (o.formatted tmpl userInput).1

/-- `chat`; `generateResponse` feeds the prompt and the pieces of the reply. -/
def chat (tmpl : ChatTemplate) (userInput reply : List UInt8) (o : LlamaOperator) : Outcome LlamaOperator :=
  let o := { o with running := true }
  if userInput.isEmpty then .ok o
  else do
    let prompt ← o.prompt tmpl userInput
    return { o with
      messages := o.conversation userInput ++ [⟨"assistant", cString reply⟩]
      fed := o.fed ++ prompt ++ reply }

end LlamaOperator

/-! ## A conversation -/

/-- What the user says, and what the model replies. -/
abbrev Turn := List UInt8 × List UInt8

/-- The turns that are not skipped. -/
def spoken (turns : List Turn) : List Turn := turns.filter fun turn => !turn.1.isEmpty

/-- The messages of a conversation so far. -/
def exchanged (systemMessage : List UInt8) (turns : List Turn) : List ChatMessage :=
  (if systemMessage.isEmpty then [] else [⟨"system", cString systemMessage⟩]) ++
    turns.flatMap fun turn => [⟨"user", cString turn.1⟩, ⟨"assistant", cString turn.2⟩]

/-- **The conversation** that an input goes on with. -/
def conversationOf (systemMessage : List UInt8) (turns : List Turn) (userInput : List UInt8) :
    List ChatMessage :=
  exchanged systemMessage turns ++ [⟨"user", cString userInput⟩]

namespace LlamaOperator

/-- The state after these turns. -/
structure After (systemMessage : List UInt8) (nCtx : Nat) (turns : List Turn) (o : LlamaOperator) : Prop where
  system : o.systemMessage = systemMessage
  size : o.nCtx = nCtx
  messages : o.messages = if turns.isEmpty then [] else exchanged systemMessage turns

section Turns

variable {tmpl : ChatTemplate} {systemMessage : List UInt8} {nCtx : Nat} {turns : List Turn}
  {o o' : LlamaOperator} {userInput reply : List UInt8}

/-- The conversation is the one so far, with the system message in front of it. -/
theorem After.conversation (h : After systemMessage nCtx turns o) (userInput : List UInt8) :
    o.conversation userInput = conversationOf systemMessage turns userInput := by
  unfold LlamaOperator.conversation conversationOf exchanged
  rw [h.messages, h.system]
  cases turns with
  | nil => cases systemMessage <;> rfl
  | cons turn turns =>
      have hne : (exchanged systemMessage (turn :: turns)).isEmpty = false := by
        unfold exchanged
        cases systemMessage <;> rfl
      simp only [List.isEmpty_cons, Bool.false_eq_true, if_false, hne, Bool.false_and]
      rfl

theorem After.formatted (h : After systemMessage nCtx turns o) {text : List UInt8}
    (htext : tmpl (conversationOf systemMessage turns userInput) true = some text) :
    o.formatted tmpl userInput =
      ((text.length : Int), text.take nCtx ++ (List.replicate nCtx 0).drop text.length) := by
  unfold LlamaOperator.formatted llamaChatApplyTemplate
  rw [h.conversation, htext, h.size]
  simp only [List.length_replicate]

/-- A text that fits is the prompt. -/
theorem After.prompt (h : After systemMessage nCtx turns o) {text : List UInt8}
    (htext : tmpl (conversationOf systemMessage turns userInput) true = some text)
    (hfits : text.length ≤ nCtx) : o.prompt tmpl userInput = .ok text := by
  have hlength : (text.take nCtx ++ (List.replicate nCtx (0 : UInt8)).drop text.length).length = nCtx := by
    simp
    omega
  unfold LlamaOperator.prompt copyRange prevLen
  rw [h.formatted htext, hlength, if_pos ⟨by omega, by omega, by omega⟩]
  simp [List.take_of_length_le hfits]

/-- What a turn leaves. -/
theorem chat_eq_ok (hinput : userInput ≠ []) :
    o.chat tmpl userInput reply = .ok o' ↔ ∃ prompt, o.prompt tmpl userInput = .ok prompt ∧
      o' = { o with
        running := true
        messages := o.conversation userInput ++ [⟨"assistant", cString reply⟩]
        fed := o.fed ++ prompt ++ reply } := by
  have hempty : userInput.isEmpty = false := List.isEmpty_eq_false_iff.mpr hinput
  unfold chat
  simp only [hempty, Bool.false_eq_true, if_false]
  rw [Outcome.bind_eq_ok]
  constructor
  · rintro ⟨prompt, hprompt, hresult⟩
    cases hresult
    exact ⟨prompt, hprompt, rfl⟩
  · rintro ⟨prompt, hprompt, rfl⟩
    exact ⟨prompt, hprompt, rfl⟩

/-- **A turn** goes on with the conversation. -/
theorem After.chat (h : After systemMessage nCtx turns o) (hinput : userInput ≠ [])
    (hchat : o.chat tmpl userInput reply = .ok o') :
    After systemMessage nCtx (turns ++ [(userInput, reply)]) o' := by
  obtain ⟨prompt, _, rfl⟩ := (chat_eq_ok hinput).mp hchat
  refine ⟨h.system, h.size, ?_⟩
  have hne : (turns ++ [(userInput, reply)]).isEmpty = false :=
    List.isEmpty_eq_false_iff.mpr (List.append_ne_nil_of_right_ne_nil _ (List.cons_ne_nil _ _))
  rw [hne]
  show o.conversation userInput ++ [⟨"assistant", cString reply⟩] = exchanged systemMessage _
  rw [h.conversation, conversationOf, exchanged, exchanged, List.flatMap_append]
  simp

theorem After.skip (h : After systemMessage nCtx turns o) :
    After systemMessage nCtx turns { o with running := true } :=
  ⟨h.system, h.size, h.messages⟩

end Turns

/-- The operator with its model loaded. -/
def loaded (systemMessage : List UInt8) (nCtx : Nat) : LlamaOperator := { systemMessage, nCtx }

theorem after_loaded (systemMessage : List UInt8) (nCtx : Nat) :
    After systemMessage nCtx [] (loaded systemMessage nCtx) := ⟨rfl, rfl, rfl⟩

end LlamaOperator

/-- Every turn of a list: the first one, and every one of the rest. -/
theorem forall_turn_cons {P : List Turn → Turn → List Turn → Prop} {turn : Turn} {turns : List Turn} :
    (∀ earlier t later, turn :: turns = earlier ++ t :: later → P earlier t later) ↔
      P [] turn turns ∧ ∀ earlier t later, turns = earlier ++ t :: later → P (turn :: earlier) t later := by
  constructor
  · intro h
    refine ⟨h [] turn turns rfl, fun earlier t later hturns => ?_⟩
    exact h (turn :: earlier) t later (by rw [hturns]; rfl)
  · rintro ⟨hfirst, hrest⟩ earlier t later hturns
    cases earlier with
    | nil =>
        cases hturns
        exact hfirst
    | cons u earlier =>
        cases hturns
        exact hrest earlier t later rfl

namespace LlamaOperator

/-! ## Inside the buffer -/

/-- The range that is copied out of the buffer lies in it. -/
structure InRange (tmpl : ChatTemplate) (userInput : List UInt8) (o : LlamaOperator) : Prop where
  nonneg : 0 ≤ prevLen
  ordered : prevLen ≤ (o.formatted tmpl userInput).1
  inside : (o.formatted tmpl userInput).1 ≤ o.nCtx

/-- The range lies in the buffer in every turn; an empty input copies nothing. -/
def StaysInside (tmpl : ChatTemplate) : List Turn → LlamaOperator → Prop
  | [], _ => True
  | turn :: turns, o =>
      (turn.1 ≠ [] → o.InRange tmpl turn.1) ∧
        ∀ o', o.chat tmpl turn.1 turn.2 = .ok o' → StaysInside tmpl turns o'

section Turns

variable {tmpl : ChatTemplate} {systemMessage : List UInt8} {nCtx : Nat} {past : List Turn}
  {o : LlamaOperator} {userInput : List UInt8}

theorem After.inRange_iff (h : After systemMessage nCtx past o) : o.InRange tmpl userInput ↔
    ∃ text, tmpl (conversationOf systemMessage past userInput) true = some text ∧ text.length ≤ nCtx := by
  cases htext : tmpl (conversationOf systemMessage past userInput) true with
  | none =>
      have hnegative : (o.formatted tmpl userInput).1 = -1 := by
        unfold LlamaOperator.formatted llamaChatApplyTemplate
        rw [h.conversation, htext]
      constructor
      · intro hrange
        have hordered := hrange.ordered
        rw [hnegative] at hordered
        exact absurd hordered (by decide)
      · rintro ⟨text, hsome, _⟩
        cases hsome
  | some text =>
      constructor
      · intro hrange
        have hinside := hrange.inside
        rw [h.formatted htext, h.size] at hinside
        exact ⟨text, rfl, Int.ofNat_le.mp hinside⟩
      · rintro ⟨_, hsome, hfits⟩
        cases hsome
        refine ⟨by decide, ?_, ?_⟩
        · rw [h.formatted htext]
          exact Int.natCast_nonneg _
        · rw [h.formatted htext, h.size]
          exact Int.ofNat_le.mpr hfits

theorem staysInside_iff {turns : List Turn} (h : After systemMessage nCtx past o) :
    StaysInside tmpl turns o ↔ ∀ earlier turn later, turns = earlier ++ turn :: later → turn.1 ≠ [] →
      ∃ text, tmpl (conversationOf systemMessage (past ++ spoken earlier) turn.1) true = some text ∧
        text.length ≤ nCtx := by
  induction turns generalizing past o with
  | nil =>
      refine ⟨fun _ earlier turn later hturns => ?_, fun _ => trivial⟩
      exact absurd hturns.symm (List.append_ne_nil_of_right_ne_nil _ (List.cons_ne_nil _ _))
  | cons turn turns ih =>
      rw [forall_turn_cons]
      show _ ∧ _ ↔ _
      by_cases hinput : turn.1 = []
      · -- the call returns at once
        have hskip : o.chat tmpl turn.1 turn.2 = .ok { o with running := true } := by
          rw [hinput]
          rfl
        have hspoken : ∀ earlier, spoken (turn :: earlier) = spoken earlier := by
          intro earlier
          unfold spoken
          rw [List.filter_cons, hinput]
          rfl
        simp only [hspoken]
        constructor
        · rintro ⟨_, hrest⟩
          exact ⟨fun hne => absurd hinput hne, (ih h.skip).mp (hrest _ hskip)⟩
        · rintro ⟨_, hrest⟩
          refine ⟨fun hne => absurd hinput hne, fun o' ho' => ?_⟩
          cases hskip.symm.trans ho'
          exact (ih h.skip).mpr hrest
      · have hspoken : ∀ earlier, past ++ spoken (turn :: earlier) = past ++ [turn] ++ spoken earlier := by
          intro earlier
          have hempty : turn.1.isEmpty = false := List.isEmpty_eq_false_iff.mpr hinput
          unfold spoken
          rw [List.filter_cons, hempty, List.append_assoc]
          rfl
        simp only [hspoken]
        have hnone : past ++ spoken [] = past := List.append_nil past
        rw [hnone]
        constructor
        · rintro ⟨hrange, hrest⟩
          obtain ⟨text, htext, hfits⟩ := h.inRange_iff.mp (hrange hinput)
          have hchat := (@chat_eq_ok tmpl o _ turn.1 turn.2 hinput).mpr ⟨text, h.prompt htext hfits, rfl⟩
          exact ⟨fun _ => ⟨text, htext, hfits⟩, (ih (h.chat hinput hchat)).mp (hrest _ hchat)⟩
        · rintro ⟨hfirst, hrest⟩
          refine ⟨fun _ => h.inRange_iff.mpr (hfirst hinput), fun o' ho' => ?_⟩
          exact (ih (h.chat hinput ho')).mpr hrest

end Turns

/-- **The prompt stays inside its buffer** in every turn of a conversation iff the template is supported and
    the formatted conversation has at most `n_ctx` bytes, in every turn. -/
theorem prompt_in_buffer_iff (tmpl : ChatTemplate) (systemMessage : List UInt8) (nCtx : Nat)
    (turns : List Turn) :
    StaysInside tmpl turns (loaded systemMessage nCtx) ↔
      ∀ earlier turn later, turns = earlier ++ turn :: later → turn.1 ≠ [] →
        ∃ text, tmpl (conversationOf systemMessage (spoken earlier) turn.1) true = some text ∧
          text.length ≤ nCtx :=
  staysInside_iff (after_loaded systemMessage nCtx)

/-- The bytes that the messages are made of. -/
def contentLength (messages : List ChatMessage) : Nat := (messages.map fun m => m.content.length).sum

theorem length_le_contentLength (systemMessage : List UInt8) {turns : List Turn}
    (hturns : ∀ turn ∈ turns, cString turn.1 ≠ []) :
    turns.length ≤ contentLength (exchanged systemMessage turns) := by
  have hrest : turns.length ≤ contentLength
      (turns.flatMap fun turn => [⟨"user", cString turn.1⟩, ⟨"assistant", cString turn.2⟩]) := by
    induction turns with
    | nil => exact Nat.le_refl 0
    | cons turn turns ih =>
        obtain ⟨hturn, hturns⟩ := List.forall_mem_cons.mp hturns
        have hpos : 1 ≤ (cString turn.1).length := List.length_pos_iff.mpr hturn
        have hle := ih hturns
        simp only [contentLength, List.flatMap_cons, List.map_append, List.sum_append, List.map_cons,
          List.sum_cons, List.length_cons, List.map_nil, List.sum_nil] at hle ⊢
        omega
  unfold contentLength exchanged at *
  rw [List.map_append, List.sum_append]
  omega

/-- **A conversation outgrows any buffer**, if the template keeps what the messages say. -/
theorem not_staysInside_of_long {tmpl : ChatTemplate}
    (hkeeps : ∀ messages text, tmpl messages true = some text → contentLength messages ≤ text.length)
    (systemMessage : List UInt8) {nCtx : Nat} {turns : List Turn}
    (hturns : ∀ turn ∈ turns, cString turn.1 ≠ []) (hlong : nCtx < turns.length) :
    ¬ StaysInside tmpl turns (loaded systemMessage nCtx) := by
  intro h
  rw [staysInside_iff (after_loaded systemMessage nCtx)] at h
  have hne : turns ≠ [] := List.ne_nil_of_length_pos (by omega)
  have hlast := List.dropLast_append_getLast hne
  have hinput : ∀ turn ∈ turns, turn.1 ≠ [] := by
    rintro turn hturn hempty
    apply hturns turn hturn
    rw [hempty]
    rfl
  obtain ⟨text, htext, hfits⟩ := h turns.dropLast (turns.getLast hne) [] hlast.symm
    (hinput _ (List.getLast_mem hne))
  have hspoken : [] ++ spoken turns.dropLast = turns.dropLast := by
    refine List.filter_eq_self.mpr fun turn hturn => ?_
    rw [List.isEmpty_eq_false_iff.mpr (hinput turn (List.dropLast_subset _ hturn))]
    rfl
  rw [hspoken] at htext
  have hearlier := length_le_contentLength systemMessage
    (fun turn hturn => hturns turn (List.dropLast_subset _ hturn))
  have hinputLength : 1 ≤ (cString (turns.getLast hne).1).length :=
    List.length_pos_iff.mpr (hturns _ (List.getLast_mem hne))
  have hall := hkeeps _ _ htext
  unfold conversationOf contentLength at hall
  unfold contentLength at hearlier
  rw [List.map_append, List.sum_append, List.map_singleton, List.sum_singleton] at hall
  change _ + (cString (turns.getLast hne).1).length ≤ text.length at hall
  rw [List.length_dropLast] at hearlier
  omega

/-! ## Only what is new -/

/-- **In every turn** what has been fed before and the prompt are together the formatted conversation. -/
def Incremental (tmpl : ChatTemplate) : List Turn → LlamaOperator → Prop
  | [], _ => True
  | turn :: turns, o =>
      (∃ prompt, o.prompt tmpl turn.1 = .ok prompt ∧
        tmpl (o.conversation turn.1) true = some (o.fed ++ prompt)) ∧
      ∀ o', o.chat tmpl turn.1 turn.2 = .ok o' → Incremental tmpl turns o'

/-- The template is supported, and the buffer is large enough, in every turn after these. -/
def Roomy (tmpl : ChatTemplate) (systemMessage : List UInt8) (nCtx : Nat) (past turns : List Turn) : Prop :=
  ∀ earlier turn later, turns = earlier ++ turn :: later →
    ∃ text, tmpl (conversationOf systemMessage (past ++ earlier) turn.1) true = some text ∧ text.length ≤ nCtx

/-- Nothing is fed in any turn but the last one. -/
def FedOnlyLast (tmpl : ChatTemplate) (systemMessage : List UInt8) (past turns : List Turn) : Prop :=
  ∀ earlier turn later, turns = earlier ++ turn :: later → later ≠ [] →
    tmpl (conversationOf systemMessage (past ++ earlier) turn.1) true = some [] ∧ turn.2 = []

theorem incremental_iff {tmpl : ChatTemplate} {systemMessage : List UInt8} {nCtx : Nat} {past turns : List Turn}
    {o : LlamaOperator} (h : After systemMessage nCtx past o) (hinput : ∀ turn ∈ turns, turn.1 ≠ [])
    (hroom : Roomy tmpl systemMessage nCtx past turns) :
    Incremental tmpl turns o ↔ (turns = [] ∨ o.fed = []) ∧ FedOnlyLast tmpl systemMessage past turns := by
  induction turns generalizing past o with
  | nil =>
      refine ⟨fun _ => ⟨.inl rfl, fun earlier turn later hturns => ?_⟩, fun _ => trivial⟩
      exact absurd hturns.symm (List.append_ne_nil_of_right_ne_nil _ (List.cons_ne_nil _ _))
  | cons turn turns ih =>
      obtain ⟨hturn, hinput⟩ := List.forall_mem_cons.mp hinput
      unfold Roomy at hroom
      rw [forall_turn_cons, List.append_nil] at hroom
      obtain ⟨⟨text, htext, hfits⟩, hroom⟩ := hroom
      have hroom : Roomy tmpl systemMessage nCtx (past ++ [turn]) turns := by
        intro earlier t later hturns
        rw [List.append_assoc]
        exact hroom earlier t later hturns
      have hprompt := h.prompt htext hfits
      -- this turn: the whole conversation is fed
      have hthis : (∃ prompt, o.prompt tmpl turn.1 = .ok prompt ∧
          tmpl (o.conversation turn.1) true = some (o.fed ++ prompt)) ↔ o.fed = [] := by
        rw [h.conversation, htext]
        constructor
        · rintro ⟨prompt, hok, heq⟩
          cases hprompt.symm.trans hok
          exact List.self_eq_append_left.mp (Option.some.inj heq)
        · intro hfed
          exact ⟨text, hprompt, by rw [hfed]; rfl⟩
      have hchat := (@chat_eq_ok tmpl o _ turn.1 turn.2 hturn).mpr ⟨text, hprompt, rfl⟩
      have hrest := ih (h.chat hturn hchat) hinput hroom
      have hlast : FedOnlyLast tmpl systemMessage past (turn :: turns) ↔
          (turns ≠ [] → text = [] ∧ turn.2 = []) ∧ FedOnlyLast tmpl systemMessage (past ++ [turn]) turns := by
        unfold FedOnlyLast
        rw [forall_turn_cons, List.append_nil, htext, Option.some_inj]
        simp only [List.append_assoc, List.singleton_append]
      rw [hlast]
      constructor
      · rintro ⟨hprompts, hnext⟩
        obtain ⟨hfed, honly⟩ := hrest.mp (hnext _ hchat)
        have hempty := hthis.mp hprompts
        refine ⟨.inr hempty, fun hne => ?_, honly⟩
        have happend := hfed.resolve_left hne
        simp only [List.append_eq_nil_iff] at happend
        exact ⟨happend.1.2, happend.2⟩
      · rintro ⟨hfed, hnone, honly⟩
        have hempty := hfed.resolve_left (List.cons_ne_nil _ _)
        refine ⟨hthis.mpr hempty, fun o' ho' => ?_⟩
        cases hchat.symm.trans ho'
        refine hrest.mpr ⟨?_, honly⟩
        by_cases hne : turns = []
        · exact .inl hne
        · obtain ⟨rfl, hreply⟩ := hnone hne
          exact .inr (by simp only [hempty, hreply, List.append_nil])

/-- **The prompts are incremental** iff there is one turn at most, or nothing at all is fed before the last
    one. -/
theorem incremental_prompt_iff {tmpl : ChatTemplate} {systemMessage : List UInt8} {nCtx : Nat}
    {turns : List Turn} (hinput : ∀ turn ∈ turns, turn.1 ≠ [])
    (hroom : Roomy tmpl systemMessage nCtx [] turns) :
    Incremental tmpl turns (loaded systemMessage nCtx) ↔ FedOnlyLast tmpl systemMessage [] turns :=
  (incremental_iff (after_loaded systemMessage nCtx) hinput hroom).trans (and_iff_right (.inr rfl))

/-! ### Two conversations -/

/-- A template that writes the contents one behind the other. -/
def plainTemplate : ChatTemplate := fun messages _ => some (messages.flatMap ChatMessage.content)

/-- The formatting of a longer conversation extends that of a shorter one. -/
def AppendOnly (tmpl : ChatTemplate) : Prop :=
  ∀ messages more text, tmpl messages true = some text → ∃ rest, tmpl (messages ++ more) true = some (text ++ rest)

theorem appendOnly_plainTemplate : AppendOnly plainTemplate := by
  rintro messages more text htext
  cases htext
  exact ⟨more.flatMap ChatMessage.content, congrArg some List.flatMap_append⟩

/-- The user says "Hi", and the model replies "Yo". -/
def hiYo : Turn := ([72, 105], [89, 111])

theorem hiYo_input {turns : List Turn} (h : ∀ turn ∈ turns, turn = hiYo) : ∀ turn ∈ turns, turn.1 ≠ [] := by
  intro turn hturn
  rw [h turn hturn]
  exact List.cons_ne_nil _ _

theorem roomy_hiYo : Roomy plainTemplate [] 100 [] [hiYo, hiYo] := by
  unfold Roomy
  simp only [forall_turn_cons]
  refine ⟨⟨_, rfl, by decide⟩, ⟨_, rfl, by decide⟩, fun earlier turn later hturns => ?_⟩
  exact absurd hturns.symm (List.append_ne_nil_of_right_ne_nil _ (List.cons_ne_nil _ _))

/-- There is room for the first turns when there is room for all. -/
theorem Roomy.of_append {tmpl : ChatTemplate} {systemMessage : List UInt8} {nCtx : Nat}
    {past first second : List Turn} (h : Roomy tmpl systemMessage nCtx past (first ++ second)) :
    Roomy tmpl systemMessage nCtx past first := by
  rintro earlier turn later rfl
  exact h earlier turn (later ++ second) (by rw [List.append_assoc, List.cons_append])

theorem incremental_prompt_hiYo : Incremental plainTemplate [hiYo] (loaded [] 100) ∧
    ¬ Incremental plainTemplate [hiYo, hiYo] (loaded [] 100) := by
  refine ⟨?_, fun h => ?_⟩
  · have hroom : Roomy plainTemplate [] 100 [] ([hiYo] ++ [hiYo]) := roomy_hiYo
    refine (incremental_prompt_iff (hiYo_input (by simp)) hroom.of_append).mpr ?_
    unfold FedOnlyLast
    rw [forall_turn_cons]
    refine ⟨fun hne => absurd rfl hne, fun earlier turn later hturns => ?_⟩
    exact absurd hturns.symm (List.append_ne_nil_of_right_ne_nil _ (List.cons_ne_nil _ _))
  · -- "Hi" and "Yo" are in the context before the second turn.
    have hfed := (incremental_prompt_iff (hiYo_input (by simp)) roomy_hiYo).mp h
    obtain ⟨_, hreply⟩ := hfed [] hiYo [hiYo] rfl (List.cons_ne_nil _ _)
    exact List.cons_ne_nil _ _ hreply

/-- **The first message is fed twice**: the second prompt is "HiYoHi", and "HiYo" is in the context already. -/
theorem second_prompt_repeats : AppendOnly plainTemplate ∧ ∃ o,
    (loaded [] 100).chat plainTemplate hiYo.1 hiYo.2 = .ok o ∧ o.fed = [72, 105, 89, 111] ∧
      o.prompt plainTemplate hiYo.1 = .ok [72, 105, 89, 111, 72, 105] ∧
      ¬ Incremental plainTemplate [hiYo, hiYo] (loaded [] 100) := by
  have hsecond : ∀ o, (loaded [] 100).chat plainTemplate hiYo.1 hiYo.2 = .ok o →
      o.prompt plainTemplate hiYo.1 = .ok [72, 105, 89, 111, 72, 105] ∧ o.fed = [72, 105, 89, 111] ∧
        plainTemplate (o.conversation hiYo.1) true = some [72, 105, 89, 111, 72, 105] := by
    intro o ho
    cases ho
    exact ⟨rfl, rfl, rfl⟩
  refine ⟨appendOnly_plainTemplate, _, rfl, rfl, rfl, ?_⟩
  rintro ⟨_, hrest⟩
  obtain ⟨⟨prompt, hprompt, heq⟩, _⟩ := hrest _ rfl
  obtain ⟨hthis, hfed, hall⟩ := hsecond _ rfl
  cases hthis.symm.trans hprompt
  rw [hall, hfed] at heq
  exact absurd heq (by decide)

/-- A message of 2049 letters. -/
def longInput : List UInt8 := List.replicate 2049 97

theorem cString_longInput : cString longInput = longInput := by
  refine List.takeWhile_eq_self_iff.mpr fun b hb => ?_
  rw [List.eq_of_mem_replicate hb]
  rfl

/-- **A context of 2048 tokens**, and so a buffer of 2048 bytes, is too small for the message. -/
theorem prompt_outside_buffer : ¬ StaysInside plainTemplate [(longInput, [])] (loaded [] 2048) := by
  have hlength : longInput.length = 2049 := List.length_replicate
  have hne : longInput ≠ [] := List.ne_nil_of_length_pos (by omega)
  rintro ⟨hrange, _⟩
  obtain ⟨text, htext, hfits⟩ := (after_loaded [] 2048).inRange_iff.mp (hrange hne)
  have htext : some (cString longInput ++ []) = some text := htext
  rw [cString_longInput, List.append_nil] at htext
  cases htext
  omega

end LlamaOperator

end Kufibot
