import Kufibot.Services.InteractiveChat

/-!
# `Services.ChatStall` — a short sentence holds the next ones back

The loop of the callback looks for the first complete sentence only, and leaves when that one is shorter
than four bytes. What stands behind it is not looked at: the buffer of `Hi. Hello there.` stays as it is, and
with every further piece the loop leaves at `Hi.` again.

`completeSentences` is what the loop would find if it did not leave. A call that meets no short sentence
except as the last one publishes everything that is long enough (`not_stalled_of_shortIsLast`, and for a
whole reply `streamed_chat_not_stalled`); a short sentence before a complete one of four bytes stalls the
buffer (`stalled_of_short`).
-/

namespace Kufibot

open Lib Lib.Text

/-- A prefix is complete and long enough: a run of marks ends it, before a space or the end of the text. -/
def Stalled (text : Bytes) : Prop :=
  ∃ before run spaces after, text = before ++ (run ++ spaces ++ after) ∧
    IsMatch isMark isSpace run spaces after ∧ 4 ≤ (trim isBlank (before ++ run)).length

/-- What a match ends is trimmed at its start. -/
theorem trim_of_isMatch {run spaces after : Bytes} (h : IsMatch isMark isSpace run spaces after)
    (before : Bytes) : trim isBlank (before ++ run) = (before ++ run).dropWhile isBlank :=
  trim_append_run h.run_ne_nil (fun c hc => isBlank_of_isMark (h.marks c hc)) before

/-! ## The complete sentences of a text -/

/-- The first complete sentence, however short it is, and the remaining text. -/
def cutSentence (text : Bytes) : Option (Bytes × Bytes) :=
  (searchRun isMark isSpace text).map fun m =>
    let rest := text.drop (m.position + m.run)
    (trim isBlank (text.take (m.position + m.run)),
      if 0 < m.spaces then rest.drop (m.spaces - 1) else rest)

/-- The loop takes the first complete sentence if it is long enough. -/
theorem nextSentence_eq (text : Bytes) :
    nextSentence text = (cutSentence text).filter fun cut => 4 ≤ cut.1.length := by
  unfold nextSentence cutSentence
  cases searchRun isMark isSpace text with
  | none => rfl
  | some m =>
      rw [Option.map_some, Option.filter_some]
      simp only [decide_eq_true_eq]

theorem cutSentence_spec {text sentence rest : Bytes} (h : cutSentence text = some (sentence, rest)) :
    ∃ before run spaces after, text = before ++ (run ++ spaces ++ after) ∧
      IsMatch isMark isSpace run spaces after ∧ sentence = (before ++ run).dropWhile isBlank ∧
      rest = spaces.drop (spaces.length - 1) ++ after := by
  obtain ⟨m, hsearch, hcut⟩ := Option.map_eq_some_iff.mp h
  obtain ⟨before, run, spaces, after, rfl, hmatch, rfl⟩ := searchRun_spec hsearch
  obtain ⟨htake, hrest⟩ := cut_match before run spaces after
  obtain ⟨rfl, rfl⟩ := Prod.mk.inj hcut
  refine ⟨before, run, spaces, after, rfl, hmatch, ?_, hrest⟩
  show trim isBlank (List.take (before.length + run.length) _) = _
  rw [htake, trim_of_isMatch hmatch]

theorem length_rest_lt {text sentence rest : Bytes} (h : cutSentence text = some (sentence, rest)) :
    rest.length < text.length := by
  obtain ⟨before, run, spaces, after, rfl, hmatch, -, rfl⟩ := cutSentence_spec h
  have hrun := List.length_pos_iff.mpr hmatch.run_ne_nil
  simp only [List.length_append, List.length_drop]
  omega

/-- All complete sentences of a text, the short ones too. -/
def completeSentences (text : Bytes) : List Bytes :=
  match h : cutSentence text with
  | none => []
  | some (sentence, rest) =>
      have := length_rest_lt h
      sentence :: completeSentences rest
termination_by text.length

theorem completeSentences_of_none {text : Bytes} (h : cutSentence text = none) :
    completeSentences text = [] := by
  rw [completeSentences]
  split
  · rfl
  · rename_i heq
    rw [h] at heq
    cases heq

theorem completeSentences_of_some {text sentence rest : Bytes}
    (h : cutSentence text = some (sentence, rest)) :
    completeSentences text = sentence :: completeSentences rest := by
  rw [completeSentences]
  split
  · rename_i heq
    rw [h] at heq
    cases heq
  · rename_i heq
    rw [h] at heq
    cases heq
    rfl

/-- A match is a complete sentence. -/
theorem completeSentences_ne_nil {before run spaces after : Bytes}
    (h : IsMatch isMark isSpace run spaces after) :
    completeSentences (before ++ (run ++ spaces ++ after)) ≠ [] := by
  cases hcut : cutSentence (before ++ (run ++ spaces ++ after)) with
  | none =>
      have hnone := Option.map_eq_none_iff.mp hcut
      exact absurd h ((searchRun_eq_none_iff isSpace_of_isMark _).mp hnone before run spaces after rfl)
  | some cut =>
      rw [completeSentences_of_some hcut]
      exact List.cons_ne_nil _ _

/-- **What may be short**: of the complete sentences only the last one. -/
def ShortIsLast (text : Bytes) : Prop :=
  ∀ before sentence after, completeSentences text = before ++ sentence :: after →
    sentence.length < 4 → after = []

theorem shortIsLast_of_append {text last : Bytes} {sentences : List Bytes}
    (h : completeSentences text = sentences ++ [last]) (hlong : ∀ sentence ∈ sentences, 4 ≤ sentence.length) :
    ShortIsLast text := by
  intro before short after htext hshort
  rcases List.eq_nil_or_concat after with rfl | ⟨after', last', rfl⟩
  · rfl
  · rw [h, List.concat_eq_append, ← List.cons_append, ← List.append_assoc] at htext
    have hmem : short ∈ sentences := by
      rw [(List.append_inj' htext rfl).1]
      exact List.mem_append_right _ List.mem_cons_self
    have hle := hlong short hmem
    omega

/-! ## A call -/

/-- A text that starts with its only short sentence has nothing behind it that could be published. -/
theorem not_stalled_of_first {text sentence rest : Bytes} (hcut : cutSentence text = some (sentence, rest))
    (hshort : sentence.length < 4) (hlast : completeSentences rest = []) : ¬Stalled text := by
  rintro ⟨before', run', spaces', after', htext', hmatch', hlength⟩
  obtain ⟨before, run, spaces, after, htext, hmatch, rfl, rfl⟩ := cutSentence_spec hcut
  have hends : before ++ run ++ (spaces ++ after) = before' ++ run' ++ (spaces' ++ after') := by
    rw [List.append_assoc, ← List.append_assoc run, ← htext, htext', List.append_assoc run',
      List.append_assoc before']
  rcases hmatch.ends_or_behind isSpace_of_isMark hmatch' hends with ⟨more, hmore⟩ | ⟨between, hafter⟩
  · -- the other prefix is a part of the sentence, so it is as short
    have hle := length_dropWhile_le isBlank (before' ++ run') more
    rw [← hmore] at hle
    rw [trim_of_isMatch hmatch'] at hlength
    omega
  · -- the other prefix ends with a sentence behind the first
    rw [hafter, ← List.append_assoc] at hlast
    exact completeSentences_ne_nil hmatch' hlast

/-- **One call**: if no short sentence is followed by a complete one, nothing is held back. -/
theorem not_stalled_of_shortIsLast {text : Bytes} (h : ShortIsLast text) : ¬Stalled (scanLoop text).2 := by
  induction text using scanLoop.induct with
  | case1 text hnext =>
      rw [scanLoop_of_none hnext]
      rw [nextSentence_eq] at hnext
      cases hcut : cutSentence text with
      | none =>
          rintro ⟨before, run, spaces, after, rfl, hmatch, -⟩
          exact completeSentences_ne_nil hmatch (completeSentences_of_none hcut)
      | some cut =>
          obtain ⟨sentence, rest⟩ := cut
          have hshort : sentence.length < 4 := by
            rw [hcut, Option.filter_some] at hnext
            simpa using hnext
          exact not_stalled_of_first hcut hshort (h [] sentence _ (completeSentences_of_some hcut) hshort)
  | case2 text sentence rest hnext _ ih =>
      have hcut : cutSentence text = some (sentence, rest) := by
        rw [nextSentence_eq] at hnext
        exact (Option.filter_eq_some_iff.mp hnext).1
      rw [scanLoop_of_some hnext]
      apply ih
      intro before short after hrest hshort
      refine h (sentence :: before) short after ?_ hshort
      rw [completeSentences_of_some hcut, hrest]
      rfl

/-! ## What stalls the buffer -/

/-- What is stalled behind the first sentence is stalled with it. -/
theorem Stalled.of_rest {text sentence rest : Bytes} (hcut : cutSentence text = some (sentence, rest))
    (h : Stalled rest) : Stalled text := by
  obtain ⟨before, run, spaces, after, rfl, -, -, hrest⟩ := cutSentence_spec hcut
  obtain ⟨before', run', spaces', after', htext', hmatch', hlength⟩ := h
  refine ⟨before ++ run ++ spaces.take (spaces.length - 1) ++ before', run', spaces', after', ?_, hmatch', ?_⟩
  · have hspaces := List.take_append_drop (spaces.length - 1) spaces
    rw [List.append_assoc _ before', ← htext', hrest, List.append_assoc (before ++ run),
      ← List.append_assoc (spaces.take _), hspaces, List.append_assoc run, List.append_assoc before]
  · rw [trim_of_isMatch hmatch'] at hlength
    rw [trim_of_isMatch hmatch', List.append_assoc _ before']
    exact le_trans hlength (length_dropWhile_append_le isBlank _ _)

/-- A complete sentence that is long enough is a prefix that should have been published. -/
theorem stalled_of_mem {text sentence : Bytes} (hmem : sentence ∈ completeSentences text)
    (hlong : 4 ≤ sentence.length) : Stalled text := by
  induction text using completeSentences.induct with
  | case1 text hcut =>
      rw [completeSentences_of_none hcut] at hmem
      exact absurd hmem List.not_mem_nil
  | case2 text first rest hcut _ ih =>
      rw [completeSentences_of_some hcut] at hmem
      rcases List.mem_cons.mp hmem with rfl | hmem
      · obtain ⟨before, run, spaces, after, rfl, hmatch, rfl, -⟩ := cutSentence_spec hcut
        refine ⟨before, run, spaces, after, rfl, hmatch, ?_⟩
        rw [trim_of_isMatch hmatch]
        exact hlong
      · exact (ih hmem).of_rest hcut

/-- **A short sentence stalls the buffer** if a complete one of four bytes is behind it. -/
theorem stalled_of_short {text short sentence : Bytes} {before after : List Bytes}
    (h : completeSentences text = before ++ short :: after) (hshort : short.length < 4)
    (hmem : sentence ∈ after) (hlong : 4 ≤ sentence.length) : Stalled (scanLoop text).2 := by
  induction text using scanLoop.induct generalizing before with
  | case1 text hnext =>
      rw [scanLoop_of_none hnext]
      have hcomplete : sentence ∈ completeSentences text := by
        rw [h]
        exact List.mem_append_right _ (List.mem_cons_of_mem _ hmem)
      exact stalled_of_mem hcomplete hlong
  | case2 text first rest hnext _ ih =>
      have hfirst := (nextSentence_spec hnext).2.2.1
      have hcut : cutSentence text = some (first, rest) := by
        rw [nextSentence_eq] at hnext
        exact (Option.filter_eq_some_iff.mp hnext).1
      rw [completeSentences_of_some hcut] at h
      rw [scanLoop_of_some hnext]
      -- what the loop takes is long enough, so the short one is not the first
      cases before with
      | nil =>
          obtain ⟨rfl, -⟩ := List.cons.inj h
          omega
      | cons _ before => exact ih (List.cons.inj h).2

/-! ## A reply -/

namespace InteractiveChatService

/-- **No sentence is held back**, as long as no piece completes a sentence behind a short one: if, at every
    call, only the last complete sentence of the buffer with the new piece is shorter than four bytes, then
    after every call no prefix of the buffer is complete and long enough. -/
theorem streamed_chat_not_stalled (operator : EmbeddingOperator) (s : InteractiveChatService)
    {tokens : List Bytes} (hend : ∀ token ∈ tokens, token ≠ endToken)
    (hshort : ∀ earlier token later, tokens = earlier ++ token :: later →
      ShortIsLast ((s.receive operator earlier).accumulatedText ++ token)) :
    ∀ earlier token later, tokens = earlier ++ token :: later →
      ¬Stalled (s.receive operator (earlier ++ [token])).accumulatedText := by
  intro earlier token later htokens
  have htoken : token ≠ endToken := by
    apply hend
    rw [htokens]
    exact List.mem_append_right _ List.mem_cons_self
  have hcall : s.receive operator (earlier ++ [token]) =
      (s.receive operator earlier).queryResponseCallback operator token := by
    show List.foldl _ s (earlier ++ [token]) = _
    rw [List.foldl_append]
    rfl
  rw [hcall, accumulatedText_callback htoken]
  exact not_stalled_of_shortIsLast (hshort earlier token later htokens)

/-- `Merhaba! Hi.` -/
def merhabaHi : Bytes := [77, 101, 114, 104, 97, 98, 97, 33, 32, 72, 105, 46]

/-- A short sentence that is the last one is kept, and nothing else. -/
theorem merhabaHi_not_stalled :
    ¬Stalled ((constructed [] []).receive noEmbeddings [merhabaHi]).accumulatedText := by
  have hsentences : completeSentences merhabaHi =
      [[77, 101, 114, 104, 97, 98, 97, 33]] ++ [[72, 105, 46]] := by
    have hfirst : cutSentence merhabaHi = some ([77, 101, 114, 104, 97, 98, 97, 33], [32, 72, 105, 46]) := rfl
    have hsecond : cutSentence [32, 72, 105, 46] = some ([72, 105, 46], []) := rfl
    rw [completeSentences_of_some hfirst, completeSentences_of_some hsecond, completeSentences_of_none rfl]
    rfl
  have hlast : ShortIsLast merhabaHi := shortIsLast_of_append hsentences (by decide)
  have hcalls : ∀ earlier token later, [merhabaHi] = earlier ++ token :: later →
      ShortIsLast (((constructed [] []).receive noEmbeddings earlier).accumulatedText ++ token) := by
    intro earlier token later htokens
    cases earlier with
    | nil =>
        obtain ⟨rfl, -⟩ := List.cons.inj htokens
        exact hlast
    | cons _ earlier =>
        have hnil := (List.cons.inj htokens).2
        exact absurd hnil.symm (List.append_ne_nil_of_right_ne_nil _ (List.cons_ne_nil _ _))
  exact streamed_chat_not_stalled noEmbeddings (constructed [] []) (by decide) hcalls [] merhabaHi [] rfl

/-- `Hi. Hello there.` -/
def hiHelloThere : Bytes := [72, 105, 46, 32, 72, 101, 108, 108, 111, 32, 116, 104, 101, 114, 101, 46]

/-- **Nothing is said**: the sentence behind `Hi.` is complete, and stays in the buffer. -/
theorem hello_held_back :
    hiHelloThere ≠ endToken ∧
      ((constructed [] []).receive noEmbeddings [hiHelloThere]).published = [] ∧
      Stalled ((constructed [] []).receive noEmbeddings [hiHelloThere]).accumulatedText := by
  rw [receive_of_nextSentence_eq_none (by decide) (by decide)]
  have hmatch : IsMatch isMark isSpace [46] [] [] :=
    ⟨List.cons_ne_nil _ _, List.forall_mem_singleton.mpr rfl, fun _ => (nomatch ·), fun _ => rfl⟩
  exact ⟨by decide, rfl, hiHelloThere.take 15, [46], [], [], rfl, hmatch, by decide⟩

end InteractiveChatService

end Kufibot
