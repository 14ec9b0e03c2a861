import Kufibot.Lib.Float64
import Kufibot.Lib.History

/-!
# `VoiceAgent.EchoSuppression` — when the microphone is open

`EchoSuppressionProcessor` drops the audio frames that come while the robot speaks, and for a grace period
after it stopped. It remembers three values, and resets two of them lazily: the safety valve, which ends a
speech that lasts too long, is only looked at when audio arrives.

What it does is nevertheless a function of the history of frames (`forwarded_iff`): `Tracks` says what each
of the three values is, and a valve that opened once stays open because the clock does not go back.
-/

namespace Kufibot

open Lib Lib.History

/-- The clock and its arithmetic. All that matters is that a difference grows with the later time, and
    beyond every limit. -/
structure Clock where
  lit : ℚ → ℚ
  add : ℚ → ℚ → ℚ
  sub : ℚ → ℚ → ℚ
  sub_le_sub : ∀ {s t u : ℚ}, s ≤ t → t ≤ u → sub t s ≤ sub u s
  sub_unbounded : ∀ limit s : ℚ, ∃ t₀, ∀ t, t₀ ≤ t → limit < sub t s

/-- Seconds as numbers. -/
def Clock.exact : Clock where
  lit q := q
  add := (· + ·)
  sub := (· - ·)
  sub_le_sub _ h := by linarith
  sub_unbounded limit s := ⟨limit + s + 1, fun t ht => by linarith⟩

/-- Seconds as the doubles of `time.monotonic()`. -/
def Clock.double : Clock where
  lit := Float64.round
  add := Float64.add
  sub := Float64.sub
  sub_le_sub hst htu := Float64.round_le_round_of_nonneg (by linarith) (by linarith)
  sub_unbounded limit s := by
    refine ⟨s + 2 * |limit| + 1, fun t ht => ?_⟩
    have hsub : 2 * |limit| + 1 ≤ t - s := by linarith
    have habs := abs_nonneg limit
    have hround := (Float64.round_mem_of_nonneg (q := t - s) (by linarith)).1
    have hle := le_abs_self limit
    show limit < Float64.round (t - s)
    linarith

/-- The frames that the processor tells apart. -/
inductive EchoFrame where
  | interruption
  | userStartedSpeaking
  | botStartedSpeaking
  | botStoppedSpeaking
  | inputAudioRaw
  | other
deriving DecidableEq, Repr

structure EchoSuppressionProcessor where
  botSpeaking : Bool := false
  botSpeakingSince : ℚ := 0
  ignoreAudioUntil : ℚ := 0
deriving DecidableEq, Repr

namespace EchoSuppressionProcessor

variable (clock : Clock)

def maxBotSpeakingSecs : ℚ := clock.lit 30

/-- The `0.35` of the two branches. -/
def grace : ℚ := clock.lit (35 / 100)

/-- The forced reset, on an audio frame. -/
def safetyValve (now : ℚ) (p : EchoSuppressionProcessor) : EchoSuppressionProcessor :=
  if p.botSpeaking ∧ 0 < p.botSpeakingSince ∧
      maxBotSpeakingSecs clock < clock.sub now p.botSpeakingSince then
    { p with botSpeaking := false, botSpeakingSince := 0 }
  else p

/-- The new state, and whether the frame is pushed. -/
def processFrame (p : EchoSuppressionProcessor) (now : ℚ) :
    EchoFrame → EchoSuppressionProcessor × Bool
  | .interruption =>
      ({ botSpeaking := false, botSpeakingSince := 0,
         ignoreAudioUntil := clock.add now (grace clock) }, true)
  | .userStartedSpeaking => ({ p with botSpeaking := false, botSpeakingSince := 0 }, true)
  | .botStartedSpeaking => ({ p with botSpeaking := true, botSpeakingSince := now }, true)
  | .botStoppedSpeaking =>
      ({ botSpeaking := false, botSpeakingSince := 0,
         ignoreAudioUntil := clock.add now (grace clock) }, true)
  | .inputAudioRaw =>
      let p := p.safetyValve clock now
      (p, !(p.botSpeaking || decide (now < p.ignoreAudioUntil)))
  | .other => (p, true)

/-- The state after a history, from the constructor's. -/
def after (history : List (ℚ × EchoFrame)) : EchoSuppressionProcessor :=
  history.foldl (fun p event => (p.processFrame clock event.1 event.2).1) {}

/-- Whether a frame that comes at `now`, after the history, is pushed. -/
def forwarded (history : List (ℚ × EchoFrame)) (now : ℚ) (frame : EchoFrame) : Bool :=
  ((after clock history).processFrame clock now frame).2

theorem after_concat (history : List (ℚ × EchoFrame)) (now : ℚ) (frame : EchoFrame) :
    after clock (history ++ [(now, frame)]) =
      ((after clock history).processFrame clock now frame).1 := by
  unfold after
  rw [List.foldl_append]
  rfl

end EchoSuppressionProcessor

/-! ## What the history says -/

/-- The frames that start the grace period. -/
def EchoFrame.silences : EchoFrame → Bool
  | .interruption | .botStoppedSpeaking => true
  | _ => false

/-- The frames after which the robot does not speak. -/
def EchoFrame.endsSpeech : EchoFrame → Bool
  | .interruption | .botStoppedSpeaking | .userStartedSpeaking => true
  | _ => false

def EchoFrame.startsSpeech : EchoFrame → Bool
  | .botStartedSpeaking => true
  | _ => false

/-- When the robot started to speak, if nothing has ended its speech since. -/
def speechStart (history : List (ℚ × EchoFrame)) : Option ℚ :=
  latest EchoFrame.startsSpeech (since EchoFrame.endsSpeech history)

/-- The clock is positive and does not go back. -/
structure Timed (history : List (ℚ × EchoFrame)) : Prop where
  nondecreasing : (history.map Prod.fst).Pairwise (· ≤ ·)
  pos : ∀ event ∈ history, 0 < event.1

theorem timed_concat {history : List (ℚ × EchoFrame)} {now : ℚ} {frame : EchoFrame} :
    Timed (history ++ [(now, frame)]) ↔
      Timed history ∧ (∀ event ∈ history, event.1 ≤ now) ∧ 0 < now := by
  constructor
  · rintro ⟨hle, hpos⟩
    rw [List.map_append, List.pairwise_append] at hle
    have hnow : (now, frame) ∈ history ++ [(now, frame)] := List.mem_append_right _ List.mem_cons_self
    refine ⟨⟨hle.1, fun event h => hpos event (List.mem_append_left _ h)⟩, fun event h => ?_,
      hpos _ hnow⟩
    exact hle.2.2 _ (List.mem_map_of_mem h) _ List.mem_cons_self
  · rintro ⟨⟨hle, hpos⟩, hnow, hnowpos⟩
    refine ⟨?_, ?_⟩
    · rw [List.map_append, List.pairwise_append]
      refine ⟨hle, by simp, ?_⟩
      simpa using hnow
    · intro event h
      rcases List.mem_append.mp h with h | h
      · exact hpos event h
      · rw [List.mem_singleton.mp h]
        exact hnowpos

theorem mem_of_speechStart {history : List (ℚ × EchoFrame)} {start : ℚ}
    (h : speechStart history = some start) : ∃ frame, (start, frame) ∈ history := by
  obtain ⟨frame, hframe⟩ := mem_of_latest h
  exact ⟨frame, mem_of_mem_since hframe⟩

theorem speechStart_concat (history : List (ℚ × EchoFrame)) (now : ℚ) (frame : EchoFrame) :
    speechStart (history ++ [(now, frame)]) =
      if frame.endsSpeech then none
      else if frame.startsSpeech then some now else speechStart history := by
  unfold speechStart
  rw [since_concat]
  split
  · rfl
  · exact latest_concat _ _ _ _

/-! ## What the processor remembers -/

namespace EchoSuppressionProcessor

variable {clock : Clock}

/-- **The three values, read off the history.** A processor that does not take the robot for speaking,
    although its speech has not ended, opened the valve at an earlier event. -/
structure Tracks (clock : Clock) (history : List (ℚ × EchoFrame)) (p : EchoSuppressionProcessor) :
    Prop where
  ignoreAudioUntil :
    p.ignoreAudioUntil =
      (latest EchoFrame.silences history).elim 0 fun stop => clock.add stop (grace clock)
  speaking : p.botSpeaking = true → speechStart history = some p.botSpeakingSince
  silent : p.botSpeaking = false → ∀ start, speechStart history = some start →
    ∃ event ∈ history, start ≤ event.1 ∧ maxBotSpeakingSecs clock < clock.sub event.1 start

theorem safetyValve_ignoreAudioUntil (now : ℚ) (p : EchoSuppressionProcessor) :
    (p.safetyValve clock now).ignoreAudioUntil = p.ignoreAudioUntil := by
  unfold safetyValve
  split <;> rfl

/-- What is still speaking after the valve was speaking before it, since the same time. -/
theorem safetyValve_speaking {now : ℚ} {p : EchoSuppressionProcessor}
    (h : (p.safetyValve clock now).botSpeaking = true) :
    p.safetyValve clock now = p ∧ p.botSpeaking = true := by
  unfold safetyValve at h ⊢
  split at h
  · cases h
  · rename_i hvalve
    exact ⟨if_neg hvalve, h⟩

/-- **The valve after a tracked history**: the robot is taken for speaking unless its speech, if it has not
    ended, is over the limit. -/
theorem safetyValve_silent_iff {history : List (ℚ × EchoFrame)} {p : EchoSuppressionProcessor}
    (htracks : Tracks clock history p) (htimed : Timed history) {now : ℚ}
    (hnow : ∀ event ∈ history, event.1 ≤ now) :
    (p.safetyValve clock now).botSpeaking = false ↔
      ∀ start, speechStart history = some start →
        maxBotSpeakingSecs clock < clock.sub now start := by
  cases hspeaking : p.botSpeaking with
  | true =>
      have hstart := htracks.speaking hspeaking
      obtain ⟨frame, hmem⟩ := mem_of_speechStart hstart
      have hpos : 0 < p.botSpeakingSince := htimed.pos _ hmem
      unfold safetyValve
      split
      · rename_i hvalve
        refine ⟨fun _ start h => ?_, fun _ => rfl⟩
        rw [← Option.some.inj (hstart.symm.trans h)]
        exact hvalve.2.2
      · rename_i hvalve
        refine ⟨fun h => ?_, fun h => absurd ⟨hspeaking, hpos, h _ hstart⟩ hvalve⟩
        rw [hspeaking] at h
        cases h
  | false =>
      have hvalve : p.safetyValve clock now = p := by simp [safetyValve, hspeaking]
      rw [hvalve]
      refine ⟨fun _ start h => ?_, fun _ => hspeaking⟩
      -- it opened before, and the difference has only grown since
      obtain ⟨event, hevent, hle, hlimit⟩ := htracks.silent hspeaking start h
      exact lt_of_lt_of_le hlimit (clock.sub_le_sub hle (hnow event hevent))

/-- One more frame is tracked. -/
theorem Tracks.processFrame {history : List (ℚ × EchoFrame)} {p : EchoSuppressionProcessor}
    (htracks : Tracks clock history p) {now : ℚ} {frame : EchoFrame}
    (htimed : Timed (history ++ [(now, frame)])) :
    Tracks clock (history ++ [(now, frame)]) (p.processFrame clock now frame).1 := by
  obtain ⟨hhistory, hnow, -⟩ := timed_concat.mp htimed
  -- an event of the shorter history is one of the longer
  have hsilent : p.botSpeaking = false → ∀ start, speechStart history = some start →
      ∃ event ∈ history ++ [(now, frame)],
        start ≤ event.1 ∧ maxBotSpeakingSecs clock < clock.sub event.1 start := by
    intro hspeaking start hstart
    obtain ⟨event, hevent, h⟩ := htracks.silent hspeaking start hstart
    exact ⟨event, List.mem_append_left _ hevent, h⟩
  cases frame with
  | interruption | botStoppedSpeaking =>
      refine ⟨?_, (nomatch ·), fun _ start hstart => ?_⟩
      · rw [latest_concat]
        rfl
      · rw [speechStart_concat] at hstart
        cases hstart
  | userStartedSpeaking =>
      refine ⟨?_, (nomatch ·), fun _ start hstart => ?_⟩
      · rw [latest_concat]
        exact htracks.ignoreAudioUntil
      · rw [speechStart_concat] at hstart
        cases hstart
  | botStartedSpeaking =>
      refine ⟨?_, fun _ => ?_, (nomatch ·)⟩
      · rw [latest_concat]
        exact htracks.ignoreAudioUntil
      · rw [speechStart_concat]
        rfl
  | other =>
      refine ⟨?_, fun h => ?_, fun h start hstart => ?_⟩
      · rw [latest_concat]
        exact htracks.ignoreAudioUntil
      · rw [speechStart_concat]
        exact htracks.speaking h
      · rw [speechStart_concat] at hstart
        exact hsilent h start hstart
  | inputAudioRaw =>
      refine ⟨?_, fun h => ?_, fun h start hstart => ?_⟩
      · rw [latest_concat]
        exact (safetyValve_ignoreAudioUntil now p).trans htracks.ignoreAudioUntil
      · obtain ⟨hsame, hspeaking⟩ := safetyValve_speaking h
        rw [speechStart_concat]
        show speechStart history = some (p.safetyValve clock now).botSpeakingSince
        rw [hsame]
        exact htracks.speaking hspeaking
      · rw [speechStart_concat] at hstart
        obtain ⟨frame, hmem⟩ := mem_of_speechStart hstart
        exact ⟨(now, .inputAudioRaw), by simp, hnow _ hmem,
          (safetyValve_silent_iff htracks hhistory hnow).mp h start hstart⟩

theorem tracks_after {history : List (ℚ × EchoFrame)} (htimed : Timed history) :
    Tracks clock history (after clock history) := by
  induction history using List.reverseRecOn with
  | nil => exact ⟨rfl, (nomatch ·), fun _ _ => (nomatch ·)⟩
  | append_singleton history event ih =>
      obtain ⟨now, frame⟩ := event
      rw [after_concat]
      exact (ih (timed_concat.mp htimed).1).processFrame htimed

/-! ## When a frame is pushed -/

/-- The latest frame that ends the speech, if any, was a grace period ago. -/
def GraceOver (clock : Clock) (history : List (ℚ × EchoFrame)) (now : ℚ) : Prop :=
  ∀ stop, latest EchoFrame.silences history = some stop → clock.add stop (grace clock) ≤ now

/-- The robot has not started to speak since its speech last ended, or is over the limit. -/
def NotSpeaking (clock : Clock) (history : List (ℚ × EchoFrame)) (now : ℚ) : Prop :=
  ∀ start, speechStart history = some start → maxBotSpeakingSecs clock < clock.sub now start

theorem ignoreAudioUntil_le_iff {history : List (ℚ × EchoFrame)} {p : EchoSuppressionProcessor}
    (htracks : Tracks clock history p) {now : ℚ} (hnow : 0 < now) :
    p.ignoreAudioUntil ≤ now ↔ GraceOver clock history now := by
  rw [htracks.ignoreAudioUntil]
  unfold GraceOver
  cases latest EchoFrame.silences history with
  | none => exact ⟨fun _ _ => (nomatch ·), fun _ => hnow.le⟩
  | some stop => exact ⟨fun h _ hstop => Option.some.inj hstop ▸ h, fun h => h stop rfl⟩

theorem audio_forwarded_iff {history : List (ℚ × EchoFrame)} {now : ℚ}
    (htimed : Timed (history ++ [(now, .inputAudioRaw)])) :
    forwarded clock history now .inputAudioRaw = true ↔
      GraceOver clock history now ∧ NotSpeaking clock history now := by
  obtain ⟨hhistory, hle, hpos⟩ := timed_concat.mp htimed
  have htracks : Tracks clock history (after clock history) := tracks_after hhistory
  have hgrace := ignoreAudioUntil_le_iff htracks hpos
  have hvalve := safetyValve_silent_iff htracks hhistory hle
  unfold forwarded processFrame
  simp only [Bool.not_eq_true', Bool.or_eq_false_iff, decide_eq_false_iff_not, not_lt,
    safetyValve_ignoreAudioUntil]
  rw [hvalve, hgrace, and_comm]
  rfl

theorem forwarded_iff {history : List (ℚ × EchoFrame)} {now : ℚ} {frame : EchoFrame}
    (htimed : Timed (history ++ [(now, frame)])) :
    forwarded clock history now frame = true ↔
      (frame = .inputAudioRaw → GraceOver clock history now ∧ NotSpeaking clock history now) := by
  cases frame with
  | inputAudioRaw => exact (audio_forwarded_iff htimed).trans ⟨fun h _ => h, fun h => h rfl⟩
  | _ => exact ⟨fun _ => (nomatch ·), fun _ => rfl⟩

/-- Late enough, every time condition of the history is met. -/
theorem exists_open (clock : Clock) {history : List (ℚ × EchoFrame)} (htimed : Timed history) :
    ∃ t₀, ∀ now, t₀ ≤ now → Timed (history ++ [(now, .inputAudioRaw)]) ∧
      GraceOver clock history now ∧ NotSpeaking clock history now := by
  obtain ⟨last, hlast⟩ : ∃ last, ∀ event ∈ history, event.1 ≤ last := by
    rcases history.eq_nil_or_concat with rfl | ⟨earlier, ⟨last, frame⟩, rfl⟩
    · exact ⟨0, fun _ h => (nomatch h)⟩
    · rw [List.concat_eq_append] at htimed ⊢
      have hle : ∀ event ∈ earlier, event.1 ≤ last := (timed_concat.mp htimed).2.1
      exact ⟨last, List.forall_mem_append.mpr ⟨hle, by simp⟩⟩
  have hgrace : ∃ t₀, ∀ now, t₀ ≤ now → GraceOver clock history now := by
    unfold GraceOver
    cases latest EchoFrame.silences history with
    | none => exact ⟨0, fun _ _ _ => (nomatch ·)⟩
    | some stop =>
        exact ⟨clock.add stop (grace clock), fun now h _ hstop => Option.some.inj hstop ▸ h⟩
  have hvalve : ∃ t₀, ∀ now, t₀ ≤ now → NotSpeaking clock history now := by
    unfold NotSpeaking
    cases speechStart history with
    | none => exact ⟨0, fun _ _ _ => (nomatch ·)⟩
    | some start =>
        obtain ⟨t₀, ht₀⟩ := clock.sub_unbounded (maxBotSpeakingSecs clock) start
        exact ⟨t₀, fun now h _ hstart => Option.some.inj hstart ▸ ht₀ now h⟩
  obtain ⟨t₁, ht₁⟩ := hgrace
  obtain ⟨t₂, ht₂⟩ := hvalve
  refine ⟨max (max last 1) (max t₁ t₂), fun now hnow => ?_⟩
  obtain ⟨⟨hnow, hone⟩, hnow₁, hnow₂⟩ : (last ≤ now ∧ 1 ≤ now) ∧ t₁ ≤ now ∧ t₂ ≤ now := by
    simpa only [max_le_iff] using hnow
  refine ⟨timed_concat.mpr ⟨htimed, fun event h => (hlast event h).trans hnow, ?_⟩, ht₁ now hnow₁,
    ht₂ now hnow₂⟩
  exact lt_of_lt_of_le one_pos hone

/-- **Echo suppression is exact.** With times that are positive and do not go back, a frame is pushed iff it
    is no audio, or the grace period is over and the robot is not speaking within the limit. So after every
    history the microphone opens again, and within the limit it stays shut. -/
theorem echo_suppression_exact (clock : Clock) :
    (∀ (history : List (ℚ × EchoFrame)) (now : ℚ) (frame : EchoFrame),
      Timed (history ++ [(now, frame)]) →
      (forwarded clock history now frame = true ↔
        (frame = .inputAudioRaw → GraceOver clock history now ∧ NotSpeaking clock history now))) ∧
    (∀ history : List (ℚ × EchoFrame), Timed history →
      ∃ t₀, ∀ now, t₀ ≤ now → forwarded clock history now .inputAudioRaw = true) ∧
    (∀ (history : List (ℚ × EchoFrame)) (now start : ℚ), Timed (history ++ [(now, .inputAudioRaw)]) →
      speechStart history = some start → clock.sub now start ≤ maxBotSpeakingSecs clock →
      forwarded clock history now .inputAudioRaw = false) := by
  refine ⟨fun history now frame htimed => forwarded_iff htimed, fun history htimed => ?_,
    fun history now start htimed hstart hlimit => ?_⟩
  · obtain ⟨t₀, hopen⟩ := exists_open clock htimed
    refine ⟨t₀, fun now hnow => ?_⟩
    obtain ⟨htimed', hgrace, hspeaking⟩ := hopen now hnow
    exact (audio_forwarded_iff htimed').mpr ⟨hgrace, hspeaking⟩
  · rw [Bool.eq_false_iff]
    intro hforwarded
    have hspeaking := ((audio_forwarded_iff htimed).mp hforwarded).2
    exact absurd (hspeaking start hstart) (not_lt.mpr hlimit)

/-- A speech that never ends: half a minute later the microphone is open, by exact seconds and by doubles. -/
theorem frozen_speech_ends :
    Timed [(1, .botStartedSpeaking), (32, .inputAudioRaw)] ∧
      forwarded .exact [(1, .botStartedSpeaking)] 32 .inputAudioRaw = true ∧
      forwarded .double [(1, .botStartedSpeaking)] 32 .inputAudioRaw = true := by
  have htimed : Timed ([(1, .botStartedSpeaking)] ++ [(32, .inputAudioRaw)]) :=
    timed_concat.mpr ⟨⟨by simp, by simp⟩, by norm_num, by norm_num⟩
  refine ⟨htimed, ((echo_suppression_exact .exact).1 _ _ _ htimed).mpr fun _ => ⟨?_, ?_⟩,
    ((echo_suppression_exact .double).1 _ _ _ htimed).mpr fun _ => ⟨?_, ?_⟩⟩
  · intro stop hstop
    cases hstop
  · intro start hstart
    cases hstart
    show (30 : ℚ) < 32 - 1
    norm_num
  · intro stop hstop
    cases hstop
  · intro start hstart
    cases hstart
    show Float64.round 30 < Float64.sub 32 1
    decide +kernel

end EchoSuppressionProcessor

end Kufibot
