import Kufibot.Lib.Counts
import Kufibot.Lib.Float64
import Mathlib.Data.List.DropRight
import Mathlib.Data.String.Basic

/-!
# `Operators.FaceGesture` — calibration and smoothing of the emotions

`detectEmotion` takes the first thirty frames with a face as the measure of the neutral face, and labels each
later frame by how it differs from their average. The label that it returns is the most frequent one of the
last ten. A counter, a vector of samples, a flag and the history of labels have to stay in step over faceless
frames and resets: `InStep` says how they depend on the frames with a face since the last reset, and
`emotion_calibration_and_smoothing` what every call returns.

The measures of a frame are given, as numbers; their sums and quotients are exact.
-/

namespace Kufibot

open Lib

/-! ## The operator -/

/-- The measures of a frame with landmarks, as `detectEmotion` computes them. -/
structure CalibrationData where
  ear : ℚ
  mar : ℚ
  eyebrow : ℚ
  smile : ℚ
  eyebrowDist : ℚ

structure BaselineValues extends CalibrationData where
  initialized : Bool

/-- The members of `FaceGestureRecognizingOperator` that the emotions depend on. -/
structure FaceGestureRecognizingOperator where
  previousEmotion : String
  emotionHistory : List String
  calibrationData : List CalibrationData
  calibrationFrames : Nat
  baseline : BaselineValues

/-- `history_size`, which nothing changes. -/
def historySize : Nat := 10

/-- What a calibrating call returns. -/
def calibratingText (frames : Nat) : String := "Calibrating... (" ++ toString frames ++ "/30)"

/-- `baseline.x += data.x` for every sample, then `baseline.x /= calibration_data.size()`; `none` is a
    division by zero. -/
def average (samples : List CalibrationData) (measure : CalibrationData → ℚ) : Option ℚ :=
  if samples.length = 0 then none
  else some (samples.foldl (fun total data => total + measure data) 0 / samples.length)

namespace BaselineValues

/-- The rules for the emotions. -/
def emotion (baseline : BaselineValues) (data : CalibrationData) : String :=
  let earNorm := if baseline.ear > 0 then data.ear / baseline.ear else 1
  let marNorm := if baseline.mar > 0 then data.mar / baseline.mar else 1
  let smileNorm := data.smile - baseline.smile
  let eyebrowDistNorm := if baseline.eyebrowDist > 0 then data.eyebrowDist / baseline.eyebrowDist else 1
  if smileNorm > 6 then "mutlu"
  else if marNorm > 120 then "korkmuş"
  else if marNorm > 20 then "şaşkın"
  else if smileNorm < -3 then "üzgün"
  else if earNorm < Float64.round (4 / 5) then "uykulu"
  else if eyebrowDistNorm < Float64.round (17 / 20) ∧ earNorm < Float64.round (9 / 10) then "sinirli"
  else "normal"

end BaselineValues

/-- The search of the counters: the first label of the greatest count. `std::string` is ordered by bytes,
    which is the order by characters. -/
def mostCommon (counts : List (String × Nat)) : String :=
  (counts.foldl (fun (best : Nat × String) pair => if pair.2 > best.1 then (pair.2, pair.1) else best)
    (0, "")).2

namespace FaceGestureRecognizingOperator

/-- The constructor. -/
def fresh : FaceGestureRecognizingOperator where
  previousEmotion := "Neutral"
  emotionHistory := []
  calibrationData := []
  calibrationFrames := 0
  baseline := ⟨⟨0, 0, 0, 0, 0⟩, false⟩

def resetCalibration (s : FaceGestureRecognizingOperator) : FaceGestureRecognizingOperator :=
  { s with
    baseline := { s.baseline with initialized := false }
    calibrationFrames := 0
    calibrationData := []
    emotionHistory := [] }

/-- What `detectEmotion` does when thirty samples are there. -/
def completeCalibration (s : FaceGestureRecognizingOperator) : Option FaceGestureRecognizingOperator := do
  let ear ← average s.calibrationData CalibrationData.ear
  let mar ← average s.calibrationData CalibrationData.mar
  let eyebrow ← average s.calibrationData CalibrationData.eyebrow
  let smile ← average s.calibrationData CalibrationData.smile
  let eyebrowDist ← average s.calibrationData CalibrationData.eyebrowDist
  return { s with
    baseline := ⟨⟨ear, mar, eyebrow, smile, eyebrowDist⟩, true⟩
    calibrationFrames := s.calibrationFrames + 1 }

/-- A label more, and the oldest one less if there are too many. -/
def remember (emotion : String) (history : List String) : List String :=
  let history := history ++ [emotion]
  if history.length > historySize then history.tail else history

/-- The rules and the smoothing. -/
def classify (data : CalibrationData) (s : FaceGestureRecognizingOperator) :
    String × FaceGestureRecognizingOperator :=
  let emotion := s.baseline.emotion data
  let history := remember emotion s.emotionHistory
  let emotion := if history.length ≥ 3 then mostCommon (Counts.ofList history).entries else emotion
  (emotion, { s with emotionHistory := history, previousEmotion := emotion })

/-- `detectEmotion`, with the measures of the frame if it has landmarks. -/
def detectEmotion (frame : Option CalibrationData) (s : FaceGestureRecognizingOperator) :
    Option (String × FaceGestureRecognizingOperator) :=
  match frame with
  | none => some ("No Face", s)
  | some data =>
      if s.baseline.initialized then some (s.classify data)
      else if s.calibrationFrames < 30 then
        some (calibratingText (s.calibrationFrames + 1),
          { s with
            calibrationData := s.calibrationData ++ [data]
            calibrationFrames := s.calibrationFrames + 1 })
      else if s.calibrationFrames = 30 then s.completeCalibration.map (classify data)
      else some (s.classify data)

end FaceGestureRecognizingOperator

/-! ## Runs -/

/-- A call of the operator. -/
inductive EmotionCall where
  | detectEmotion (frame : Option CalibrationData)
  | resetCalibration

namespace FaceGestureRecognizingOperator

/-- The operator behind a call. -/
def call (s : FaceGestureRecognizingOperator) : EmotionCall → Option FaceGestureRecognizingOperator
  | .detectEmotion frame => (s.detectEmotion frame).map Prod.snd
  | .resetCalibration => some s.resetCalibration

/-- The operator behind the calls. -/
def after (calls : List EmotionCall) : Option FaceGestureRecognizingOperator := calls.foldlM call fresh

end FaceGestureRecognizingOperator

/-- The frames with landmarks, since the start or the last reset. -/
def sinceReset (calls : List EmotionCall) : List CalibrationData :=
  calls.foldl (fun (frames : List CalibrationData) (c : EmotionCall) =>
    match c with
    | .detectEmotion none => frames
    | .detectEmotion (some data) => frames ++ [data]
    | .resetCalibration => []) []

/-- The baseline is the average of these thirty frames. -/
structure BaselineValues.IsAverage (baseline : BaselineValues) (samples : List CalibrationData) : Prop where
  length : samples.length = 30
  ear : baseline.ear = (samples.map CalibrationData.ear).sum / 30
  mar : baseline.mar = (samples.map CalibrationData.mar).sum / 30
  eyebrow : baseline.eyebrow = (samples.map CalibrationData.eyebrow).sum / 30
  smile : baseline.smile = (samples.map CalibrationData.smile).sum / 30
  eyebrowDist : baseline.eyebrowDist = (samples.map CalibrationData.eyebrowDist).sum / 30

/-- The result for the labels up to the present one: the label itself for the first two, and else the least of
    the most frequent of the last ten. -/
def Smoothed (labels : List String) (label result : String) : Prop :=
  if labels.length < 3 then result = label else LeastMostFrequent (labels.rtake historySize) result

/-- **What a call of `detectEmotion` does**, after these frames with landmarks. -/
def Detects (earlier : List CalibrationData) (s : FaceGestureRecognizingOperator)
    (frame : Option CalibrationData) (result : String) (t : FaceGestureRecognizingOperator) : Prop :=
  match frame with
  | none => result = "No Face" ∧ t = s
  | some data =>
      if earlier.length < 30 then result = calibratingText (earlier.length + 1)
      else t.baseline.IsAverage (earlier.take 30) ∧
        Smoothed (((earlier ++ [data]).drop 30).map t.baseline.emotion) (t.baseline.emotion data) result ∧
        ∀ n, result ≠ calibratingText n

/-! ## The parts -/

/-- The search keeps the first entry of the greatest count. -/
theorem scan_eq_firstBest (counts : List (String × Nat)) :
    counts.foldl (fun (best : Nat × String) pair => if pair.2 > best.1 then (pair.2, pair.1) else best)
        (0, "") =
      (firstBest 0 Prod.snd counts).elim (0, "") Prod.swap := by
  induction counts using List.reverseRecOn with
  | nil => rfl
  | append_singleton counts pair ih =>
      rw [List.foldl_concat, ih, firstBest_concat]
      cases hfirst : firstBest 0 Prod.snd counts with
      | none =>
          have hiff : (0 < pair.2 ∧ ∀ b ∈ (none : Option (String × Nat)), b.2 < pair.2) ↔ 0 < pair.2 :=
            and_iff_left fun _ h => (nomatch h)
          simp only [hiff]
          by_cases hpos : 0 < pair.2
          · rw [if_pos hpos]
            exact if_pos hpos
          · rw [if_neg hpos]
            exact if_neg hpos
      | some best =>
          have hbest := (firstBest_spec hfirst).2.1
          have hiff : (0 < pair.2 ∧ ∀ b ∈ some best, b.2 < pair.2) ↔ best.2 < pair.2 :=
            ⟨fun h => h.2 best rfl, fun hlt => ⟨hbest.trans hlt, fun b hb => Option.some.inj hb ▸ hlt⟩⟩
          simp only [hiff]
          by_cases hlt : best.2 < pair.2
          · rw [if_pos hlt]
            exact if_pos hlt
          · rw [if_neg hlt]
            exact if_neg hlt

/-- The code's search is that for the most frequent label. -/
theorem mostCommon_eq (history : List String) :
    mostCommon (Counts.ofList history).entries = (mostFrequent history).getD "" := by
  unfold mostCommon mostFrequent
  rw [scan_eq_firstBest]
  cases firstBest 0 Prod.snd (Counts.ofList history).entries <;> rfl

theorem mostCommon_spec {history : List String} (h : history ≠ []) :
    LeastMostFrequent history (mostCommon (Counts.ofList history).entries) := by
  obtain ⟨label, hmost, hlabel⟩ := mostFrequent_spec h
  rw [mostCommon_eq, hmost]
  exact hlabel

/-- **The history holds the last labels.** -/
theorem remember_rtake (labels : List String) (emotion : String) :
    FaceGestureRecognizingOperator.remember emotion (labels.rtake historySize) =
      (labels ++ [emotion]).rtake historySize := by
  unfold FaceGestureRecognizingOperator.remember historySize
  rw [List.rtake_concat_succ]
  have hlength : (labels.rtake 10 ++ [emotion]).length = min labels.length 10 + 1 := by
    rw [List.rtake, List.length_append, List.length_drop, List.length_singleton]
    omega
  simp only [hlength]
  split
  · rename_i hfull
    have htail : (labels.rtake 10).tail = labels.rtake 9 := by
      rw [List.rtake, List.rtake, List.tail_drop]
      congr 1
      omega
    have hne : labels.rtake 10 ≠ [] := by
      refine List.ne_nil_of_length_pos ?_
      rw [List.rtake, List.length_drop]
      omega
    rw [List.tail_append_of_ne_nil hne, htail]
  · rename_i hfree
    have hsmall : ∀ n, 9 ≤ n → labels.rtake n = labels := by
      intro n hn
      rw [List.rtake, Nat.sub_eq_zero_of_le (by omega), List.drop_zero]
    rw [hsmall 10 (by omega), hsmall 9 le_rfl]

theorem average_eq_some {samples : List CalibrationData} (h : samples.length = 30)
    (measure : CalibrationData → ℚ) :
    average samples measure = some ((samples.map measure).sum / 30) := by
  unfold average
  rw [if_neg (by omega), h, List.sum_eq_foldl, List.foldl_map]
  rfl

/-- No label is a calibration text. -/
theorem emotion_ne_calibratingText (baseline : BaselineValues) (data : CalibrationData) (n : Nat) :
    baseline.emotion data ≠ calibratingText n := by
  have hhead : (calibratingText n).toList.head? = some 'C' := by
    unfold calibratingText
    rw [String.toList_append, String.toList_append]
    rfl
  have hne : ∀ label : String, label.toList.head? ≠ some 'C' → label ≠ calibratingText n := by
    rintro label h rfl
    exact h hhead
  have hite : ∀ {c : Prop} [Decidable c] {label others : String}, label.toList.head? ≠ some 'C' →
      others ≠ calibratingText n → (if c then label else others) ≠ calibratingText n := by
    intro c _ label others hlabel hothers
    split
    · exact hne label hlabel
    · exact hothers
  unfold BaselineValues.emotion
  dsimp only
  refine hite (by decide) (hite (by decide) (hite (by decide) ?_))
  exact hite (by decide) (hite (by decide) (hite (by decide) (hne _ (by decide))))

theorem Smoothed.ne_calibratingText {baseline : BaselineValues} {frames : List CalibrationData}
    {data : CalibrationData} {result : String}
    (h : Smoothed (frames.map baseline.emotion) (baseline.emotion data) result) (n : Nat) :
    result ≠ calibratingText n := by
  unfold Smoothed at h
  split at h
  · rw [h]
    exact emotion_ne_calibratingText baseline data n
  · have hmem := h.mem
    rw [List.rtake] at hmem
    obtain ⟨frame, -, rfl⟩ := List.mem_map.mp (List.mem_of_mem_drop hmem)
    exact emotion_ne_calibratingText baseline frame n

namespace FaceGestureRecognizingOperator

variable {s t : FaceGestureRecognizingOperator} {frames : List CalibrationData}

/-- **Thirty samples** are averaged; nothing is divided by zero. -/
theorem completeCalibration_eq_some (h : s.calibrationData.length = 30) :
    ∃ t, s.completeCalibration = some t ∧ t.baseline.IsAverage s.calibrationData ∧
      t.baseline.initialized = true ∧ t.emotionHistory = s.emotionHistory := by
  unfold completeCalibration
  simp only [average_eq_some h]
  exact ⟨_, rfl, ⟨h, rfl, rfl, rfl, rfl, rfl⟩, rfl, rfl⟩

/-- **The smoothing**, if the history holds the last labels. -/
theorem smoothed_classify {labels : List String} (h : s.emotionHistory = labels.rtake historySize)
    (data : CalibrationData) :
    (s.classify data).2.emotionHistory = (labels ++ [s.baseline.emotion data]).rtake historySize ∧
      Smoothed (labels ++ [s.baseline.emotion data]) (s.baseline.emotion data) (s.classify data).1 := by
  have hhistory : remember (s.baseline.emotion data) s.emotionHistory =
      (labels ++ [s.baseline.emotion data]).rtake historySize := by
    rw [h, remember_rtake]
  refine ⟨hhistory, ?_⟩
  have hlength : ((labels ++ [s.baseline.emotion data]).rtake historySize).length =
      min (labels ++ [s.baseline.emotion data]).length 10 := by
    rw [List.rtake, List.length_drop, historySize]
    omega
  show Smoothed _ _ (if _ then _ else _)
  rw [hhistory]
  unfold Smoothed
  by_cases hfew : (labels ++ [s.baseline.emotion data]).length < 3
  · rw [if_pos hfew, if_neg (by omega)]
  · rw [if_neg hfew, if_pos (by omega)]
    exact mostCommon_spec (List.ne_nil_of_length_pos (by omega))

/-! ## The invariant -/

/-- **In step**: while it calibrates, the operator has kept all frames since the reset; afterwards the average
    of the first thirty, and the last labels. -/
inductive InStep (frames : List CalibrationData) (s : FaceGestureRecognizingOperator) : Prop where
  | calibrating (hlength : frames.length ≤ 30) (hbaseline : s.baseline.initialized = false)
      (hframes : s.calibrationFrames = frames.length) (hdata : s.calibrationData = frames)
      (hhistory : s.emotionHistory = [])
  | calibrated (hlength : 30 < frames.length) (hbaseline : s.baseline.initialized = true)
      (haverage : s.baseline.IsAverage (frames.take 30))
      (hhistory : s.emotionHistory = ((frames.drop 30).map s.baseline.emotion).rtake historySize)

theorem inStep_fresh : InStep [] fresh := .calibrating (Nat.zero_le _) rfl rfl rfl rfl

theorem inStep_reset (s : FaceGestureRecognizingOperator) : InStep [] s.resetCalibration :=
  .calibrating (Nat.zero_le _) rfl rfl rfl rfl

/-- The classification of a frame behind thirty others. -/
theorem inStep_classify (hlength : 30 ≤ frames.length) (hbaseline : s.baseline.initialized = true)
    (haverage : s.baseline.IsAverage (frames.take 30))
    (hhistory : s.emotionHistory = ((frames.drop 30).map s.baseline.emotion).rtake historySize)
    (data : CalibrationData) :
    Detects frames s (some data) (s.classify data).1 (s.classify data).2 ∧
      InStep (frames ++ [data]) (s.classify data).2 := by
  obtain ⟨hnext, hsmoothed⟩ := smoothed_classify hhistory data
  have hlabels : (frames.drop 30).map s.baseline.emotion ++ [s.baseline.emotion data] =
      ((frames ++ [data]).drop 30).map s.baseline.emotion := by
    rw [List.drop_append_of_le_length hlength, List.map_append, List.map_singleton]
  rw [hlabels] at hnext hsmoothed
  constructor
  · show if _ then _ else _
    rw [if_neg (not_lt.mpr hlength)]
    exact ⟨haverage, hsmoothed, hsmoothed.ne_calibratingText⟩
  · refine .calibrated ?_ hbaseline ?_ hnext
    · rw [List.length_append, List.length_singleton]
      omega
    · rw [List.take_append_of_le_length hlength]
      exact haverage

/-- **A call of `detectEmotion`** succeeds, does what it should and stays in step. -/
theorem detectEmotion_spec (h : InStep frames s) (frame : Option CalibrationData) :
    ∃ result t, s.detectEmotion frame = some (result, t) ∧ Detects frames s frame result t ∧
      InStep (frames ++ frame.toList) t := by
  cases frame with
  | none => exact ⟨_, s, rfl, ⟨rfl, rfl⟩, by rwa [Option.toList_none, List.append_nil]⟩
  | some data =>
      unfold detectEmotion
      dsimp only
      rcases h with ⟨hlength, hbaseline, hframes, hdata, hhistory⟩ | ⟨hlength, hbaseline, haverage, hhistory⟩
      · rw [hbaseline, if_neg Bool.false_ne_true, hframes]
        by_cases hfew : frames.length < 30
        · -- one sample more
          refine ⟨_, _, if_pos hfew, ?_, .calibrating ?_ hbaseline ?_ ?_ hhistory⟩
          · show if _ then _ else _
            rw [if_pos hfew]
          · rw [Option.toList_some, List.length_append, List.length_singleton]
            omega
          · rw [Option.toList_some, List.length_append, List.length_singleton]
          · rw [hdata]
            rfl
        · have hfull : frames.length = 30 := by omega
          obtain ⟨t, hcomplete, haverage, hinitialized, hkept⟩ :=
            completeCalibration_eq_some (s := s) (hdata ▸ hfull)
          rw [if_neg hfew, if_pos hfull, hcomplete, Option.map_some]
          rw [hdata, ← List.take_of_length_le (Nat.le_of_eq hfull)] at haverage
          have hnone : (frames.drop 30).map t.baseline.emotion = [] := by
            rw [List.drop_of_length_le (Nat.le_of_eq hfull), List.map_nil]
          have hlabels : t.emotionHistory = ((frames.drop 30).map t.baseline.emotion).rtake historySize := by
            rw [hkept, hhistory, hnone, List.rtake_nil]
          obtain ⟨hdetects, hstep⟩ := inStep_classify hfull.ge hinitialized haverage hlabels data
          exact ⟨_, _, rfl, hdetects, hstep⟩
      · rw [if_pos hbaseline]
        obtain ⟨hdetects, hstep⟩ := inStep_classify hlength.le hbaseline haverage hhistory data
        exact ⟨_, _, rfl, hdetects, hstep⟩

/-! ## Runs -/

/-- **Every run stays in step.** -/
theorem inStep_after (calls : List EmotionCall) :
    ∃ s, after calls = some s ∧ InStep (sinceReset calls) s := by
  induction calls using List.reverseRecOn with
  | nil => exact ⟨fresh, rfl, inStep_fresh⟩
  | append_singleton calls next ih =>
      obtain ⟨s, hs, hstep⟩ := ih
      unfold after sinceReset at *
      rw [List.foldlM_append, List.foldl_concat, hs]
      cases next with
      | resetCalibration => exact ⟨_, rfl, inStep_reset s⟩
      | detectEmotion frame =>
          obtain ⟨result, t, hdetect, -, hnext⟩ := detectEmotion_spec hstep frame
          refine ⟨t, ?_, ?_⟩
          · show Option.bind (Option.map _ _) _ = _
            rw [hdetect]
            rfl
          · cases frame with
            | none => rwa [Option.toList_none, List.append_nil] at hnext
            | some data => exact hnext

/-- **Emotion calibration and smoothing.** Behind any calls of a fresh operator, a call without landmarks
    changes nothing; with landmarks, the first thirty since the start or the last reset are samples, the
    baseline is their average, and the later results are smoothed labels. -/
theorem emotion_calibration_and_smoothing (calls : List EmotionCall) (frame : Option CalibrationData) :
    ∃ s result t, after calls = some s ∧ s.detectEmotion frame = some (result, t) ∧
      Detects (sinceReset calls) s frame result t := by
  obtain ⟨s, hs, hstep⟩ := inStep_after calls
  obtain ⟨result, t, hdetect, hdetects, -⟩ := detectEmotion_spec hstep frame
  exact ⟨s, result, t, hs, hdetect, hdetects⟩

end FaceGestureRecognizingOperator

end Kufibot
