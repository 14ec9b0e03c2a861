import Kufibot.Services.LandmarkTracker

/-!
# `Services.Reactions` — how often the tracker reacts to a face

A target in the middle of the picture is not followed: the tick counts it, and every so often it engages a
reaction instead. The count starts at 430, goes up to `reactionTresholdCount` and begins again at 1. So it is
a function of the ticks of this kind that there have been (`timeout_run`), and which of them react follows
from their numbers alone: the 71st, and every 500th behind it (`reaction_iff`).
-/

namespace Kufibot

open Lib

namespace LandmarkTrackerService

/-! ## Ticks with the target in the middle -/

/-- Close to the centre, but neither in it nor the origin, which stands for no target: both have the zero
    vector. The magnitude is the integer part of the distance, so everything below 51 pixels is close. -/
def InTheMiddle (errorVector : PolarVector) : Prop :=
  errorVector.magnitude ≤ errorTreshold ∧ ¬ (errorVector.angle = 0 ∧ errorVector.magnitude = 0)

instance : DecidablePred InTheMiddle := fun errorVector =>
  inferInstanceAs (Decidable (errorVector.magnitude ≤ errorTreshold ∧
    ¬ (errorVector.angle = 0 ∧ errorVector.magnitude = 0)))

/-- The error vector that the next tick calculates. -/
def nextError (env : TrackerEnv) (s : LandmarkTrackerService) : PolarVector :=
  calculateErrorVector env s.selected.1

/-- A tick with the target in the middle. -/
def countsTick (env : TrackerEnv) (x : LandmarkTrackerService × Action) : Bool :=
  match x.2 with
  | .tick _ => InTheMiddle (x.1.nextError env)
  | _ => false

/-- The reaction belongs to the emotion, or none does. -/
def Suits (env : TrackerEnv) (emotion reaction : String) : Prop :=
  (∃ r ∈ env.faceReactions, r.emotion = emotion ∧ r.reaction = reaction) ∨
    reaction = "" ∧ ∀ r ∈ env.faceReactions, r.emotion ≠ emotion

/-! ## One tick -/

theorem getTrackingState_spec (errorVector : PolarVector) (s : LandmarkTrackerService) :
    ((s.getTrackingState errorVector).1 = .engagingReaction ↔
        InTheMiddle errorVector ∧ reactionTresholdCount ≤ s.reactionEngageTimeout) ∧
      (s.getTrackingState errorVector).2.reactionEngageTimeout =
        if InTheMiddle errorVector then
          if reactionTresholdCount ≤ s.reactionEngageTimeout then 1 else s.reactionEngageTimeout + 1
        else s.reactionEngageTimeout := by
  unfold getTrackingState
  by_cases hfar : errorVector.magnitude > errorTreshold
  · have hnot : ¬ InTheMiddle errorVector := fun h => absurd h.1 (not_le.mpr hfar)
    rw [if_pos hfar, if_neg hnot]
    exact ⟨iff_of_false (fun h => TrackState.noConfusion h) fun h => hnot h.1, rfl⟩
  · rw [if_neg hfar]
    by_cases horigin : errorVector.angle = 0 ∧ errorVector.magnitude = 0
    · have hnot : ¬ InTheMiddle errorVector := fun h => h.2 horigin
      rw [if_pos horigin, if_neg hnot]
      exact ⟨iff_of_false (fun h => TrackState.noConfusion h) fun h => hnot h.1, rfl⟩
    · have hmiddle : InTheMiddle errorVector := ⟨not_lt.mp hfar, horigin⟩
      rw [if_neg horigin, if_pos hmiddle]
      by_cases hcount : s.reactionEngageTimeout ≥ reactionTresholdCount
      · rw [if_pos hcount, if_pos hcount]
        exact ⟨iff_of_true rfl ⟨hmiddle, hcount⟩, rfl⟩
      · rw [if_neg hcount, if_neg hcount]
        exact ⟨iff_of_false (fun h => TrackState.noConfusion h) fun h => hcount h.2, rfl⟩

theorem act_engageReaction_iff {env : TrackerEnv} {draw : Nat} {trackingData : TrackingData}
    {errorVector : PolarVector} {trackState : TrackState} {s : LandmarkTrackerService} {reaction : String} :
    (s.act env draw trackingData errorVector trackState).1 = some (.engageReaction reaction) ↔
      trackState = .engagingReaction ∧
        reactionMessage env draw trackingData.recognizedGestureData = some reaction := by
  cases trackState <;> simp [act]

theorem reactionEngageTimeout_act (env : TrackerEnv) (draw : Nat) (trackingData : TrackingData)
    (errorVector : PolarVector) (trackState : TrackState) (s : LandmarkTrackerService) :
    (s.act env draw trackingData errorVector trackState).2.reactionEngageTimeout =
      s.reactionEngageTimeout := by
  cases trackState <;> rfl

/-- **The count of a tick**, and the reaction that it publishes. -/
theorem tick_reaction (env : TrackerEnv) (draw : Nat) (s : LandmarkTrackerService) :
    (∀ reaction, (s.tick env draw).1 = some (.engageReaction reaction) ↔
        (InTheMiddle (s.nextError env) ∧ reactionTresholdCount ≤ s.reactionEngageTimeout) ∧
          reactionMessage env draw s.recognizedGestureData = some reaction) ∧
      (s.tick env draw).2.reactionEngageTimeout =
        if InTheMiddle (s.nextError env) then
          if reactionTresholdCount ≤ s.reactionEngageTimeout then 1 else s.reactionEngageTimeout + 1
        else s.reactionEngageTimeout := by
  obtain ⟨hengages, hcount⟩ := getTrackingState_spec (s.nextError env)
    (s.collectTrackingData.2.selectTheTarget s.collectTrackingData.1).2
  constructor
  · intro reaction
    exact act_engageReaction_iff.trans (and_congr_left fun _ => hengages)
  · exact (reactionEngageTimeout_act ..).trans hcount

theorem reactionMessage_isSome_iff (env : TrackerEnv) (draw : Nat) (data : RecognizedGestureData) :
    (∃ reaction, reactionMessage env draw data = some reaction) ↔ data.faceEmotion ≠ "No Face" := by
  unfold reactionMessage
  split_ifs with hface
  · exact iff_of_false (fun h => h.elim fun _ => id) (not_not.mpr hface)
  · exact iff_of_true ⟨_, rfl⟩ hface

theorem suits_of_reactionMessage {env : TrackerEnv} {draw : Nat} {data : RecognizedGestureData}
    {reaction : String} (h : reactionMessage env draw data = some reaction) :
    Suits env data.faceEmotion reaction := by
  unfold reactionMessage at h
  split_ifs at h
  cases h
  generalize hmatching : env.faceReactions.filter _ = matching
  have hmem : ∀ r ∈ matching, r ∈ env.faceReactions ∧ r.emotion = data.faceEmotion := by
    intro r hr
    rw [← hmatching, List.mem_filter] at hr
    exact ⟨hr.1, of_decide_eq_true hr.2⟩
  by_cases hnone : matching = []
  · have hall := List.filter_eq_nil_iff.mp (hmatching.trans hnone)
    rw [hnone]
    exact .inr ⟨rfl, fun r hr hemotion => hall r hr (decide_eq_true hemotion)⟩
  · -- the index is within the list
    have hlt : draw % matching.length < matching.length :=
      Nat.mod_lt _ (List.length_pos_iff.mpr hnone)
    rw [List.getElem?_eq_getElem hlt]
    obtain ⟨hr, hemotion⟩ := hmem _ (List.getElem_mem hlt)
    exact .inl ⟨_, hr, hemotion, rfl⟩

/-! ## The ticks of a run -/

/-- **The count** is a function of the ticks that have counted. -/
theorem timeout_run {env : TrackerEnv} {s t : LandmarkTrackerService}
    {tr : List (LandmarkTrackerService × Action)} (hs : (system env).init s) (h : (system env).Run s tr t) :
    t.reactionEngageTimeout = ((tr.countP (countsTick env) + 429) % 500 : Nat) + 1 := by
  induction h with
  | nil =>
      obtain ⟨_, _, rfl⟩ := hs
      rfl
  | @snoc tr t u action _ hstep ih =>
      rw [List.countP_append, List.countP_singleton]
      cases action with
      | recognizedGesture data => cases hstep; cases data <;> exact ih
      | sensorData data => cases hstep; cases data <;> exact ih
      | tick draw =>
          cases hstep
          rw [(tick_reaction env draw t).2, ih]
          by_cases hmiddle : InTheMiddle (t.nextError env)
          · rw [if_pos hmiddle, countsTick, if_pos (decide_eq_true hmiddle)]
            unfold reactionTresholdCount
            split_ifs <;> omega
          · rw [if_neg hmiddle, countsTick, if_neg (Bool.eq_false_iff.mp (decide_eq_false hmiddle))]

/-- **When the tracker reacts.** In every run, a tick publishes a reaction iff the target is in the middle of
    the picture, the emotion is not `No Face`, and the tick is the 71st of those with the target in the middle,
    or comes a multiple of 500 of them later. The reaction then belongs to the emotion, or none does. -/
theorem reaction_iff {env : TrackerEnv} {s t : LandmarkTrackerService}
    {tr : List (LandmarkTrackerService × Action)} (hs : (system env).init s) (h : (system env).Run s tr t)
    (draw : Nat) :
    ((∃ reaction, (t.tick env draw).1 = some (.engageReaction reaction)) ↔
        InTheMiddle (t.nextError env) ∧ tr.countP (countsTick env) % 500 = 70 ∧
          t.recognizedGestureData.faceEmotion ≠ "No Face") ∧
      ∀ reaction, (t.tick env draw).1 = some (.engageReaction reaction) →
        Suits env t.recognizedGestureData.faceEmotion reaction := by
  have hpublished := (tick_reaction env draw t).1
  have hcount : reactionTresholdCount ≤ t.reactionEngageTimeout ↔ tr.countP (countsTick env) % 500 = 70 := by
    rw [timeout_run hs h]
    unfold reactionTresholdCount
    omega
  constructor
  · rw [exists_congr hpublished, exists_and_left, hcount, reactionMessage_isSome_iff, and_assoc]
  · intro reaction h
    exact suits_of_reactionMessage ((hpublished reaction).mp h).2

/-- A face in the middle of the picture. -/
def faceInTheMiddle : RecognizedGestureData where
  faceLandmarks := [⟨33, 330, 240⟩, ⟨133, 330, 240⟩, ⟨362, 330, 240⟩, ⟨263, 330, 240⟩]

/-- The text of a published reaction. -/
def reactionText : Option TrackerMessage → Option String
  | some (.engageReaction reaction) => some reaction
  | _ => none

theorem eq_of_reactionText {message : Option TrackerMessage} {reaction : String}
    (h : reactionText message = some reaction) : message = some (.engageReaction reaction) := by
  match message with
  | some (.engageReaction _) => cases h; rfl
  | some (.controlData _) => cases h
  | none => cases h

/-- The face stays in the middle: the 71st tick reacts. -/
theorem reaction_iff_first : ∃ tr t, (system rightEnv).Run newService tr t ∧
    (∃ reaction, (t.tick rightEnv 0).1 = some (.engageReaction reaction)) ∧
    tr.countP (countsTick rightEnv) % 500 = 70 := by
  have hexec : ((system rightEnv).exec newService
      (.recognizedGesture (some faceInTheMiddle) :: List.replicate 70 (.tick 0))).map
      (fun t => reactionText (t.tick rightEnv 0).1) = some (some "") := by
    decide +kernel
  obtain ⟨t, ht, htext⟩ := Option.map_eq_some_iff.mp hexec
  obtain ⟨tr, hrun, _⟩ := System.Run.of_exec ht
  have hreaction : ∃ reaction, (t.tick rightEnv 0).1 = some (.engageReaction reaction) :=
    ⟨_, eq_of_reactionText htext⟩
  exact ⟨tr, t, hrun, hreaction, ((reaction_iff newService_init hrun 0).1.mp hreaction).2.1⟩

end LandmarkTrackerService

end Kufibot
