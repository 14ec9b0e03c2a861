import Kufibot.Services.Recognition

/-!
# `Services.HeadTarget` — where the head turns, as a function of the frames

Each tick of the tracker finds the newest frame there is, be it new or not, and remembers a target for a
while. Both are told from the order of the frames and the ticks alone: `target` is the newest centre in the
frames that the last four ticks have found, and a tick moves the head towards it if it is far
(`head_target_iff`). So the head follows nothing but what has been seen (`head_follows_what_was_seen`).
-/

namespace Kufibot

open Lib LandmarkTrackerService LastKnownTarget HandGestureRecognizingOperator

/-! ## The target -/

/-- What a tick collects when it finds this frame, or no frame yet. -/
def collected (frame : Option FrameAnswers) : TrackingData := tracked (frame.elim {} FrameAnswers.message)

namespace HeadFollower

/-- The newest frame, and the frames that the ticks have found, with the newest tick first. -/
structure Sightings where
  newest : Option FrameAnswers := none
  found : List (Option FrameAnswers) := []

def Sightings.note (s : Sightings) : Action → Sightings
  | .frame answers => { s with newest := some answers }
  | .sensorData _ => s
  | .tick _ => { s with found := s.newest :: s.found }

def sightings (actions : List Action) : Sightings := actions.foldl Sightings.note {}

/-- **The target of the next tick**: the newest centre in the frames of four ticks, itself included. -/
def target (actions : List Action) : Point2D :=
  ((((sightings actions).newest :: (sightings actions).found).take 4).findSome?
    fun frame => (collected frame).detectedCenter).getD { x := 0, y := 0 }

/-! ## The target is what is selected -/

/-- The message is that of the newest frame, and the target that of the frames which were found. -/
structure Follows (sightings : Sightings) (s : HeadFollower) : Prop where
  initialized : s.recognizers.hand.initialized = true
  message : s.tracker.recognizedGestureData.detectedCenter = (collected sightings.newest).detectedCenter
  remembers : Remembers (sightings.found.map collected) s.tracker.lastKnownTarget

theorem detectedCenter_congr {data data' : RecognizedGestureData}
    (hface : data.faceLandmarks = data'.faceLandmarks) (hbox : data.handBbox = data'.handBbox) :
    data.detectedCenter = data'.detectedCenter := by
  unfold RecognizedGestureData.detectedCenter RecognizedGestureData.hasFace
    RecognizedGestureData.getFaceCenter RecognizedGestureData.getHandCenter
  rw [hface, hbox]

/-- A tick selects the newest detection, and remembers it. -/
theorem Follows.selected {sightings : Sightings} {s : HeadFollower} (h : Follows sightings s) :
    s.tracker.selected.1 =
        (newestDetection ((sightings.newest :: sightings.found).map collected)).getD { x := 0, y := 0 } ∧
      Remembers ((sightings.newest :: sightings.found).map collected) s.tracker.selected.2 := by
  have hseen : s.tracker.lastKnownTarget.seen (tracked s.tracker.recognizedGestureData) =
      s.tracker.lastKnownTarget.seen (collected sightings.newest) := by
    have hcenter : (tracked s.tracker.recognizedGestureData).detectedCenter =
        (collected sightings.newest).detectedCenter := h.message
    unfold LastKnownTarget.seen
    rw [hcenter]
  rw [selected_eq, hseen, List.map_cons]
  exact remembers_getValue h.remembers (collected sightings.newest)

theorem follows_step {env : TrackerEnv} {sightings : Sightings} {s t : HeadFollower} {action : Action}
    (h : Follows sightings s) (hstep : s.step env action = some t) : Follows (sightings.note action) t := by
  cases action with
  | frame answers =>
      obtain ⟨published, hpublished, ht⟩ := Option.bind_eq_some_iff.mp hstep
      cases ht
      obtain ⟨hface, hbox, hinitialized⟩ := processFrame_spec h.initialized hpublished
      exact ⟨hinitialized, detectedCenter_congr hface hbox, h.remembers⟩
  | sensorData data =>
      cases hstep
      cases data <;> exact ⟨h.initialized, h.message, h.remembers⟩
  | tick draw =>
      cases hstep
      obtain ⟨hdata, hremembered, _, _⟩ := tick_spec env draw s.tracker
      refine ⟨h.initialized, (congrArg _ hdata).trans h.message, ?_⟩
      show Remembers _ (s.tracker.tick env draw).2.lastKnownTarget
      rw [hremembered]
      exact h.selected.2

theorem follows_run {env : TrackerEnv} {s t : HeadFollower} {tr : List (HeadFollower × Action)}
    (hs : (system env).init s) (h : (system env).Run s tr t) : Follows (sightings (tr.map Prod.snd)) t := by
  induction h with
  | nil =>
      obtain ⟨_, ⟨followTimeOut, idleJointPositions, rfl⟩, rfl⟩ := hs
      exact ⟨rfl, rfl, rfl⟩
  | snoc _ hstep ih =>
      rw [List.map_append, sightings, List.foldl_append]
      exact follows_step ih hstep

theorem selected_eq_target {env : TrackerEnv} {s t : HeadFollower} {tr : List (HeadFollower × Action)}
    (hs : (system env).init s) (h : (system env).Run s tr t) :
    t.tracker.selected.1 = target (tr.map Prod.snd) := by
  have hselected := (follows_run hs h).selected.1
  rwa [newestDetection, ← List.map_take, List.findSome?_map] at hselected

/-- **Where the head turns.** In every run of the camera and the tracker, a tick publishes a head command iff
    the target is far from the centre of the picture, and the command goes towards it. Far is by the integer
    part of the distance: at 50.9 pixels the head stays. -/
theorem head_target_iff {env : TrackerEnv} {s t : HeadFollower} {tr : List (HeadFollower × Action)}
    (hs : (system env).init s) (h : (system env).Run s tr t) (draw : Nat) (data : ControlData) :
    (t.tracker.tick env draw).1 = some (.controlData data) ↔
      errorTreshold < (calculateErrorVector env (target (tr.map Prod.snd))).magnitude ∧
        data = headTowards env (target (tr.map Prod.snd)) := by
  rw [tick_controlData_iff, selected_eq_target hs h]

/-- A hand at the right edge of the picture, and no face. -/
def handAtEdge : FrameAnswers where
  face := []
  measures := ⟨0, 0, 0, 0, 0⟩
  hands := some [List.replicate 21 (600, 240)]

/-- A frame with nothing to see. -/
def emptyFrame : FrameAnswers where
  face := []
  measures := ⟨0, 0, 0, 0, 0⟩
  hands := none

def newFollower : HeadFollower := started newService

theorem newFollower_init : (system rightEnv).init newFollower := ⟨_, newService_init, rfl⟩

/-- The hand is followed for three ticks without it. -/
theorem head_target_iff_lost : ∃ tr t, (system rightEnv).Run newFollower tr t ∧
    tr.map Prod.snd = [.frame handAtEdge, .tick 0, .frame emptyFrame, .tick 0, .tick 0] ∧
    (t.tracker.tick rightEnv 0).1 = some (.controlData (headTowards rightEnv { x := 600, y := 240 })) := by
  have hexec : ((system rightEnv).exec newFollower
      [.frame handAtEdge, .tick 0, .frame emptyFrame, .tick 0, .tick 0]).isSome := by
    decide +kernel
  obtain ⟨t, ht⟩ := Option.isSome_iff_exists.mp hexec
  obtain ⟨tr, hrun, hactions⟩ := System.Run.of_exec ht
  refine ⟨tr, t, hrun, hactions, (head_target_iff newFollower_init hrun 0 _).mpr ?_⟩
  have htarget : target (tr.map Prod.snd) = { x := 600, y := 240 } := by
    rw [hactions]
    decide +kernel
  rw [htarget]
  exact ⟨by decide +kernel, rfl⟩

/-! ## What the head follows -/

/-- The frames that ticks find are frames of the run. -/
theorem mem_of_sightings {answers : FrameAnswers} (actions : List Action)
    (h : some answers ∈ (sightings actions).newest :: (sightings actions).found) : .frame answers ∈ actions := by
  induction actions using List.reverseRecOn with
  | nil =>
      rcases List.mem_cons.mp h with hnewest | hfound
      · cases hnewest
      · exact absurd hfound List.not_mem_nil
  | append_singleton actions action ih =>
      rw [sightings, List.foldl_append] at h
      rw [List.mem_append, List.mem_singleton]
      cases action with
      | frame seen =>
          rcases List.mem_cons.mp h with hnewest | hfound
          · cases hnewest
            exact .inr rfl
          · exact .inl (ih (List.mem_cons_of_mem _ hfound))
      | sensorData _ => exact .inl (ih h)
      | tick _ =>
          rcases List.mem_cons.mp h with hnewest | hfound
          · exact .inl (ih (hnewest ▸ List.mem_cons_self))
          · exact .inl (ih hfound)

/-- A target that is not the origin is in a frame. -/
theorem exists_shows_target {actions : List Action} (h : target actions ≠ { x := 0, y := 0 }) :
    ∃ answers, .frame answers ∈ actions ∧ answers.Shows (target actions) := by
  unfold target at h ⊢
  cases hfind : (((sightings actions).newest :: (sightings actions).found).take 4).findSome?
      fun frame => (collected frame).detectedCenter with
  | none =>
      rw [hfind] at h
      exact absurd rfl h
  | some center =>
      rw [hfind] at h
      obtain ⟨frame, hframe, hcenter⟩ := List.exists_of_findSome?_eq_some hfind
      cases frame with
      | none => cases hcenter
      | some answers =>
          have hmem := mem_of_sightings actions (List.mem_of_mem_take hframe)
          exact ⟨answers, hmem, (shows_of_detectedCenter hcenter).resolve_left h⟩

/-- **The head follows what has been seen.** In every run of the camera and the tracker, a head command goes
    towards a point on the face or the hand of a frame of that run. -/
theorem head_follows_what_was_seen {env : TrackerEnv} {s t : HeadFollower} {tr : List (HeadFollower × Action)}
    (hs : (system env).init s) (h : (system env).Run s tr t) {draw : Nat} {data : ControlData}
    (hdata : (t.tracker.tick env draw).1 = some (.controlData data)) :
    ∃ x ∈ tr, ∃ answers point, x.2 = .frame answers ∧ answers.Shows point ∧ data = headTowards env point := by
  obtain ⟨hfar, hcommand⟩ := tick_controlData_iff.mp hdata
  rw [selected_eq_target hs h] at hfar hcommand
  -- the origin is never far
  have hne : target (tr.map Prod.snd) ≠ { x := 0, y := 0 } := by
    intro horigin
    rw [horigin] at hfar
    exact not_far_origin env hfar
  obtain ⟨answers, hmem, hshows⟩ := exists_shows_target hne
  obtain ⟨x, hx, hframe⟩ := List.mem_map.mp hmem
  exact ⟨x, hx, answers, _, hframe, hshows, hcommand⟩

def sawHand : HeadFollower := (newFollower.step rightEnv (.frame handAtEdge)).getD newFollower

/-- The hand is followed. -/
theorem head_follows_what_was_seen_hand :
    ∃ data, (sawHand.tracker.tick rightEnv 0).1 = some (.controlData data) ∧
      ∃ point, handAtEdge.Shows point ∧ data = headTowards rightEnv point := by
  have hstrength : headStrength (sawHand.tracker.tick rightEnv 0).1 = some 3 := by decide +kernel
  obtain ⟨data, hdata⟩ := exists_of_headStrength hstrength
  have hrun : (system rightEnv).Run newFollower [(newFollower, .frame handAtEdge)] sawHand := .single rfl
  obtain ⟨x, hx, answers, point, hframe, hshows, hcommand⟩ :=
    head_follows_what_was_seen newFollower_init hrun hdata
  cases List.mem_singleton.mp hx
  cases hframe
  exact ⟨data, hdata, point, hshows, hcommand⟩

end HeadFollower

end Kufibot
