import Kufibot.Services.LandmarkTracker
import Mathlib.Data.List.Induction

/-!
# `Services.LastKnownTarget` — the remembered target is a window on the calls

`selectTheTarget` starts a countdown at 5 with every detection and counts in every call, the one that starts
it included. So what it returns is the newest detection of the last four calls (`last_known_target`): the
countdown 4 - i belongs to a detection that i calls have missed since (`Remembers`).
-/

namespace Kufibot

/-- The centre of the face if there is one, or else of the hand. -/
def RecognizedGestureData.detectedCenter (data : RecognizedGestureData) : Option Point2D :=
  if data.hasFace then some data.getFaceCenter
  else if data.handBbox.valid then some data.getHandCenter
  else none

/-- The centre of what a call finds. -/
def TrackingData.detectedCenter (data : TrackingData) : Option Point2D :=
  data.recognizedGestureData.detectedCenter

/-- **The newest detection** of the last four calls; the calls are given with the newest one first. -/
def newestDetection (calls : List TrackingData) : Option Point2D :=
  (calls.take 4).findSome? TrackingData.detectedCenter

/-- A detection at position `missed.length`, and none in the calls after it. -/
def DetectedBefore (calls : List TrackingData) (age : Nat) (center : Point2D) : Prop :=
  ∃ missed data earlier, calls = missed ++ data :: earlier ∧ missed.length = age ∧
    (∀ m ∈ missed, m.detectedCenter = none) ∧ data.detectedCenter = some center

theorem detectedBefore_zero {data : TrackingData} {center : Point2D} (h : data.detectedCenter = some center)
    (calls : List TrackingData) : DetectedBefore (data :: calls) 0 center :=
  ⟨[], data, calls, rfl, rfl, fun _ hm => absurd hm List.not_mem_nil, h⟩

/-- Another call misses. -/
theorem DetectedBefore.miss {calls : List TrackingData} {age : Nat} {center : Point2D}
    (h : DetectedBefore calls age center) {data : TrackingData} (hdata : data.detectedCenter = none) :
    DetectedBefore (data :: calls) (age + 1) center := by
  obtain ⟨missed, found, earlier, rfl, hlength, hmissed, hfound⟩ := h
  refine ⟨data :: missed, found, earlier, rfl, by rw [List.length_cons, hlength], ?_, hfound⟩
  intro m hm
  rcases List.mem_cons.mp hm with rfl | hm
  · exact hdata
  · exact hmissed m hm

theorem DetectedBefore.mem {calls : List TrackingData} {age : Nat} {center : Point2D}
    (h : DetectedBefore calls age center) : ∃ data ∈ calls, data.detectedCenter = some center := by
  obtain ⟨missed, found, earlier, rfl, _, _, hfound⟩ := h
  exact ⟨found, List.mem_append_right _ List.mem_cons_self, hfound⟩

/-- A detection within the window is the one that is found. -/
theorem newestDetection_of_lt {calls : List TrackingData} {age : Nat} {center : Point2D}
    (h : DetectedBefore calls age center) (hage : age < 4) : newestDetection calls = some center := by
  obtain ⟨missed, found, earlier, rfl, rfl, hmissed, hfound⟩ := h
  have htake : (missed ++ found :: earlier).take 4 =
      missed ++ found :: earlier.take (3 - missed.length) := by
    rw [List.take_append, List.take_of_length_le (Nat.le_of_lt hage)]
    have hrest : 4 - missed.length = 3 - missed.length + 1 := by omega
    rw [hrest, List.take_succ_cons]
  have hnone : missed.findSome? TrackingData.detectedCenter = none :=
    List.findSome?_eq_none_iff.mpr hmissed
  rw [newestDetection, htake, List.findSome?_append, hnone, List.findSome?_cons, hfound]
  rfl

/-- A detection behind the window is not found. -/
theorem newestDetection_of_ge {calls : List TrackingData} {age : Nat} {center : Point2D}
    (h : DetectedBefore calls age center) (hage : 4 ≤ age) : newestDetection calls = none := by
  obtain ⟨missed, found, earlier, rfl, rfl, hmissed, _⟩ := h
  rw [newestDetection, List.take_append_of_le_length hage]
  apply List.findSome?_eq_none_iff.mpr
  intro m hm
  exact hmissed m (List.mem_of_mem_take hm)

/-- Without a detection in the window, a call that misses does not find any. -/
theorem newestDetection_cons_none {calls : List TrackingData} {data : TrackingData}
    (h : newestDetection calls = none) (hdata : data.detectedCenter = none) :
    newestDetection (data :: calls) = none := by
  apply List.findSome?_eq_none_iff.mpr
  intro m hm
  rcases List.mem_cons.mp hm with rfl | hm
  · exact hdata
  · exact List.findSome?_eq_none_iff.mp h m (List.take_subset_take_left calls (Nat.le_succ 3) hm)

namespace LastKnownTarget

/-- **What is remembered** after these calls. -/
def Remembers (calls : List TrackingData) (l : LastKnownTarget) : Prop :=
  match l.target with
  | some center => ∃ age : Nat, age < 4 ∧ l.followTimeOut = 4 - (age : Int) ∧ DetectedBefore calls age center
  | none => newestDetection calls = none

/-- The target before `getValue`. -/
def seen (data : TrackingData) (l : LastKnownTarget) : LastKnownTarget :=
  match data.detectedCenter with
  | some center => l.setValue center
  | none => l

theorem remembers_getValue {calls : List TrackingData} {l : LastKnownTarget} (h : Remembers calls l)
    (data : TrackingData) :
    (l.seen data).getValue.1 = (newestDetection (data :: calls)).getD { x := 0, y := 0 } ∧
      Remembers (data :: calls) (l.seen data).getValue.2 := by
  unfold seen
  cases hdata : data.detectedCenter with
  | some center =>
      -- the countdown starts, and has counted this call
      have hnew : DetectedBefore (data :: calls) 0 center := detectedBefore_zero hdata calls
      rw [newestDetection_of_lt hnew (by omega)]
      exact ⟨rfl, 0, by omega, rfl, hnew⟩
  | none =>
      simp only
      unfold Remembers at h
      unfold getValue
      cases htarget : l.target with
      | none =>
          rw [htarget] at h
          have hnone := newestDetection_cons_none h hdata
          refine ⟨by rw [hnone]; rfl, ?_⟩
          unfold Remembers
          rw [htarget]
          exact hnone
      | some center =>
          rw [htarget] at h
          obtain ⟨age, hage, hcount, hdetected⟩ := h
          have hmissed := hdetected.miss hdata
          simp only
          split_ifs with hout
          · -- the countdown has run out: the detection is five calls old
            have hnone := newestDetection_of_ge hmissed (by omega)
            exact ⟨by rw [hnone]; rfl, hnone⟩
          · rw [newestDetection_of_lt hmissed (by omega)]
            exact ⟨rfl, age + 1, by omega, by push_cast; omega, hmissed⟩

end LastKnownTarget

namespace LandmarkTrackerService

open LastKnownTarget

/-- `selectTheTarget` in terms of what the call detects. -/
theorem selectTheTarget_eq (data : TrackingData) (s : LandmarkTrackerService) :
    s.selectTheTarget data = ((s.lastKnownTarget.seen data).getValue.1,
      { s with lastKnownTarget := (s.lastKnownTarget.seen data).getValue.2 }) := by
  unfold selectTheTarget seen TrackingData.detectedCenter RecognizedGestureData.detectedCenter
  simp only
  split_ifs <;> rfl

/-- The service after calls of `selectTheTarget`. -/
def afterCalls (calls : List TrackingData) (s : LandmarkTrackerService) : LandmarkTrackerService :=
  calls.foldl (fun s data => (s.selectTheTarget data).2) s

/-- The call reads the countdown: there is a target when it comes to `getValue`. -/
def ReadsCountdown (data : TrackingData) (s : LandmarkTrackerService) : Prop :=
  (s.lastKnownTarget.seen data).target.isSome

theorem remembers_afterCalls {s : LandmarkTrackerService} (h : s.lastKnownTarget.target = none)
    (calls : List TrackingData) :
    Remembers calls.reverse (s.afterCalls calls).lastKnownTarget := by
  induction calls using List.reverseRecOn with
  | nil =>
      show Remembers [] s.lastKnownTarget
      unfold Remembers
      rw [h]
      rfl
  | append_singleton calls data ih =>
      rw [afterCalls, List.foldl_append, List.reverse_append]
      show Remembers (data :: calls.reverse) ((s.afterCalls calls).selectTheTarget data).2.lastKnownTarget
      rw [selectTheTarget_eq]
      exact (remembers_getValue ih data).2

/-- **The last known target.** After any calls, from a service without a target on, the next call returns the
    newest detection of itself and the three calls before it. The countdown is not read before a detection has
    set it. -/
theorem last_known_target {s : LandmarkTrackerService} (h : s.lastKnownTarget.target = none)
    (calls : List TrackingData) (data : TrackingData) :
    ((s.afterCalls calls).selectTheTarget data).1 =
        (newestDetection (data :: calls.reverse)).getD { x := 0, y := 0 } ∧
      ((s.afterCalls calls).ReadsCountdown data → ∃ d ∈ calls ++ [data], d.detectedCenter.isSome) := by
  have hremembers := remembers_afterCalls h calls
  constructor
  · rw [selectTheTarget_eq]
    exact (remembers_getValue hremembers data).1
  · intro hreads
    unfold ReadsCountdown seen at hreads
    cases hdata : data.detectedCenter with
    | some center => exact ⟨data, List.mem_append_right _ List.mem_cons_self, by rw [hdata]; rfl⟩
    | none =>
        rw [hdata] at hreads
        obtain ⟨center, hcenter⟩ := Option.isSome_iff_exists.mp hreads
        unfold Remembers at hremembers
        rw [hcenter] at hremembers
        obtain ⟨_, _, _, hdetected⟩ := hremembers
        obtain ⟨d, hd, hdetected⟩ := hdetected.mem
        exact ⟨d, List.mem_append_left _ (List.mem_reverse.mp hd), by rw [hdetected]; rfl⟩

/-- What a tick collects when it sees this. -/
def tracked (data : RecognizedGestureData) : TrackingData := ⟨data, fun _ => none⟩

/-- The face is remembered for three calls that miss it. -/
theorem last_known_target_faceAtEdge : newService.lastKnownTarget.target = none ∧
    ((newService.afterCalls [tracked faceAtEdge, tracked {}, tracked {}]).selectTheTarget (tracked {})).1 =
      { x := 600, y := 240 } ∧
    ∃ d ∈ [tracked faceAtEdge, tracked {}, tracked {}] ++ [tracked {}], d.detectedCenter.isSome := by
  have h := last_known_target (s := newService) rfl [tracked faceAtEdge, tracked {}, tracked {}] (tracked {})
  exact ⟨rfl, h.1, h.2 rfl⟩

end LandmarkTrackerService

end Kufibot
