import Kufibot.Robot.JointRange

/-!
# `Robot.JointMapCommand` — a map of joints

`control_motion` handles a map of joints in seven blocks. Each compares the angle that is asked for with the
one recorded before any block ran, and skips a joint that stands there; `setAllJointsAngle` is the plain
loop. `Moves` says what blocks for some joints do; the joint map they leave is that of the loop
(`joint_map_command`).
-/

namespace Kufibot

open ServoMotorController

/-- The angle that is asked for, or else the one that is recorded. -/
def requestedOr (requested recorded : JointMap) : JointMap := fun j => (requested j).or (recorded j)

namespace ServoMotorController

/-- **Moving a joint to a byte** records it there, and no other joint elsewhere. -/
theorem currentJointAngles_setJointAngle {c : ServoMotorController} (h : c.Obeys) (joint : ServoMotorJoint)
    (angle : UInt8) (j : ServoMotorJoint) :
    (c.setJointAngle joint angle.toNat).currentJointAngles j =
      if j = joint then some angle else c.currentJointAngles j := by
  rw [setJointAngle_eq h]
  show (if j = joint then _ else _) = _
  by_cases hj : j = joint
  · rw [if_pos hj, if_pos hj, toUInt8_toNat]
  · rw [if_neg hj, if_neg hj, foldl_commandAngle_recorded hj]

end ServoMotorController

/-! ## The blocks -/

/-- **What the blocks for `joints` do** on the way from `c` to `d`. -/
structure Moves (requested recorded : JointMap) (joints : List ServoMotorJoint)
    (c d : ServoMotorController) : Prop where
  obeys : d.Obeys
  angles : ∀ j, d.currentJointAngles j =
    if j ∈ joints then requestedOr requested recorded j else c.currentJointAngles j
  /-- A joint gets a pulse only if it has to move. -/
  pulses : ∃ sent, d.driver.dutyCycles = sent ++ c.driver.dutyCycles ∧
    ∀ x ∈ sent, ∃ j angle, requested j = some angle ∧ recorded j ≠ some angle ∧ x.channel = j.channel

/-- Joints that are to stay where they are. -/
theorem Moves.stay {requested recorded : JointMap} {joints : List ServoMotorJoint}
    {c : ServoMotorController} (h : c.Obeys)
    (hstay : ∀ j ∈ joints, requestedOr requested recorded j = c.currentJointAngles j) :
    Moves requested recorded joints c c where
  obeys := h
  angles j := by
    by_cases hj : j ∈ joints
    · rw [if_pos hj, hstay j hj]
    · rw [if_neg hj]
  pulses := by
    refine ⟨[], rfl, ?_⟩
    intro x hx
    exact absurd hx List.not_mem_nil

theorem Moves.trans {requested recorded : JointMap} {joints joints' : List ServoMotorJoint}
    {c d e : ServoMotorController} (h : Moves requested recorded joints c d)
    (h' : Moves requested recorded joints' d e) : Moves requested recorded (joints ++ joints') c e where
  obeys := h'.obeys
  angles j := by
    rw [h'.angles, h.angles]
    by_cases hj : j ∈ joints <;> by_cases hj' : j ∈ joints' <;> simp [hj, hj']
  pulses := by
    obtain ⟨sent, hsent, hmoves⟩ := h.pulses
    obtain ⟨sent', hsent', hmoves'⟩ := h'.pulses
    refine ⟨sent' ++ sent, by rw [hsent', hsent, List.append_assoc], ?_⟩
    exact List.forall_mem_append.mpr ⟨hmoves', hmoves⟩

/-- A joint that has to move. -/
theorem Moves.setJointAngle {requested recorded : JointMap} {joint : ServoMotorJoint} {angle : UInt8}
    {c : ServoMotorController} (h : c.Obeys) (hrequested : requested joint = some angle)
    (hmoves : recorded joint ≠ some angle) :
    Moves requested recorded [joint] c (c.setJointAngle joint angle.toNat) where
  obeys := obeys_setJointAngle h _ _
  angles j := by
    rw [currentJointAngles_setJointAngle h]
    by_cases hj : j = joint
    · rw [if_pos hj, if_pos (List.mem_singleton.mpr hj), hj, requestedOr, hrequested]
      rfl
    · rw [if_neg hj, if_neg (mt List.mem_singleton.mp hj)]
  pulses := by
    refine ⟨_, setJointAngle_dutyCycles h _ _, ?_⟩
    intro x hx
    obtain ⟨a, _, rfl⟩ := List.mem_map.mp (List.mem_reverse.mp hx)
    exact ⟨joint, angle, hrequested, hmoves, rfl⟩

/-- **One block.** -/
theorem moves_moveJoint {requested recorded : JointMap} {joint : ServoMotorJoint}
    {c : ServoMotorController} (h : c.Obeys) (hcurrent : c.currentJointAngles joint = recorded joint)
    (hrecorded : (recorded joint).isSome) :
    ∃ d, moveJoint requested recorded c joint = some d ∧ Moves requested recorded [joint] c d := by
  obtain ⟨current, hcur⟩ := Option.isSome_iff_exists.mp hrecorded
  unfold moveJoint
  cases hreq : requested joint with
  | none =>
      refine ⟨c, rfl, .stay h (List.forall_mem_singleton.mpr ?_)⟩
      rw [requestedOr, hreq, hcurrent]
      rfl
  | some angle =>
      simp only [hcur, Option.map_some]
      by_cases heq : angle = current
      · refine ⟨c, by rw [if_neg (not_not.mpr heq)], .stay h (List.forall_mem_singleton.mpr ?_)⟩
        rw [requestedOr, hreq, hcurrent, hcur, heq]
        rfl
      · refine ⟨c.setJointAngle joint angle.toNat, by rw [if_pos heq], .setJointAngle h hreq ?_⟩
        rw [hcur]
        exact fun hsome => heq (Option.some.inj hsome).symm

/-- **Blocks for several joints**: no block before has moved the joint of the next. -/
theorem moves_foldlM {requested recorded : JointMap} {joints : List ServoMotorJoint}
    {c : ServoMotorController} (hnodup : joints.Nodup) (h : c.Obeys)
    (hcurrent : ∀ j ∈ joints, c.currentJointAngles j = recorded j) (hrecorded : ∀ j, (recorded j).isSome) :
    ∃ d, joints.foldlM (moveJoint requested recorded) c = some d ∧
      Moves requested recorded joints c d := by
  induction joints generalizing c with
  | nil =>
      refine ⟨c, rfl, .stay h ?_⟩
      intro j hj
      exact absurd hj List.not_mem_nil
  | cons joint joints ih =>
      obtain ⟨hnew, hnodup⟩ := List.nodup_cons.mp hnodup
      obtain ⟨d, hd, hmoves⟩ : ∃ d, moveJoint requested recorded c joint = some d ∧
          Moves requested recorded [joint] c d :=
        moves_moveJoint h (hcurrent joint List.mem_cons_self) (hrecorded joint)
      -- the joints are different, so the next ones still stand where they were recorded
      have hcurrent' : ∀ j ∈ joints, d.currentJointAngles j = recorded j := by
        intro j hj
        have hne : j ∉ [joint] := fun hmem => hnew (List.mem_singleton.mp hmem ▸ hj)
        rw [hmoves.angles, if_neg hne]
        exact hcurrent j (List.mem_cons_of_mem _ hj)
      obtain ⟨e, he, hmoves'⟩ := ih hnodup hmoves.obeys hcurrent'
      refine ⟨e, ?_, hmoves.trans hmoves'⟩
      rw [List.foldlM_cons, hd]
      exact he

/-! ## The plain loop -/

theorem currentJointAngles_foldl {angles : JointMap} {joints : List ServoMotorJoint}
    {c : ServoMotorController} (h : c.Obeys) (j : ServoMotorJoint) :
    (joints.foldl
      (fun c joint =>
        match angles joint with
        | some angle => c.setJointAngle joint angle.toNat
        | none => c) c).currentJointAngles j =
      if j ∈ joints then (angles j).or (c.currentJointAngles j) else c.currentJointAngles j := by
  induction joints generalizing c with
  | nil => exact (if_neg List.not_mem_nil).symm
  | cons joint joints ih =>
      rw [List.foldl_cons]
      cases hangle : angles joint with
      | none =>
          rw [ih h]
          by_cases hj : j = joint
          · subst hj
            simp [hangle]
          · simp [hj]
      | some angle =>
          simp only
          rw [ih (obeys_setJointAngle h _ _), currentJointAngles_setJointAngle h]
          by_cases hj : j = joint
          · subst hj
            simp [hangle]
          · simp [hj]

theorem mem_mapOrder (joint : ServoMotorJoint) : joint ∈ mapOrder := by
  cases joint <;> decide

/-- **The joint map that `setAllJointsAngle` leaves.** -/
theorem currentJointAngles_setAllJointsAngle {c : ServoMotorController} (h : c.Obeys) (angles : JointMap) :
    (c.setAllJointsAngle angles).currentJointAngles = requestedOr angles c.currentJointAngles := by
  funext j
  exact (currentJointAngles_foldl h j).trans (if_pos (mem_mapOrder j))

/-! ## The command -/

theorem moves_moveJoints {c : ServoMotorController} (h : c.Obeys)
    (hrecorded : ∀ j, (c.currentJointAngles j).isSome) (requested : JointMap) :
    ∃ d, moveJoints requested c = some d ∧ Moves requested c.currentJointAngles jointOrder c d :=
  moves_foldlM (by decide) h (fun _ _ => rfl) hrecorded

/-- **A map of joints.** With the servo controller enabled and ready and every joint recorded, a command whose
    payload is a map of joints ends with each joint of the map at its angle and every other joint where it
    was; a joint that is not in the map or stands at its angle already gets no pulse; and the joint map is the
    one that `setAllJointsAngle` leaves. -/
theorem joint_map_command {c : Controllers} (h : c.servo.Obeys)
    (hrecorded : ∀ j, (c.servo.currentJointAngles j).isSome) (trig : Trig) (positions : JointPositionList)
    (source : Option SourceService) (requested : JointMap) :
    ∃ servo, controlMotion trig positions { source, jointAngles := some requested } c =
        some { c with servo := servo } ∧
      (∀ j angle, requested j = some angle → servo.currentJointAngles j = some angle) ∧
      (∀ j, requested j = none → servo.currentJointAngles j = c.servo.currentJointAngles j) ∧
      (∃ sent, servo.driver.dutyCycles = sent ++ c.servo.driver.dutyCycles ∧
        ∀ j, requested j = none ∨ requested j = c.servo.currentJointAngles j →
          ∀ x ∈ sent, x.channel ≠ j.channel) ∧
      servo.currentJointAngles = (c.servo.setAllJointsAngle requested).currentJointAngles := by
  obtain ⟨servo, hservo, hmoves⟩ := moves_moveJoints h hrecorded requested
  have hangles : servo.currentJointAngles = requestedOr requested c.servo.currentJointAngles := by
    funext j
    rw [hmoves.angles, if_pos (mem_jointOrder j)]
  refine ⟨servo, ?_, ?_, ?_, ?_, ?_⟩
  · show (moveJoints requested c.servo).map _ = _
    rw [hservo]
    rfl
  · intro j angle hangle
    rw [hangles, requestedOr, hangle]
    rfl
  · intro j hnone
    rw [hangles, requestedOr, hnone]
    rfl
  · obtain ⟨sent, hsent, hsends⟩ := hmoves.pulses
    refine ⟨sent, hsent, ?_⟩
    intro j hstays x hx heq
    obtain ⟨j', angle, hreq, hne, hchannel⟩ := hsends x hx
    obtain rfl : j' = j := channel_injective (hchannel.symm.trans heq)
    rcases hstays with hnone | hthere
    · rw [hnone] at hreq
      cases hreq
    · exact hne (hthere.symm.trans hreq)
  · rw [hangles, currentJointAngles_setAllJointsAngle h]

/-- Controllers of a robot that has started. -/
def started : Controllers where
  compass := {}
  distance := {}
  power := {}
  servo := .constructed true (fun _ => none) { registers := fun _ => 0, dutyCycles := [] }
  dcMotor := .constructed true { registers := fun _ => 0, dutyCycles := [] }

/-- Both eyes at 20 degrees, where the left one stands. -/
def bothEyes : JointMap := fun joint => if joint = .eyeLeft ∨ joint = .eyeRight then some 20 else none

theorem joint_map_command_eyes : ∃ servo,
    controlMotion .right (fun _ _ => 90) { jointAngles := some bothEyes } started =
      some { started with servo := servo } ∧
    servo.currentJointAngles .eyeRight = some 20 ∧ servo.currentJointAngles .neck = some 30 ∧
    ∃ sent, servo.driver.dutyCycles = sent ++ [] ∧ ∀ x ∈ sent, x.channel ≠ 6 := by
  have hrecorded : ∀ j, (started.servo.currentJointAngles j).isSome := by
    intro j
    cases j <;> rfl
  obtain ⟨servo, hcommand, hmoved, hstays, ⟨sent, hsent, hpulses⟩, _⟩ :=
    joint_map_command (c := started) ⟨rfl, rfl⟩ hrecorded .right
      (fun _ _ => 90) none bothEyes
  refine ⟨servo, hcommand, hmoved _ _ rfl, hstays _ rfl, sent, hsent, ?_⟩
  exact hpulses .eyeLeft (.inr rfl)

end Kufibot
