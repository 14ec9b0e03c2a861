import Kufibot.Messages.Json
import Kufibot.Robot.Arbitration
import Kufibot.Robot.MotionInt

/-!
# `Robot.ActuatorRange` — what reaches the actuators

The servos should be told angles from 0 to 180 degrees only, and the channels of the wheels off-counts
from 0 to 4095. Of what a command asks for, the code checks that a body joystick is not too strong, and it
stops the head sideways at 0 and at 180 degrees; the rest goes through as it came in. The sums of a joystick
may overflow an `int` besides.

`Fits` is the condition on a command and on the recorded angles under which nothing else is needed: the
command then computes values of `int` only, and keeps the range. `inRange_onInt_iff` shows it exact for one
command, and `actuator_range` carries it over runs.
-/

namespace Kufibot

open Lib

/-! ## The wheels -/

namespace PCA9685Driver

/-- All off-counts asked for fit in a channel. -/
def OffsInRange (d : PCA9685Driver) : Prop := ∀ x ∈ d.dutyCycles, 0 ≤ x.off ∧ x.off ≤ 4095

theorem offsInRange_setDutyCycle_iff (channel : Nat) (on off : Int) (d : PCA9685Driver) :
    (d.setDutyCycle channel on off).OffsInRange ↔ (0 ≤ off ∧ off ≤ 4095) ∧ d.OffsInRange :=
  List.forall_mem_cons

@[simp] theorem offsInRange_setChannelLevel_iff (channel : Nat) (level : Int) (d : PCA9685Driver) :
    (d.setChannelLevel channel level).OffsInRange ↔ d.OffsInRange := by
  unfold setChannelLevel
  split <;> rw [offsInRange_setDutyCycle_iff] <;> simp

/-- Below 100 percent only the sign matters. -/
theorem offsInRange_setDutyCyclePercent_iff (channel : Nat) {duty : Int} (hduty : duty < 100)
    (d : PCA9685Driver) :
    (d.setDutyCyclePercent channel duty).OffsInRange ↔ 0 ≤ duty ∧ d.OffsInRange := by
  rw [setDutyCyclePercent, offsInRange_setDutyCycle_iff]
  refine and_congr_left' ?_
  rcases Int.lt_or_le duty 0 with hneg | hpos
  · have heq : (duty * 4096).tdiv 100 = -((-duty * 4096) / 100) := by
      rw [← Int.tdiv_eq_ediv_of_nonneg (by omega), Int.neg_mul, Int.neg_tdiv, Int.neg_neg]
    omega
  · rw [Int.tdiv_eq_ediv_of_nonneg (by omega)]
    omega

end PCA9685Driver

namespace DCMotorController

@[simp] theorem offsInRange_setDirection_iff (pin1 pin2 : Nat) (direction : DCMotorDirection)
    (c : DCMotorController) :
    (setDirection pin1 pin2 direction c).driver.OffsInRange ↔ c.driver.OffsInRange := by
  cases direction <;> simp [setDirection]

theorem offsInRange_run_iff {c : DCMotorController} (h : c.Obeys) (motor : DCMotor)
    (direction : DCMotorDirection) {speed : Int} (hspeed : speed < 100) :
    (run motor direction speed c).driver.OffsInRange ↔ 0 ≤ speed ∧ c.driver.OffsInRange := by
  unfold run
  rw [if_neg (not_dropped h)]
  cases motor <;> simp [PCA9685Driver.offsInRange_setDutyCyclePercent_iff _ hspeed]

theorem offsInRange_drive_iff {c : DCMotorController} (h : c.Obeys) (right left : DCMotorDirection)
    {magnitude : Int} (hmagnitude : magnitude < 100) :
    (drive right left magnitude c).driver.OffsInRange ↔ 0 ≤ magnitude ∧ c.driver.OffsInRange := by
  have hright : (run .right right magnitude c).Obeys := by rwa [Obeys, run_flags]
  rw [drive, if_neg (not_dropped h), offsInRange_run_iff hright _ _ hmagnitude,
    offsInRange_run_iff h _ _ hmagnitude, and_self_left]

theorem offsInRange_stop {c : DCMotorController} (h : c.driver.OffsInRange) :
    (stop c).driver.OffsInRange := by
  unfold stop
  split
  · exact h
  · simpa [PCA9685Driver.offsInRange_setDutyCyclePercent_iff _ (show (0 : Int) < 100 by decide)] using h

end DCMotorController

/-- A body joystick that is not idle drives, whatever its angle is. -/
theorem controlBody_eq (angle magnitude : Int) (c : DCMotorController) :
    (magnitude = 0 ∧ controlBody angle magnitude c = c.stop) ∨
      ∃ right left, controlBody angle magnitude c =
        DCMotorController.drive right left (if magnitude ≥ 100 then 95 else magnitude) c := by
  unfold controlBody
  simp only
  generalize (angle + 180).tmod 360 - 180 = direction
  simp only [upMin, upMax, rightMin, rightMax, downMin, downMax, leftMin, leftMax]
  split_ifs
  all_goals first
    | exact .inr ⟨_, _, rfl⟩
    | exact .inl ⟨by omega, rfl⟩
    | omega

theorem offsInRange_controlBody_iff {c : DCMotorController} (h : c.driver.OffsInRange) (hobeys : c.Obeys)
    (angle magnitude : Int) :
    (controlBody angle magnitude c).driver.OffsInRange ↔ 0 ≤ magnitude := by
  rcases controlBody_eq angle magnitude c with ⟨hzero, hstop⟩ | ⟨right, left, hdrive⟩
  · rw [hstop]
    exact iff_of_true (DCMotorController.offsInRange_stop h) hzero.ge
  · rw [hdrive, DCMotorController.offsInRange_drive_iff hobeys _ _ (by split <;> omega),
      and_iff_left h]
    split <;> omega

theorem offsInRange_controlBody {c : DCMotorController} (h : c.driver.OffsInRange) (angle : Int)
    {magnitude : Int} (hmagnitude : 0 ≤ magnitude) :
    (controlBody angle magnitude c).driver.OffsInRange := by
  by_cases hobeys : c.Obeys
  · exact (offsInRange_controlBody_iff h hobeys angle magnitude).mpr hmagnitude
  · rcases controlBody_eq angle magnitude c with ⟨_, hstop⟩ | ⟨right, left, hdrive⟩
    · rw [hstop]
      exact DCMotorController.offsInRange_stop h
    · rw [hdrive, DCMotorController.drive_of_not_obeys hobeys]
      exact h

/-! ## One command -/

/-- **The actuators are in range**: all pulses and recorded angles of the servos, and all off-counts of
    the wheels. -/
structure Controllers.InRange (c : Controllers) : Prop where
  servo : c.servo.InRange
  dcMotor : c.dcMotor.driver.OffsInRange

/-- Both motor controllers obey commands. -/
def Controllers.Obey (c : Controllers) : Prop := c.servo.Obeys ∧ c.dcMotor.Obeys

/-- **The command fits** the recorded angles and the configured positions. It follows the order in which
    `control_motion` reads the payloads. Only the joysticks can fit the range, but not an `int`. -/
def Fits (trig : Trig) (positions : JointPositionList) (data : ControlData) (c : Controllers) : Prop :=
  if let some body := data.bodyJoystick then 0 ≤ body.strength ∧ FitsInt (body.angle + 180)
  else if let some head := data.headJoystick then
    HeadFitsInt trig head.angle head.strength c.servo ∧
      HeadFits trig positions head.angle head.strength c.servo
  else if let some angle := data.leftArmAngle then 0 ≤ angle ∧ angle ≤ 100
  else if let some angle := data.rightArmAngle then 0 ≤ angle ∧ angle ≤ 100
  else if let some state := data.leftEye then EyeFits positions .eyeLeft state
  else if let some state := data.rightEye then EyeFits positions .eyeRight state
  else if let some (_, angle) := data.jointAngle then angle.toNat ≤ 180
  else if let some requested := data.jointAngles then JointsFit requested
  else True

theorem turnsDown_of_lowers {current speed limit : Int} (h : Lowers current speed limit) :
    TurnsDown current speed limit := by
  unfold Lowers at h
  unfold TurnsDown
  omega

theorem turnsUp_of_raises {current speed limit : Int} (h : Raises current speed limit) :
    TurnsUp current speed limit := by
  unfold Raises at h
  unfold TurnsUp
  omega

/-- The angles that a servo takes are far from those that overflow. -/
theorem headTurns_of_headFits {trig : Trig} {positions : JointPositionList} {angle magnitude : Int}
    {c : ServoMotorController} (h : HeadFits trig positions angle magnitude c) :
    HeadTurns trig positions angle magnitude c := by
  unfold HeadTurns VerticalTurns
  unfold HeadFits VerticalFits at h
  generalize (if magnitude > 5 then 5 else magnitude) = magnitude' at h ⊢
  split_ifs at h ⊢ with hidle hup hdown
  · exact ⟨turnsDown_of_lowers h.1, turnsUp_of_raises h.2⟩
  · exact ⟨turnsUp_of_raises h.1, turnsDown_of_lowers h.2⟩

theorem armTurns_of_percentage {angle : Int} (h : 0 ≤ angle ∧ angle ≤ 100) (c : ServoMotorController) :
    ArmTurns angle c :=
  ⟨⟨by omega, by omega⟩, fun _ => ⟨by omega, by omega⟩⟩

theorem eyeTurns_of_eyeFits {positions : JointPositionList} {joint : ServoMotorJoint} {state : Bool}
    (h : EyeFits positions joint state) (c : ServoMotorController) : EyeTurns positions joint state c := by
  obtain ⟨hlow, hhigh⟩ := h
  exact fun _ => ⟨by omega, by omega⟩

/-- **What fits computes values of `int` only.** -/
theorem computesInts_of_fits {trig : Trig} {positions : JointPositionList} {data : ControlData}
    {c : Controllers} (h : Fits trig positions data c) : ComputesInts trig positions data c := by
  obtain ⟨_, jointAngle, jointAngles, head, body, leftArm, rightArm, leftEye, rightEye⟩ := data
  -- the payloads in the order in which they are read
  cases body
  case some body => exact ⟨h.2, fun _ => le_trans (by decide) h.1⟩
  cases head
  case some head => exact ⟨h.1, fun _ => headTurns_of_headFits h.2⟩
  cases leftArm
  case some angle => exact armTurns_of_percentage h _
  cases rightArm
  case some angle => exact armTurns_of_percentage h _
  cases leftEye
  case some state => exact eyeTurns_of_eyeFits h _
  cases rightEye
  case some state => exact eyeTurns_of_eyeFits h _
  exact trivial

/-- What one command of the servos does to the range of all actuators, whatever else is known. -/
theorem inRange_of_keeps (known : Prop) {ok : Prop} {c : Controllers} {servo : ServoMotorController}
    (hc : c.InRange) (h : Keeps ok c.servo servo) :
    (ok → Controllers.InRange { c with servo := servo }) ∧
      (c.Obey → known → Controllers.InRange { c with servo := servo } → ok) := by
  constructor
  · exact fun hok => ⟨h.keeps hc.servo hok, hc.dcMotor⟩
  · exact fun hobey _ hd => (h.inRange_iff hc.servo hobey.1).mp hd.servo

theorem controlMotion_cases {trig : Trig} {positions : JointPositionList} {data : ControlData}
    {c d : Controllers} (hc : c.InRange) (h : controlMotion trig positions data c = some d) :
    (Fits trig positions data c → d.InRange) ∧
      (c.Obey → ComputesInts trig positions data c → d.InRange → Fits trig positions data c) := by
  obtain ⟨_, jointAngle, jointAngles, head, body, leftArm, rightArm, leftEye, rightEye⟩ := data
  -- of the joysticks there is more to say than that they keep the range
  cases body
  case some body =>
    cases h
    constructor
    · exact fun hok => ⟨hc.servo, offsInRange_controlBody hc.dcMotor _ hok.1⟩
    · exact fun hobey hints hd =>
        ⟨(offsInRange_controlBody_iff hc.dcMotor hobey.2 ..).mp hd.dcMotor, hints.1⟩
  cases head
  case some head =>
    cases h
    obtain ⟨hkeeps, hbreaks⟩ := inRange_of_keeps True hc (keeps_controlHead trig positions _ _ c.servo)
    exact ⟨fun hok => hkeeps hok.2, fun hobey hints hd => ⟨hints.1, hbreaks hobey trivial hd⟩⟩
  cases leftArm
  case some angle => cases h; exact inRange_of_keeps _ hc (keeps_controlArm ..)
  cases rightArm
  case some angle => cases h; exact inRange_of_keeps _ hc (keeps_controlArm ..)
  cases leftEye
  case some state => cases h; exact inRange_of_keeps _ hc (keeps_controlEye positions (.inl rfl) ..)
  cases rightEye
  case some state => cases h; exact inRange_of_keeps _ hc (keeps_controlEye positions (.inr rfl) ..)
  cases jointAngle
  case some jointAngle =>
    cases h
    exact inRange_of_keeps _ hc ((keeps_setJointAngle ..).congr fun _ => isServoAngle_toNat_iff _)
  cases jointAngles
  case some requested =>
    obtain ⟨servo, hmoved, rfl⟩ := Option.map_eq_some_iff.mp h
    exact inRange_of_keeps _ hc (keeps_moveJoints hc.servo hmoved)
  cases h
  exact ⟨fun _ => hc, fun _ _ _ => trivial⟩

/-- **A command that fits is defined and keeps the range**, and if the controllers obey, no other does. -/
theorem inRange_onInt_iff {trig : Trig} {positions : JointPositionList} {data : ControlData}
    {c d : Controllers} (hc : c.InRange) (h : controlMotion trig positions data c = some d) :
    (Fits trig positions data c → OnInt.controlMotion trig positions data c = some d ∧ d.InRange) ∧
      (c.Obey → (OnInt.controlMotion trig positions data c = some d ∧ d.InRange ↔
        Fits trig positions data c)) := by
  obtain ⟨hkeeps, hbreaks⟩ := controlMotion_cases hc h
  have hdefined : Fits trig positions data c →
      OnInt.controlMotion trig positions data c = some d ∧ d.InRange := fun hfits =>
    ⟨OnInt.controlMotion_eq_some_iff.mpr ⟨computesInts_of_fits hfits, h⟩, hkeeps hfits⟩
  refine ⟨hdefined, fun hobey => ⟨?_, hdefined⟩⟩
  rintro ⟨hints, hd⟩
  exact hbreaks hobey (OnInt.controlMotion_eq_some_iff.mp hints).1 hd

/-! ## Steps -/

/-- Nothing has reached an actuator: only flags may differ. -/
structure SameActuators (c d : Controllers) : Prop where
  driver : d.servo.driver = c.servo.driver
  recorded : d.servo.currentJointAngles = c.servo.currentJointAngles
  wheels : d.dcMotor.driver = c.dcMotor.driver

theorem SameActuators.inRange {c d : Controllers} (h : SameActuators c d) (hc : c.InRange) :
    d.InRange := by
  have hrecorded : ∀ joint, recordedAngle d.servo joint = recordedAngle c.servo joint := by
    intro joint
    rw [recordedAngle, ServoMotorController.getAllJointsAngle, h.recorded]
    rfl
  refine ⟨⟨?_, ?_, ?_⟩, ?_⟩
  · rw [ServoMotorController.PulsesInRange, h.driver]
    exact hc.servo.pulses
  · intro joint
    rw [hrecorded]
    exact hc.servo.recorded joint
  · intro joint x hx
    rw [ServoMotorController.lastDuty, h.driver] at hx
    rw [hrecorded]
    exact hc.servo.last joint x hx
  · rw [h.wheels]
    exact hc.dcMotor

theorem SameActuators.fits {c d : Controllers} (h : SameActuators c d) {trig : Trig}
    {positions : JointPositionList} {data : ControlData} (hfits : Fits trig positions data c) :
    Fits trig positions data d := by
  have hrecorded : recordedAngle d.servo = recordedAngle c.servo := by
    funext joint
    rw [recordedAngle, ServoMotorController.getAllJointsAngle, h.recorded]
    rfl
  unfold Fits HeadFitsInt VerticalFitsInt HorizontalFitsInt HeadFits VerticalFits HeadUpFits HeadDownFits
    at hfits ⊢
  rw [hrecorded]
  exact hfits

namespace RobotEnv

theorem openSession_sameActuators (e : ControlEvent) (env : RobotEnv) :
    SameActuators env.controllers (env.openSession e).controllers := by
  cases hsource : e.source <;>
    simp only [openSession, RobotState.sessionState, MovingState.onEnter, hsource]
  all_goals exact ⟨rfl, rfl, rfl⟩

theorem openSession_trig (e : ControlEvent) (env : RobotEnv) :
    (env.openSession e).trig = env.trig := by
  obtain ⟨controllers, entrySource, h, _⟩ := openSession_eq e env
  rw [h]; rfl

theorem openSession_jointPositionList (e : ControlEvent) (env : RobotEnv) :
    (env.openSession e).jointPositionList = env.jointPositionList := by
  obtain ⟨controllers, entrySource, h, _⟩ := openSession_eq e env
  rw [h]; rfl

theorem controlMotion_inRange {env : RobotEnv} {data : ControlData} (h : env.controllers.InRange)
    (hfits : Fits env.trig env.jointPositionList data env.controllers) :
    (env.controlMotion data).controllers.InRange := by
  unfold controlMotion
  split
  · rename_i hmotion
    exact (controlMotion_cases h hmotion).1 hfits
  · exact h

theorem execute_inRange {env : RobotEnv} {s : RobotState} {e : ControlEvent} (htype : e.type = .control)
    (h : env.controllers.InRange) (hfits : s.Executes e.source →
      Fits env.trig env.jointPositionList e.controlData env.controllers) :
    (env.execute s e).controllers.InRange := by
  by_cases hexec : s.Executes e.source
  · rw [Robot.execute_control hexec htype]
    split
    · have hrefreshed : env.refreshLastEventTime.controllers.InRange := h
      exact controlMotion_inRange hrefreshed (hfits hexec)
    · exact controlMotion_inRange h (hfits hexec)
  · rw [Robot.execute_of_not hexec htype]
    exact h

end RobotEnv

namespace Robot

/-- The actuators of the robot are in range. -/
def InRange (m : Robot) : Prop := m.env.controllers.InRange

/-- A command that is dispatched fits. -/
def FittingStep (m : Robot) : Action → Prop
  | .dispatch => ∀ s e, m.currentState = some s → m.env.core.eventQueue.head? = some e →
      e.type = .control → s.Commands e.source →
        Fits m.env.trig m.env.jointPositionList e.controlData m.env.controllers
  | _ => True

theorem inRange_dispatched {m t : Robot} {e : ControlEvent} (h : m.InRange)
    (hfits : ∀ s, m.currentState = some s → e.type = .control → s.Commands e.source →
      Fits m.env.trig m.env.jointPositionList e.controlData m.env.controllers)
    (hd : Dispatched m e t) : t.InRange := by
  cases hd with
  | ignored => exact h
  | opened hcur htype =>
      have hsame := RobotEnv.openSession_sameActuators e m.env
      refine RobotEnv.execute_inRange htype (hsame.inRange h) fun hexec => ?_
      rw [RobotEnv.openSession_trig, RobotEnv.openSession_jointPositionList]
      exact hsame.fits (hfits _ hcur htype ((RobotState.commands_idle_iff _).mpr hexec))
  | @executed s hcur hexec htype =>
      refine RobotEnv.execute_inRange htype h fun _ => hfits s hcur htype ?_
      have hidle : s ≠ .idleState := by rintro rfl; exact hexec
      exact (RobotState.commands_iff_executes hidle _).mpr hexec
  | rearmed => exact h
  | timedOut => exact SameActuators.inRange (c := m.env.controllers) ⟨rfl, rfl, rfl⟩ h
  | stopped => exact SameActuators.inRange (c := m.env.controllers) ⟨rfl, rfl, rfl⟩ h
  | failed => exact h

theorem inRange_steps {m t : Robot} {a : Action} (h : m.InRange) (hfits : FittingStep m a)
    (hst : Steps m a t) : t.InRange := by
  cases hst with
  | post => exact h
  | expire => exact h
  | @dispatch _ core _ hpop hd =>
      refine inRange_dispatched (m := m.withCore core) h (fun s hcur htype hcommands => ?_) hd
      exact hfits s _ hcur (Core.head?_of_popEvent hpop) htype hcommands

/-! ## A robot to run -/

theorem readyControllers_inRange : readyControllers.InRange := by
  refine ⟨⟨?_, ?_, ?_⟩, ?_⟩
  · exact fun d hd => absurd hd List.not_mem_nil
  · intro joint
    show IsServoAngle 90
    decide
  · intro joint d hd
    cases hd
  · exact fun d hd => absurd hd List.not_mem_nil

theorem fresh_inRange : fresh.InRange :=
  SameActuators.inRange (c := readyControllers) ⟨rfl, rfl, rfl⟩ readyControllers_inRange

theorem fittingStep_freshWith {e : ControlEvent}
    (hfits : Fits noTrig (fun _ _ => 0) e.controlData fresh.env.controllers) :
    FittingStep (freshWith e) .dispatch := by
  intro s e' _ hhead _ _
  obtain rfl : e = e' := Option.some.inj hhead
  exact hfits

/-- A message of the remote connection that asks for this angle of the right arm. -/
def rightArmMessage (angle : Int) : Json := .object [("right_arm", .object [("Angle", .int angle)])]

def rightArmEvent (angle : Int) : ControlEvent :=
  { type := .control, source := .remoteConnectionService, controlData := { rightArmAngle := some angle } }

/-! ## Runs -/

/-- **When the actuators are in range.** Take a run from a start with the actuators in range, in which every
    command that is dispatched fits. In every state of it the actuators are in range. Of the next command, if
    it names recorded joints only: one that fits computes values of `int` only and keeps the actuators in
    range, and if the motor controllers obey, no other one does. -/
theorem actuator_range {m₀ m : Robot} {tr : List (Robot × Action)} (hstart : system.init m₀)
    (hrange : m₀.InRange) (hrun : system.Run m₀ tr m) (hfits : ∀ x ∈ tr, FittingStep x.1 x.2) :
    ∀ u ∈ System.visited tr m, u.InRange ∧ ∀ data controllers,
      controlMotion u.env.trig u.env.jointPositionList data u.env.controllers = some controllers →
        (Fits u.env.trig u.env.jointPositionList data u.env.controllers →
          OnInt.controlMotion u.env.trig u.env.jointPositionList data u.env.controllers = some controllers ∧
            controllers.InRange) ∧
        (u.env.controllers.Obey →
          (OnInt.controlMotion u.env.trig u.env.jointPositionList data u.env.controllers = some controllers ∧
            controllers.InRange ↔ Fits u.env.trig u.env.jointPositionList data u.env.controllers)) := by
  have hstep : ∀ s a t, Started s ∧ s.InRange → FittingStep s a → system.step s a = some t →
      Started t ∧ t.InRange := by
    rintro s a t ⟨hs, hrange⟩ hok hst
    exact ⟨started_step hs hst, inRange_steps hrange hok (steps_of_step hs hst)⟩
  intro u hu
  obtain ⟨_, hrange⟩ := hrun.invariantVia hstep ⟨started_init hstart, hrange⟩ hfits u hu
  exact ⟨hrange, fun data controllers hmotion => inRange_onInt_iff hrange hmotion⟩

/-- After a right arm at 50 percent all is in range. One at 200 percent would end that, and so would a body
    joystick whose angle is the greatest `int`. -/
theorem actuator_range_rightArm :
    ∃ t, system.Run fresh [(fresh, .post (rightArmEvent 50)), (freshWith (rightArmEvent 50), .dispatch)] t ∧
      t.InRange ∧ ∀ data ∈ [{ rightArmAngle := some 200 },
          { bodyJoystick := some { angle := 2147483647, strength := 50 } }], ∀ controllers,
        controlMotion t.env.trig t.env.jointPositionList data t.env.controllers = some controllers →
          ¬ (OnInt.controlMotion t.env.trig t.env.jointPositionList data t.env.controllers =
            some controllers ∧ controllers.InRange) := by
  have hstep : (system.step (freshWith (rightArmEvent 50)) .dispatch).map (fun t =>
      ((t.env.controllers.servo.isEnabled, t.env.controllers.servo.isReady),
        (t.env.controllers.dcMotor.isEnabled, t.env.controllers.dcMotor.isReady))) =
          some ((true, true), (true, true)) := by decide +kernel
  obtain ⟨t, ht, hflags⟩ := Option.map_eq_some_iff.mp hstep
  obtain ⟨hservo, hdrive⟩ := Prod.mk.inj hflags
  have hobey : t.env.controllers.Obey := ⟨Prod.mk.inj hservo, Prod.mk.inj hdrive⟩
  have hrun : system.Run fresh
      [(fresh, .post (rightArmEvent 50)), (freshWith (rightArmEvent 50), .dispatch)] t :=
    .snoc (.snoc .nil rfl) ht
  have hfits : ∀ x ∈ [(fresh, Action.post (rightArmEvent 50)),
      (freshWith (rightArmEvent 50), Action.dispatch)], FittingStep x.1 x.2 := by
    rw [List.forall_mem_cons, List.forall_mem_singleton]
    exact ⟨trivial, fittingStep_freshWith (show (0 : Int) ≤ 50 ∧ (50 : Int) ≤ 100 by decide)⟩
  obtain ⟨hrange, hexact⟩ := actuator_range fresh_init fresh_inRange hrun hfits t
    (by simp [System.visited])
  refine ⟨t, hrun, hrange, List.forall_mem_cons.mpr ⟨?_, List.forall_mem_singleton.mpr ?_⟩⟩
  · intro controllers hmotion hnext
    have hbad : (0 : Int) ≤ 200 ∧ (200 : Int) ≤ 100 := ((hexact _ _ hmotion).2 hobey).mp hnext
    exact absurd hbad (by decide)
  · intro controllers hmotion hnext
    have hbad : (0 : Int) ≤ 50 ∧ FitsInt (2147483647 + 180) := ((hexact _ _ hmotion).2 hobey).mp hnext
    exact absurd hbad (by decide)

/-- **An angle that no servo takes.** In a session that is in range, the message
    `{"right_arm":{"Angle":200}}` moves the arm to 360 degrees, and 104 is recorded. -/
theorem rightArm_leaves_range : ∃ m data d, system.Reachable m ∧ m.InRange ∧ m.env.controllers.Obey ∧
    ControlData.ofJson (rightArmMessage 200) = some data ∧
    controlMotion m.env.trig m.env.jointPositionList data m.env.controllers = some d ∧
    d.servo.lastDuty .rightArm = some (jointDuty .rightArm 360) ∧
    recordedAngle d.servo .rightArm = 104 ∧ ¬ d.InRange := by
  let data : ControlData := { rightArmAngle := some 200 }
  have hstep : (system.step (freshWith (driveEvent .remoteConnectionService)) .dispatch).map (fun m =>
      (((m.env.controllers.servo.isEnabled, m.env.controllers.servo.isReady),
        (m.env.controllers.dcMotor.isEnabled, m.env.controllers.dcMotor.isReady)),
        (controlMotion m.env.trig m.env.jointPositionList data m.env.controllers).map fun d =>
          (d.servo.lastDuty .rightArm, recordedAngle d.servo .rightArm))) =
      some (((true, true), (true, true)), some (some (jointDuty .rightArm 360), 104)) := by
    decide +kernel
  obtain ⟨m, hm, hobserved⟩ := Option.map_eq_some_iff.mp hstep
  obtain ⟨hflags, hmotion⟩ := Prod.mk.inj hobserved
  obtain ⟨hservo, hdrive⟩ := Prod.mk.inj hflags
  obtain ⟨d, hd, hmoved⟩ := Option.map_eq_some_iff.mp hmotion
  obtain ⟨hlast, hrecorded⟩ := Prod.mk.inj hmoved
  have hreach := freshWith_reachable (driveEvent .remoteConnectionService)
  have hrange : m.InRange := by
    have hsteps := steps_of_step (a := .dispatch) (started_reachable hreach) hm
    refine inRange_steps (m := freshWith _) fresh_inRange ?_ hsteps
    exact fittingStep_freshWith (show (0 : Int) ≤ 100 ∧ FitsInt (90 + 180) by decide)
  refine ⟨m, data, d, .step hreach trivial hm, hrange, ⟨Prod.mk.inj hservo, Prod.mk.inj hdrive⟩, rfl, hd,
    hlast, hrecorded, fun hnext => ?_⟩
  -- in range, the last pulse of the arm would be that of the recorded angle
  have hpulse := hnext.servo.last .rightArm _ hlast
  rw [hrecorded] at hpulse
  exact absurd (congrArg DutyCycle.off hpulse) (by decide +kernel)

end Robot

end Kufibot
