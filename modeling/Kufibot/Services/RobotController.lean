import Kufibot.Lib.System
import Kufibot.Messages

/-!
# `Services.RobotController` — the one-place slot of `RobotControllerService`

Publishers put the latest `ControlData` into the slot and notify; the service thread waits, tests the
slot, posts its content to the robot and resets it. The mutex protects the delivery and the wait, not the
test, the copy and the reset, and the wait has no predicate.

`Timely` says where a delivery and a stop may fall: not between the copy and the next wait of a loop that
goes on, and not between the test of `_running` and the wait. Then the latest command is posted and the
service is running whenever it is blocked; any other delivery or stop is followed by a blocked service
that has lost it (`latest_command_timely`).
-/

namespace Kufibot

open Lib

/-- The event that carries a command to the robot; without a source it is `none`. -/
def toControlEvent (data : ControlData) : ControlEvent :=
  { type := .control, source := data.source.getD .none, controlData := data }

/-- The content of the slot, with the number of the delivery that put it there. -/
structure Delivered where
  /-- Ghost: how many deliveries came before. -/
  index : Nat
  data : ControlData

/-- Where the service thread is. -/
inductive ServicePc where
  /-- At `while (_running)`. -/
  | loopTest
  /-- About to wait. -/
  | enterWait
  /-- In `_condVar.wait`. -/
  | blocked
  /-- Woken, the slot not yet tested. -/
  | woken
  /-- The slot was found full. -/
  | copySlot
  /-- The slot was posted. -/
  | resetSlot
  /-- Behind the loop. -/
  | exited
deriving DecidableEq, Repr

/-- `_condVar.notify_one()`. -/
def ServicePc.notifyOne : ServicePc → ServicePc
  | .blocked => .woken
  | pc => pc

structure RobotControllerService where
  running : Bool
  /-- The slot `_controlData`. -/
  controlData : Option Delivered
  pc : ServicePc
  /-- Ghost: the data of all deliveries. -/
  delivered : List ControlData
  /-- The events posted to the robot, each with the number of its delivery. -/
  posted : List (Nat × ControlEvent)

/-- What can happen next. -/
inductive ServiceAction where
  /-- `subcribed_data_receive` with a `ControlData`, by any publisher. -/
  | deliver (data : ControlData)
  | stop
  /-- The service thread goes on. -/
  | service
  /-- The wait ends although nobody notified. -/
  | spuriousWake

namespace RobotControllerService

def subcribedDataReceive (data : ControlData) (s : RobotControllerService) : RobotControllerService :=
  { s with
    controlData := some ⟨s.delivered.length, data⟩
    delivered := s.delivered ++ [data]
    pc := s.pc.notifyOne }

/-- `Service::stop`, up to the join. -/
def stop (s : RobotControllerService) : RobotControllerService :=
  if s.running then { s with running := false, pc := s.pc.notifyOne } else s

/-- The next step of `service_function`. -/
def serviceFunction (s : RobotControllerService) : Option RobotControllerService :=
  match s.pc with
  | .loopTest => some { s with pc := if s.running then .enterWait else .exited }
  | .enterWait => some { s with pc := .blocked }
  | .blocked => none
  | .woken => some { s with pc := if s.controlData.isSome then .copySlot else .loopTest }
  | .copySlot =>
      s.controlData.map fun d =>
        { s with posted := s.posted ++ [(d.index, toControlEvent d.data)], pc := .resetSlot }
  | .resetSlot => some { s with controlData := none, pc := .loopTest }
  | .exited => none

def step (s : RobotControllerService) : ServiceAction → Option RobotControllerService
  | .deliver data => some (s.subcribedDataReceive data)
  | .stop => some s.stop
  | .service => s.serviceFunction
  | .spuriousWake =>
      match s.pc with
      | .blocked => some { s with pc := .woken }
      | _ => none

/-- The service has just been started. -/
def initial : RobotControllerService where
  running := true
  controlData := none
  pc := .loopTest
  delivered := []
  posted := []

/-- The service among its publishers and whoever stops it. -/
def system : System RobotControllerService ServiceAction where
  init s := s = initial
  step := step

/-! ## Nothing is lost -/

/-- The most recent delivery has been posted to the robot. -/
def LatestPosted (s : RobotControllerService) : Prop :=
  ∀ data, s.delivered.getLast? = some data → (s.delivered.length - 1, toControlEvent data) ∈ s.posted

/-- **The latest command is never lost**: a blocked service has posted it, and it is running. -/
def NothingLost (s : RobotControllerService) : Prop :=
  s.pc = .blocked → s.LatestPosted ∧ s.running = true

/-- The loop will wait again before it tests the slot. -/
def PastSlot (s : RobotControllerService) : Prop :=
  s.pc = .enterWait ∨ ((s.pc = .loopTest ∨ s.pc = .resetSlot) ∧ s.running = true)

/-- No delivery falls between the copy of the slot and the next wait, and no stop between the test of
    `_running` and the wait. -/
def Timely (s : RobotControllerService) : ServiceAction → Prop
  | .deliver _ => ¬ s.PastSlot
  | .stop => s.running = true → s.pc ≠ .enterWait
  | _ => True

/-- The invariant under `Timely`. -/
structure SlotInv (s : RobotControllerService) : Prop where
  /-- The slot holds the most recent delivery. -/
  latest : ∀ d, s.controlData = some d →
    d.index + 1 = s.delivered.length ∧ s.delivered.getLast? = some d.data
  waiting : s.pc = .enterWait ∨ s.pc = .blocked → s.LatestPosted ∧ s.running = true
  testing : s.pc = .loopTest ∨ s.pc = .resetSlot → s.running = true → s.LatestPosted
  woken : s.pc = .woken → s.controlData = none → s.LatestPosted

theorem slotInv_deliver {s : RobotControllerService} {data : ControlData}
    (hok : ¬ s.PastSlot) : SlotInv (s.subcribedDataReceive data) := by
  constructor
  · rintro d ⟨⟩
    simp [subcribedDataReceive]
  · rintro (hpc | hpc)
    · have hpc : s.pc.notifyOne = .enterWait := hpc
      refine absurd (.inl ?_) hok
      cases hs : s.pc <;> simp_all [ServicePc.notifyOne]
    · have hpc : s.pc.notifyOne = .blocked := hpc
      cases hs : s.pc <;> simp_all [ServicePc.notifyOne]
  · intro hpc hrun
    have hpc : s.pc.notifyOne = .loopTest ∨ s.pc.notifyOne = .resetSlot := hpc
    refine absurd (.inr ⟨?_, hrun⟩) hok
    cases hs : s.pc <;> simp_all [ServicePc.notifyOne]
  · intro _ hslot; cases hslot

theorem slotInv_stop {s : RobotControllerService} (h : SlotInv s)
    (hok : s.running = true → s.pc ≠ .enterWait) : SlotInv s.stop := by
  unfold stop
  split
  · rename_i hrun
    constructor
    · exact h.latest
    · rintro (hpc | hpc)
      · have hpc : s.pc.notifyOne = .enterWait := hpc
        refine absurd ?_ (hok hrun)
        cases hs : s.pc <;> simp_all [ServicePc.notifyOne]
      · have hpc : s.pc.notifyOne = .blocked := hpc
        cases hs : s.pc <;> simp_all [ServicePc.notifyOne]
    · intro _ hrun'; cases hrun'
    · -- a blocked service has posted its latest command before it is woken
      intro hpc hslot
      have hpc : s.pc.notifyOne = .woken := hpc
      cases hs : s.pc with
      | blocked => exact (h.waiting (.inr hs)).1
      | woken => exact h.woken hs hslot
      | _ => rw [hs] at hpc; cases hpc
  · exact h

/-- The slot is posted: it holds the most recent delivery. -/
theorem slotInv_copy {s : RobotControllerService} (h : SlotInv s) {d : Delivered}
    (hd : s.controlData = some d) :
    SlotInv { s with posted := s.posted ++ [(d.index, toControlEvent d.data)], pc := .resetSlot } := by
  obtain ⟨hindex, hlast⟩ := h.latest d hd
  refine ⟨h.latest, ?_, ?_, (nomatch ·)⟩
  · rintro (hp | hp) <;> cases hp
  · intro _ _ data hdata
    have hdata : d.data = data := Option.some.inj (hlast.symm.trans hdata)
    have hindex : s.delivered.length - 1 = d.index := by omega
    show (s.delivered.length - 1, toControlEvent data) ∈ s.posted ++ [_]
    rw [hindex, ← hdata]
    exact List.mem_append_right _ (List.mem_singleton.mpr rfl)

theorem slotInv_service {s t : RobotControllerService} (h : SlotInv s)
    (hst : s.serviceFunction = some t) : SlotInv t := by
  unfold serviceFunction at hst
  cases hpc : s.pc with
  | loopTest =>
      simp only [hpc] at hst
      cases hst
      cases hrun : s.running with
      | false =>
          refine ⟨h.latest, ?_, ?_, (nomatch ·)⟩ <;> rintro (hp | hp) <;> cases hp
      | true =>
          refine ⟨h.latest, fun _ => ⟨h.testing (.inl hpc) hrun, rfl⟩, ?_, (nomatch ·)⟩
          rintro (hp | hp) <;> cases hp
  | enterWait =>
      simp only [hpc] at hst
      cases hst
      refine ⟨h.latest, fun _ => h.waiting (.inl hpc), ?_, (nomatch ·)⟩
      rintro (hp | hp) <;> cases hp
  | blocked => simp only [hpc] at hst; cases hst
  | woken =>
      simp only [hpc] at hst
      cases hst
      cases hslot : s.controlData with
      | none =>
          refine ⟨fun _ => (nomatch ·), ?_, fun _ _ => h.woken hpc hslot, (nomatch ·)⟩
          rintro (hp | hp) <;> cases hp
      | some d =>
          refine ⟨fun d' hd' => h.latest d' (hslot.trans hd'), ?_, ?_, (nomatch ·)⟩ <;>
            rintro (hp | hp) <;> cases hp
  | copySlot =>
      simp only [hpc] at hst
      obtain ⟨d, hd, rfl⟩ := Option.map_eq_some_iff.mp hst
      exact slotInv_copy h hd
  | resetSlot =>
      simp only [hpc] at hst
      cases hst
      refine ⟨fun _ => (nomatch ·), ?_, fun _ hrun => h.testing (.inr hpc) hrun, (nomatch ·)⟩
      rintro (hp | hp) <;> cases hp
  | exited => simp only [hpc] at hst; cases hst

theorem slotInv_step {s t : RobotControllerService} {a : ServiceAction} (h : SlotInv s)
    (hok : s.Timely a) (hst : s.step a = some t) : SlotInv t := by
  cases a with
  | deliver data => cases hst; exact slotInv_deliver hok
  | stop => cases hst; exact slotInv_stop h hok
  | service => exact slotInv_service h hst
  | spuriousWake =>
      simp only [step] at hst
      split at hst
      · rename_i hpc
        cases hst
        have hposted := (h.waiting (.inr hpc)).1
        refine ⟨h.latest, ?_, ?_, fun _ _ => hposted⟩ <;> rintro (hp | hp) <;> cases hp
      · cases hst

/-! ## Any other delivery or stop is lost -/

/-- Only deliveries that have happened are in the slot or have been posted. -/
structure IndexInv (s : RobotControllerService) : Prop where
  slot : ∀ d, s.controlData = some d → d.index < s.delivered.length
  posted : ∀ x ∈ s.posted, x.1 < s.delivered.length

theorem indexInv_step {s t : RobotControllerService} {a : ServiceAction} (h : IndexInv s)
    (hst : s.step a = some t) : IndexInv t := by
  cases a with
  | deliver data =>
      cases hst
      constructor
      · rintro d ⟨⟩
        simp [subcribedDataReceive]
      · intro x hx
        have := h.posted x hx
        simp only [subcribedDataReceive, List.length_append, List.length_singleton]
        omega
  | stop =>
      cases hst
      unfold stop
      split
      · exact ⟨h.slot, h.posted⟩
      · exact h
  | service =>
      simp only [step, serviceFunction] at hst
      split at hst
      case h_5 =>
        obtain ⟨d, hd, rfl⟩ := Option.map_eq_some_iff.mp hst
        refine ⟨h.slot, fun x hx => ?_⟩
        rcases List.mem_append.mp hx with hx | hx
        · exact h.posted x hx
        · rw [List.mem_singleton.mp hx]; exact h.slot d hd
      case h_6 => cases hst; exact ⟨fun _ => (nomatch ·), h.posted⟩
      all_goals first | cases hst; done | cases hst; exact ⟨h.slot, h.posted⟩
  | spuriousWake =>
      simp only [step] at hst
      split at hst
      · cases hst; exact ⟨h.slot, h.posted⟩
      · cases hst

theorem indexInv_reachable {s : RobotControllerService} (h : system.Reachable s) : IndexInv s := by
  refine h.invariant ?_ fun s a t hs _ hst => ?_
  · rintro _ rfl
    exact ⟨fun _ => (nomatch ·), fun _ hx => absurd hx List.not_mem_nil⟩
  · exact indexInv_step hs (show s.step a = some t from hst)

/-- From behind the slot the service thread alone blocks with the same deliveries and posted events. -/
theorem blocks_of_pastSlot {s : RobotControllerService} (h : s.PastSlot) :
    ∃ n u, system.exec s (List.replicate n .service) = some u ∧ u.pc = .blocked ∧
      u.delivered = s.delivered ∧ u.posted = s.posted ∧ u.running = s.running := by
  have hwait : ∀ r : RobotControllerService, r.pc = .enterWait →
      system.exec r [.service] = some { r with pc := .blocked } := by
    intro r hr
    simp [System.exec, system, step, serviceFunction, hr]
  have htest : ∀ r : RobotControllerService, r.pc = .loopTest → r.running = true →
      system.exec r [.service, .service] = some { r with pc := .blocked } := by
    intro r hr hrun
    simp [System.exec, system, step, serviceFunction, hr, hrun]
  rcases h with hpc | ⟨hpc | hpc, hrun⟩
  · exact ⟨1, _, hwait s hpc, rfl, rfl, rfl, rfl⟩
  · exact ⟨2, _, htest s hpc hrun, rfl, rfl, rfl, rfl⟩
  · refine ⟨3, { s with controlData := none, pc := .blocked }, ?_, rfl, rfl, rfl, rfl⟩
    have hreset : system.step s .service = some { s with controlData := none, pc := .loopTest } := by
      simp [system, step, serviceFunction, hpc]
    show (system.step s .service).bind _ = _
    rw [hreset]
    exact htest { s with controlData := none, pc := .loopTest } rfl hrun

theorem lost_of_not_timely {s t : RobotControllerService} {a : ServiceAction}
    (hs : system.Reachable s) (hbad : ¬ s.Timely a) (hst : s.step a = some t) :
    ∃ n u, system.exec t (List.replicate n .service) = some u ∧ ¬ u.NothingLost := by
  cases a with
  | deliver data =>
      cases hst
      have hpast : (s.subcribedDataReceive data).PastSlot := by
        rcases Classical.not_not.mp hbad with hpc | ⟨hpc | hpc, hrun⟩
        · exact .inl (by simp [subcribedDataReceive, hpc, ServicePc.notifyOne])
        · exact .inr ⟨.inl (by simp [subcribedDataReceive, hpc, ServicePc.notifyOne]), hrun⟩
        · exact .inr ⟨.inr (by simp [subcribedDataReceive, hpc, ServicePc.notifyOne]), hrun⟩
      obtain ⟨n, u, hexec, hpc, hdel, hposted, _⟩ := blocks_of_pastSlot hpast
      refine ⟨n, u, hexec, fun hnothing => ?_⟩
      -- the number of the new delivery is not among the posted ones
      have hmem := (hnothing hpc).1 data (by rw [hdel]; simp [subcribedDataReceive])
      rw [hposted] at hmem
      have hlt := (indexInv_reachable hs).posted _ hmem
      simp [hdel, subcribedDataReceive] at hlt
  | stop =>
      cases hst
      simp only [Timely, Classical.not_imp, Classical.not_not] at hbad
      obtain ⟨hrun, hpc⟩ := hbad
      have hstop : s.stop = { s with running := false } := by
        simp [stop, hrun, hpc, ServicePc.notifyOne]
      rw [hstop]
      obtain ⟨n, u, hexec, hblocked, _, _, hrunning⟩ :=
        blocks_of_pastSlot (s := { s with running := false }) (.inl hpc)
      refine ⟨n, u, hexec, fun hnothing => ?_⟩
      rw [(hnothing hblocked).2] at hrunning
      cases hrunning
  | service => exact absurd trivial hbad
  | spuriousWake => exact absurd trivial hbad

/-- **When the latest command is never lost.** If all deliveries and stops are timely, a blocked service
    has always posted the latest command and is running; and after a delivery or a stop that is not
    timely the service thread alone gets to a state where this fails. -/
theorem latest_command_timely (s : RobotControllerService) :
    (system.ReachableVia Timely s → s.NothingLost) ∧
      ∀ a t, system.Reachable s → ¬ s.Timely a → s.step a = some t →
        ∃ n u, system.exec t (List.replicate n .service) = some u ∧ ¬ u.NothingLost := by
  refine ⟨fun hs hpc => ?_, fun a t hs hbad hst => lost_of_not_timely hs hbad hst⟩
  have hinv : SlotInv s := by
    refine hs.invariant ?_ fun s a t h hok hst => ?_
    · rintro _ rfl
      refine ⟨fun _ => (nomatch ·), ?_, fun _ _ _ => (nomatch ·), (nomatch ·)⟩
      rintro (hp | hp) <;> cases hp
    · exact slotInv_step h hok (show s.step a = some t from hst)
  exact hinv.waiting (.inr hpc)

/-! ## Two runs -/

/-- A joystick at full strength, and the joystick released. -/
def push : ControlData := { bodyJoystick := some ⟨90, 100⟩ }
def release : ControlData := { bodyJoystick := some ⟨0, 0⟩ }

/-- The service blocks, is woken by `push`, and posts it. -/
def servePush : List ServiceAction := [.service, .service, .deliver push, .service, .service]

/-- **The released joystick is lost.** `release` arrives after `push` has been posted and before the slot
    is reset; the service blocks, and only `push` has been posted. -/
theorem latest_command_lost : ∃ s, system.Reachable s ∧ ¬ s.NothingLost := by
  have hrun : (system.exec initial
      (servePush ++ [.deliver release, .service, .service, .service])).map
      (fun s => (s.pc, s.delivered, s.posted.map Prod.fst)) =
        some (.blocked, [push, release], [0]) := rfl
  obtain ⟨s, hs, hstate⟩ :=
    System.exists_of_exec (System.ReachableVia.init rfl) (fun _ _ _ => trivial) hrun
  simp only [Prod.mk.injEq] at hstate
  obtain ⟨hpc, hdelivered, hposted⟩ := hstate
  refine ⟨s, hs, fun hnothing => ?_⟩
  have hmem := (hnothing hpc).1 release (by rw [hdelivered]; rfl)
  -- only the delivery with number 0 has been posted
  have hindex := List.mem_map_of_mem (f := Prod.fst) hmem
  rw [hposted, hdelivered] at hindex
  simp at hindex

/-- The service in its first wait. -/
def waiting : RobotControllerService := { initial with pc := .blocked }

theorem waiting_reachable : system.ReachableVia Timely waiting :=
  .step (.step (.init rfl) (a := .service) trivial rfl) (a := .service) trivial rfl

/-- Both directions at work: `push` alone is posted before the service blocks again, and a delivery while
    the slot is being reset is lost. -/
theorem latest_command_timely_runs :
    (∃ s : RobotControllerService, s.pc = .blocked ∧ s.delivered = [push] ∧ s.NothingLost) ∧
      ∃ (s t u : RobotControllerService) (n : Nat), s.step (.deliver release) = some t ∧
        system.exec t (List.replicate n .service) = some u ∧ ¬ u.NothingLost := by
  constructor
  · have hpush : system.ReachableVia Timely (waiting.subcribedDataReceive push) := by
      refine .step waiting_reachable (a := .deliver push) ?_ rfl
      rintro (hpc | ⟨hpc | hpc, _⟩) <;> cases hpc
    have hrun : (system.exec (waiting.subcribedDataReceive push)
        [.service, .service, .service, .service, .service]).map (fun s => (s.pc, s.delivered)) =
          some (.blocked, [push]) := rfl
    obtain ⟨s, hs, hstate⟩ := System.exists_of_exec hpush (by simp [Timely]) hrun
    obtain ⟨hpc, hdelivered⟩ := Prod.mk.inj hstate
    exact ⟨s, hpc, hdelivered, (latest_command_timely s).1 hs⟩
  · have hrun : (system.exec initial servePush).map (fun s => (s.pc, s.running)) =
        some (.resetSlot, true) := rfl
    obtain ⟨s, hs, hstate⟩ :=
      System.exists_of_exec (System.ReachableVia.init rfl) (fun _ _ _ => trivial) hrun
    obtain ⟨hpc, hrunning⟩ := Prod.mk.inj hstate
    have hlate : ¬ s.Timely (.deliver release) := fun h => h (.inr ⟨.inr hpc, hrunning⟩)
    obtain ⟨n, u, hexec, hlost⟩ := (latest_command_timely s).2 _ _ hs hlate rfl
    exact ⟨s, _, u, n, rfl, hexec, hlost⟩

end RobotControllerService

end Kufibot
