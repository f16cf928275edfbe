import LatticeNodes.Analysis.DeviceOutcomes
import LatticeNodes.Library.TransitionSystem
import LatticeNodes.Library.WrappingClock
import LatticeNodes.Program.PirLoop

/-!
# Reported motions

The PIR adapter between its interrupt and its loop: edges of the sensor and calls of `loop` in any
order, at times read through the wrapping clock.  The adapter is armed, triggered or cooling
(`Phase`).  `loop_armed`, `loop_triggered` and `loop_cooling` say what one call does in each
phase; from them every edge taken while armed is reported once, and two reports are more than
the cooldown apart.
-/

set_option autoImplicit false

namespace LatticeNodes.Analysis

open LatticeNodes.Program TransitionSystem WrappingClock

namespace MotionReports

/-! ## Phases -/

inductive Phase where
  | armed
  | triggered
  | cooling
  deriving DecidableEq

def InPhase (p : PirAdapter) : Phase → Prop
  | .armed => p.interruptEnabled = true ∧ p.motionDetected = false ∧ p.timerActive = false
  | .triggered => p.interruptEnabled = false ∧ p.motionDetected = true ∧ p.timerActive = false
  | .cooling => p.interruptEnabled = false ∧ p.motionDetected = false ∧ p.timerActive = true

instance (p : PirAdapter) (phase : Phase) : Decidable (InPhase p phase) :=
  match phase with
  | .armed => inferInstanceAs (Decidable (_ ∧ _ ∧ _))
  | .triggered => inferInstanceAs (Decidable (_ ∧ _ ∧ _))
  | .cooling => inferInstanceAs (Decidable (_ ∧ _ ∧ _))

/-- The three phases exclude each other. -/
theorem InPhase.unique {p : PirAdapter} {phase phase' : Phase} (h : InPhase p phase)
    (h' : InPhase p phase') : phase' = phase := by
  cases phase <;> cases phase' <;> simp_all [InPhase]

/-- An edge counts only while the adapter is armed.
SOURCE: PIR_Adapter.cpp:56-62 -/
theorem detectMotion_of_not_armed {p : PirAdapter} {phase : Phase} (h : InPhase p phase)
    (hphase : phase ≠ .armed) : p.detectMotion = p := by
  have hdisabled : p.interruptEnabled = false := by
    cases phase with
    | armed => exact absurd rfl hphase
    | triggered => exact h.1
    | cooling => exact h.1
  rw [PirAdapter.detectMotion, hdisabled, Bool.and_false]
  rfl

/-- An edge of an armed sensor is noted and disarms it.
SOURCE: PIR_Adapter.cpp:56-62 -/
theorem detectMotion_of_armed {p : PirAdapter} (h : InPhase p .armed)
    (hinit : p.initialized = true) :
    p.detectMotion = { p with motionDetected := true, interruptEnabled := false } := by
  rw [PirAdapter.detectMotion, hinit, h.1]
  rfl

/-! ## One call of the loop -/

/-- The members after the health report, made or not.
SOURCE: PIR_Adapter.cpp:118-121 -/
def afterHealth (p : PirAdapter) (now : UInt32) : PirAdapter :=
  if Config.healthReportIntervalMs ≤ now - p.lastHealthMillis then
    { p with lastHealthMillis := now }
  else p

/-- A health report changes no phase.
SOURCE: PIR_Adapter.cpp:104-121 -/
@[simp] theorem afterHealth_phase (p : PirAdapter) (now : UInt32) (phase : Phase) :
    InPhase (afterHealth p now) phase ↔ InPhase p phase := by
  unfold afterHealth
  split
  · cases phase <;> exact Iff.rfl
  · exact Iff.rfl

/-- A health report does not change whether the motion was sent. -/
@[simp] theorem afterHealth_motionSent (p : PirAdapter) (now : UInt32) :
    (afterHealth p now).motionSent = p.motionSent := by
  unfold afterHealth
  split <;> rfl

/-- A health report does not change when the sensor was triggered. -/
@[simp] theorem afterHealth_lastTrigger (p : PirAdapter) (now : UInt32) :
    (afterHealth p now).lastTrigger = p.lastTrigger := by
  unfold afterHealth
  split <;> rfl

/-- A motion frame: the call of the loop hands it to the transmit function.
SOURCE: PIR_Adapter.cpp:97-102 -/
def sendsMotion (adapter : Adapter) (p : PirAdapter) (now : UInt32) : Bool :=
  adapter.transmitFnSet && p.initialized && (PirNode.noteMotion p now).timerActive &&
    !(PirNode.noteMotion p now).motionSent

/-- What is known of an adapter that `init` has set up.
SOURCE: PIR_Adapter.cpp:18-44 -/
structure Working (p : PirAdapter) : Prop where
  initialized : p.initialized = true
  sensorInitialized : p.sensorInitialized = true
  cooldown : p.cooldownSeconds = 3

/-- A health report leaves a working adapter working. -/
theorem Working.afterHealth {p : PirAdapter} (h : Working p) (now : UInt32) :
    Working (afterHealth p now) := by
  unfold MotionReports.afterHealth
  split
  · exact ⟨h.initialized, h.sensorInitialized, h.cooldown⟩
  · exact h

section Loop

variable {adapter : Adapter} {s : PirNode} {r : PirEnv}

/-- A send through the mesh returns, and leaves the adapter to the caller. -/
theorem resume_sendDataThroughMesh (s : PirNode) (d : Device) (env : Env) (adapter : Adapter)
    (type : AdapterTypes) (data : Payload) :
    ∃ d', s.resume (d.sendDataThroughMesh env adapter type data) =
      .ok { s with device := d' } := by
  obtain ⟨d', hok, -⟩ := sendDataThroughMesh_returns d env adapter type data
  rw [hok]
  exact ⟨d', rfl⟩

/-- A health report always comes back.
SOURCE: PIR_Adapter.cpp:104-121 -/
theorem sendNodeHealth_returns (adapter : Adapter) (s : PirNode) (r : PirEnv) :
    ∃ d', s.sendNodeHealth adapter r = .ok ⟨d', afterHealth s.pir r.now⟩ := by
  unfold PirNode.sendNodeHealth afterHealth
  split
  · exact resume_sendDataThroughMesh _ _ _ _ _ _
  · exact ⟨s.device, rfl⟩

/-- A motion frame is one transmission of the call, and the only one before the cooldown is
looked at.
SOURCE: PIR_Adapter.cpp:84-122 -/
theorem loop_of_sendsMotion (h : sendsMotion adapter s.pir r.now = true) :
    s.loop adapter r =
      (s.device.transmit r.motion adapter.adapterType (zeroPayload.set 0 1 byte0_lt)).bind fun d =>
        PirNode.rearm adapter
          ⟨d, { PirNode.noteMotion s.pir r.now with motionSent := true }⟩ r := by
  rw [sendsMotion, Bool.and_assoc, Bool.and_assoc, Bool.and_eq_true, Bool.and_eq_true] at h
  obtain ⟨htransmit, hinit, hsend⟩ := h
  rw [PirNode.loop, hinit, Bool.not_true, if_neg Bool.false_ne_true, PirNode.sendMotion,
    if_pos hsend, Device.sendDataThroughMesh, if_pos htransmit]
  cases s.device.transmit r.motion adapter.adapterType (zeroPayload.set 0 1) with
  | error restart => rfl
  | ok d => rfl

/-- Without one the call goes on to the cooldown at once. -/
theorem loop_of_not_sendsMotion (htransmit : adapter.transmitFnSet = true)
    (hinit : s.pir.initialized = true) (h : sendsMotion adapter s.pir r.now = false) :
    s.loop adapter r =
      PirNode.rearm adapter ⟨s.device, PirNode.noteMotion s.pir r.now⟩ r := by
  rw [sendsMotion, htransmit, hinit, Bool.true_and, Bool.true_and] at h
  rw [PirNode.loop, hinit, Bool.not_true, if_neg Bool.false_ne_true, PirNode.sendMotion,
    if_neg (Bool.eq_false_iff.mp h)]
  rfl

/-- The cooldown has not ended: the adapter stays as it is.
SOURCE: PIR_Adapter.cpp:104-121 -/
theorem rearm_of_waiting
    (h : ¬(s.pir.timerActive = true ∧
      s.pir.cooldownSeconds.toUInt32 * 1000 < r.now - s.pir.lastTrigger)) :
    ∃ d', s.rearm adapter r = .ok ⟨d', afterHealth s.pir r.now⟩ := by
  have hguard : ¬(s.pir.timerActive && decide
      (s.pir.cooldownSeconds.toUInt32 * 1000 < r.now - s.pir.lastTrigger)) = true := by
    rw [Bool.and_eq_true, decide_eq_true_eq]
    exact h
  rw [PirNode.rearm, if_neg hguard]
  exact sendNodeHealth_returns adapter s r

/-- The cooldown has ended: the sensor is armed again. -/
theorem rearm_of_over (hworking : Working s.pir) (htimer : s.pir.timerActive = true)
    (hover : s.pir.cooldownSeconds.toUInt32 * 1000 < r.now - s.pir.lastTrigger) :
    ∃ d', s.rearm adapter r = .ok ⟨d', afterHealth
      { s.pir with timerActive := false, motionSent := false, interruptEnabled := true }
      r.now⟩ := by
  have hguard : (s.pir.timerActive && decide
      (s.pir.cooldownSeconds.toUInt32 * 1000 < r.now - s.pir.lastTrigger)) = true := by
    rw [Bool.and_eq_true, decide_eq_true_eq]
    exact ⟨htimer, hover⟩
  rw [PirNode.rearm, if_pos hguard]
  show ∃ d', (if s.pir.sensorInitialized then PirNode.sendNodeHealth adapter
    ⟨s.device, { s.pir with timerActive := false, motionSent := false, interruptEnabled := true }⟩ r
    else _) = _
  rw [if_pos hworking.sensorInitialized]
  exact sendNodeHealth_returns adapter _ r

/-- An armed adapter only looks at the health report. -/
theorem loop_armed (htransmit : adapter.transmitFnSet = true) (hworking : Working s.pir)
    (h : InPhase s.pir .armed) :
    sendsMotion adapter s.pir r.now = false ∧
      ∃ d', s.loop adapter r = .ok ⟨d', afterHealth s.pir r.now⟩ := by
  have hnote : PirNode.noteMotion s.pir r.now = s.pir := by
    rw [PirNode.noteMotion, h.2.1]
    rfl
  have hquiet : sendsMotion adapter s.pir r.now = false := by
    rw [sendsMotion, hnote, h.2.2, Bool.and_false, Bool.false_and]
  refine ⟨hquiet, ?_⟩
  rw [loop_of_not_sendsMotion htransmit hworking.initialized hquiet, hnote]
  apply rearm_of_waiting
  rintro ⟨htimer, -⟩
  rw [h.2.2] at htimer
  cases htimer

/-- A triggered one sends the motion frame and starts the cooldown. -/
theorem loop_triggered (htransmit : adapter.transmitFnSet = true) (hworking : Working s.pir)
    (h : InPhase s.pir .triggered) :
    sendsMotion adapter s.pir r.now = true ∧
      ∃ d', s.loop adapter r = .ok ⟨d', afterHealth
        { s.pir with
          lastTrigger := r.now
          timerActive := true
          motionSent := true
          motionDetected := false } r.now⟩ := by
  have hnote : PirNode.noteMotion s.pir r.now =
      { s.pir with
        lastTrigger := r.now
        timerActive := true
        motionSent := false
        motionDetected := false } := by
    rw [PirNode.noteMotion, h.2.1]
    rfl
  have hsends : sendsMotion adapter s.pir r.now = true := by
    rw [sendsMotion, hnote, htransmit, hworking.initialized]
    rfl
  refine ⟨hsends, ?_⟩
  obtain ⟨d, hok, -⟩ := transmit_returns s.device r.motion adapter.adapterType
    (zeroPayload.set 0 1)
  rw [loop_of_sendsMotion hsends, hok, hnote]
  apply rearm_of_waiting
  -- The cooldown started in this very call.
  rintro ⟨-, hover⟩
  simp only [UInt32.sub_self] at hover
  exact absurd hover UInt32.not_lt_zero

/-- A cooling one waits for the end of the cooldown. -/
theorem loop_cooling (htransmit : adapter.transmitFnSet = true) (hworking : Working s.pir)
    (h : InPhase s.pir .cooling) (hsent : s.pir.motionSent = true) :
    sendsMotion adapter s.pir r.now = false ∧
      ∃ d', s.loop adapter r = .ok ⟨d', afterHealth
        (if 3000 < r.now - s.pir.lastTrigger then
          { s.pir with timerActive := false, motionSent := false, interruptEnabled := true }
        else s.pir) r.now⟩ := by
  have hnote : PirNode.noteMotion s.pir r.now = s.pir := by
    rw [PirNode.noteMotion, h.2.1]
    rfl
  have hquiet : sendsMotion adapter s.pir r.now = false := by
    rw [sendsMotion, hnote, hsent, Bool.not_true, Bool.and_false]
  have hcooldown : s.pir.cooldownSeconds.toUInt32 * 1000 = 3000 := by
    rw [hworking.cooldown]
    rfl
  refine ⟨hquiet, ?_⟩
  rw [loop_of_not_sendsMotion htransmit hworking.initialized hquiet, hnote]
  by_cases hover : 3000 < r.now - s.pir.lastTrigger
  · rw [if_pos hover]
    exact rearm_of_over hworking h.2.2 (by rw [hcooldown]; exact hover)
  · rw [if_neg hover]
    apply rearm_of_waiting
    rintro ⟨-, hover'⟩
    rw [hcooldown] at hover'
    exact hover hover'

end Loop

/-! ## The system -/

/-- The node, the time of its last call, the edges taken while armed and the times of the motion
frames, newest first. -/
structure State where
  node : PirNode
  clock : ℕ
  armedEdges : ℕ
  motions : List ℕ

inductive Event where
  | loop (time : ℕ) (r : PirEnv)
  | edge
  /-- Any other work of the node: it leaves the adapter alone. -/
  | other (device : Device)

def step (adapter : Adapter) (s : State) : Event → Option State
  | .loop time r =>
      if s.clock ≤ time ∧ r.now = reading time then
        match s.node.loop adapter r with
        | .error _ => none
        | .ok node =>
            some { s with
              node := node
              clock := time
              motions :=
                if sendsMotion adapter s.node.pir r.now then time :: s.motions else s.motions }
      else none
  | .edge =>
      some { s with
        node := { s.node with pir := s.node.pir.detectMotion }
        armedEdges :=
          if InPhase s.node.pir .armed then s.armedEdges + 1 else s.armedEdges }
  | .other device => some { s with node := { s.node with device := device } }

/-- The adapter was just initialised. -/
structure Start (s : State) : Prop where
  pir : s.node.pir = PirAdapter.new.init
  armedEdges : s.armedEdges = 0
  motions : s.motions = []

def system (adapter : Adapter) : System State Event where
  Init := Start
  step := step adapter

/-! ## The invariant -/

/-- How many motions were reported in each phase.  While the adapter is armed or triggered the
cooldown of the last one is over; while it is cooling `lastTrigger` is the time of the last one. -/
inductive Reported (s : State) : Prop
  | armed (hphase : InPhase s.node.pir .armed) (hcount : s.motions.length = s.armedEdges)
      (hover : ∀ t, s.motions.head? = some t → t + 3000 < s.clock)
  | triggered (hphase : InPhase s.node.pir .triggered)
      (hcount : s.motions.length + 1 = s.armedEdges)
      (hover : ∀ t, s.motions.head? = some t → t + 3000 < s.clock)
  | cooling {t : ℕ} (hphase : InPhase s.node.pir .cooling)
      (hcount : s.motions.length = s.armedEdges) (hsent : s.node.pir.motionSent = true)
      (hlast : s.motions.head? = some t) (htrigger : s.node.pir.lastTrigger = reading t)
      (hpast : t ≤ s.clock)

structure Invariant (s : State) : Prop where
  working : Working s.node.pir
  reported : Reported s
  spaced : s.motions.Pairwise fun later earlier => earlier + 3000 < later

/-- A motion later than the last one is later than all of them. -/
theorem spaced_cons {motions : List ℕ} {time : ℕ}
    (hspaced : motions.Pairwise fun later earlier => earlier + 3000 < later)
    (hover : ∀ t, motions.head? = some t → t + 3000 < time) :
    (time :: motions).Pairwise fun later earlier => earlier + 3000 < later := by
  refine List.pairwise_cons.mpr ⟨?_, hspaced⟩
  intro t ht
  cases motions with
  | nil => exact absurd ht List.not_mem_nil
  | cons last motions =>
      have hlast := hover last rfl
      rcases List.mem_cons.mp ht with rfl | ht
      · exact hlast
      · have hbefore := List.rel_of_pairwise_cons hspaced ht
        omega

/-- An armed sensor has reported nothing. -/
theorem invariant_of_start {s : State} (h : Start s) : Invariant s := by
  refine ⟨?_, .armed ?_ ?_ ?_, ?_⟩
  · rw [h.pir]
    exact ⟨rfl, rfl, rfl⟩
  · rw [h.pir]
    exact ⟨rfl, rfl, rfl⟩
  · rw [h.motions, h.armedEdges]
    rfl
  · rw [h.motions]
    intro t ht
    cases ht
  · rw [h.motions]
    exact List.Pairwise.nil

/-- What a call of the loop leaves, in every phase. -/
theorem Invariant.loop {adapter : Adapter} (htransmit : adapter.transmitFnSet = true) {s : State}
    (h : Invariant s) {time : ℕ} {r : PirEnv} (hclock : s.clock ≤ time)
    (hnow : r.now = reading time) :
    ∃ node, s.node.loop adapter r = .ok node ∧ Invariant { s with
      node := node
      clock := time
      motions :=
        if sendsMotion adapter s.node.pir r.now then time :: s.motions else s.motions } := by
  cases h.reported with
  | armed hphase hcount hover =>
      obtain ⟨hquiet, d, hok⟩ := @loop_armed adapter s.node r htransmit h.working hphase
      refine ⟨_, hok, h.working.afterHealth r.now, ?_, ?_⟩
      · rw [hquiet, if_neg Bool.false_ne_true]
        refine .armed ((afterHealth_phase _ _ _).mpr hphase) hcount ?_
        exact fun t ht => (hover t ht).trans_le hclock
      · rw [hquiet]
        exact h.spaced
  | triggered hphase hcount hover =>
      obtain ⟨hsends, d, hok⟩ := @loop_triggered adapter s.node r htransmit h.working hphase
      refine ⟨_, hok, ?_, ?_, ?_⟩
      · apply Working.afterHealth
        exact ⟨h.working.initialized, h.working.sensorInitialized, h.working.cooldown⟩
      · rw [hsends, if_pos rfl]
        refine @Reported.cooling _ time ?_ hcount ?_ rfl ?_ (Nat.le_refl _)
        · exact (afterHealth_phase _ _ _).mpr ⟨hphase.1, rfl, rfl⟩
        · rw [afterHealth_motionSent]
        · rw [afterHealth_lastTrigger, hnow]
      · rw [hsends, if_pos rfl]
        exact spaced_cons h.spaced fun t ht => (hover t ht).trans_le hclock
  | @cooling t hphase hcount hsent hlast htrigger hpast =>
      obtain ⟨hquiet, d, hok⟩ := @loop_cooling adapter s.node r htransmit h.working hphase hsent
      refine ⟨_, hok, ?_, ?_, ?_⟩
      · apply Working.afterHealth
        split
        · exact ⟨h.working.initialized, h.working.sensorInitialized, h.working.cooldown⟩
        · exact h.working
      · rw [hquiet, if_neg Bool.false_ne_true]
        by_cases hover : 3000 < r.now - s.node.pir.lastTrigger
        · rw [if_pos hover]
          refine .armed ((afterHealth_phase _ _ _).mpr ⟨rfl, hphase.2.1, rfl⟩) hcount ?_
          intro t' ht'
          obtain rfl : t = t' := Option.some.inj (hlast.symm.trans ht')
          rw [htrigger, hnow] at hover
          exact lt_of_lt (hpast.trans hclock) hover
        · rw [if_neg hover]
          refine @Reported.cooling _ t ((afterHealth_phase _ _ _).mpr hphase) hcount ?_ hlast ?_
            (hpast.trans hclock)
          · rw [afterHealth_motionSent]
            exact hsent
          · rw [afterHealth_lastTrigger]
            exact htrigger
      · rw [hquiet]
        exact h.spaced

/-- An edge triggers an armed sensor, and is not noticed by another.
SOURCE: PIR_Adapter.cpp:56-62 -/
theorem Invariant.edge {s : State} (h : Invariant s) :
    Invariant { s with
      node := { s.node with pir := s.node.pir.detectMotion }
      armedEdges :=
        if InPhase s.node.pir .armed then s.armedEdges + 1 else s.armedEdges } := by
  have hkept : ∀ phase, InPhase s.node.pir phase → phase ≠ .armed →
      Invariant { s with
        node := { s.node with pir := s.node.pir.detectMotion }
        armedEdges :=
          if InPhase s.node.pir .armed then s.armedEdges + 1 else s.armedEdges } := by
    intro phase hphase hne
    rw [detectMotion_of_not_armed hphase hne, if_neg fun harmed => hne (harmed.unique hphase)]
    exact h
  cases h.reported with
  | armed hphase hcount hover =>
      rw [detectMotion_of_armed hphase h.working.initialized, if_pos hphase]
      refine ⟨?_, .triggered ⟨rfl, rfl, hphase.2.2⟩ ?_ hover, h.spaced⟩
      · exact ⟨h.working.initialized, h.working.sensorInitialized, h.working.cooldown⟩
      · exact congrArg (· + 1) hcount
  | triggered hphase hcount hover => exact hkept .triggered hphase (by decide)
  | cooling hphase hcount hsent hlast htrigger hpast => exact hkept .cooling hphase (by decide)

/-- The invariant holds in every reachable state. -/
theorem invariant_of_reachable {adapter : Adapter} (htransmit : adapter.transmitFnSet = true)
    {s : State} (h : (system adapter).Reachable s) : Invariant s := by
  refine h.invariant ?_ ?_
  · exact fun s hs => invariant_of_start hs
  · intro s e s' hs hstep
    cases e with
    | loop time r =>
        change step adapter s (.loop time r) = some s' at hstep
        simp only [MotionReports.step, Option.ite_none_right_eq_some] at hstep
        obtain ⟨⟨hclock, hnow⟩, hstep⟩ := hstep
        obtain ⟨node, hok, hinv⟩ := hs.loop htransmit hclock hnow
        rw [hok] at hstep
        cases hstep
        exact hinv
    | edge =>
        cases hstep
        exact hs.edge
    | other device =>
        cases hstep
        refine ⟨hs.working, ?_, hs.spaced⟩
        cases hs.reported with
        | armed hphase hcount hover => exact .armed hphase hcount hover
        | triggered hphase hcount hover => exact .triggered hphase hcount hover
        | cooling hphase hcount hsent hlast htrigger hpast =>
            exact .cooling hphase hcount hsent hlast htrigger hpast

/-! ## Result -/

/-- A sensor is in one phase. -/
theorem Reported.exists_phase {s : State} (h : Reported s) :
    ∃! phase, InPhase s.node.pir phase := by
  cases h with
  | armed hphase => exact ⟨.armed, hphase, fun phase hphase' => hphase.unique hphase'⟩
  | triggered hphase => exact ⟨.triggered, hphase, fun phase hphase' => hphase.unique hphase'⟩
  | cooling hphase => exact ⟨.cooling, hphase, fun phase hphase' => hphase.unique hphase'⟩

/-- What was reported and what is still to be reported are the armed edges. -/
theorem Reported.count {s : State} (h : Reported s) :
    s.motions.length + (if InPhase s.node.pir .triggered then 1 else 0) = s.armedEdges := by
  cases h with
  | armed hphase hcount =>
      rw [if_neg fun htriggered => absurd (hphase.unique htriggered) (by decide)]
      exact hcount
  | triggered hphase hcount =>
      rw [if_pos hphase]
      exact hcount
  | cooling hphase hcount =>
      rw [if_neg fun htriggered => absurd (hphase.unique htriggered) (by decide)]
      exact hcount

/-- A call of the loop returns; it starts the cooldown of a triggered adapter, and arms a cooling
one again once more than the cooldown has passed on the clock. -/
def Rearms (adapter : Adapter) (s : State) : Prop :=
  ∀ time r, s.clock ≤ time → r.now = reading time →
    ∃ s', step adapter s (.loop time r) = some s' ∧
      (InPhase s.node.pir .triggered → InPhase s'.node.pir .cooling) ∧
      (InPhase s.node.pir .cooling → 3000 < r.now - s.node.pir.lastTrigger →
        InPhase s'.node.pir .armed)

/-- A quiet sensor is armed again after its pause. -/
theorem Invariant.rearms {adapter : Adapter} (htransmit : adapter.transmitFnSet = true)
    {s : State} (h : Invariant s) : Rearms adapter s := by
  intro time r hclock hnow
  obtain ⟨node, hok, -⟩ := h.loop htransmit hclock hnow
  have hstep : step adapter s (.loop time r) = some { s with
      node := node
      clock := time
      motions :=
        if sendsMotion adapter s.node.pir r.now then time :: s.motions else s.motions } := by
    rw [MotionReports.step, if_pos ⟨hclock, hnow⟩, hok]
  refine ⟨_, hstep, ?_, ?_⟩
  · intro htriggered
    obtain ⟨-, d, hok'⟩ := @loop_triggered adapter s.node r htransmit h.working htriggered
    cases hok.symm.trans hok'
    exact (afterHealth_phase _ _ _).mpr ⟨htriggered.1, rfl, rfl⟩
  · intro hcooling hover
    cases h.reported with
    | armed hphase => exact absurd (hcooling.unique hphase) (by decide)
    | triggered hphase => exact absurd (hcooling.unique hphase) (by decide)
    | cooling hphase hcount hsent =>
        obtain ⟨-, d, hok'⟩ := @loop_cooling adapter s.node r htransmit h.working hcooling hsent
        rw [if_pos hover] at hok'
        cases hok.symm.trans hok'
        exact (afterHealth_phase _ _ _).mpr ⟨rfl, hcooling.2.1, rfl⟩

/-- A call that counts a motion hands the frame `[1]` to the mesh, before all else; one that counts
none goes on to the cooldown at once.
SOURCE: PIR_Adapter.cpp:90-102 -/
def Transmits (adapter : Adapter) (s : State) : Prop :=
  ∀ time r s', step adapter s (.loop time r) = some s' →
    (s'.motions = time :: s.motions ∧ s.node.loop adapter r =
      (s.node.device.transmit r.motion adapter.adapterType (zeroPayload.set 0 1 byte0_lt)).bind
        fun d => PirNode.rearm adapter
          ⟨d, { PirNode.noteMotion s.node.pir r.now with motionSent := true }⟩ r) ∨
    (s'.motions = s.motions ∧ s.node.loop adapter r =
      PirNode.rearm adapter ⟨s.node.device, PirNode.noteMotion s.node.pir r.now⟩ r)

/-- A motion that is counted is one that was transmitted. -/
theorem Invariant.transmits {adapter : Adapter} (htransmit : adapter.transmitFnSet = true)
    {s : State} (h : Invariant s) : Transmits adapter s := by
  intro time r s' hstep
  simp only [MotionReports.step, Option.ite_none_right_eq_some] at hstep
  obtain ⟨⟨hclock, hnow⟩, hstep⟩ := hstep
  obtain ⟨node, hok, -⟩ := h.loop htransmit hclock hnow
  rw [hok, Option.some.injEq] at hstep
  subst hstep
  by_cases hsends : sendsMotion adapter s.node.pir r.now = true
  · exact .inl ⟨if_pos hsends, loop_of_sendsMotion hsends⟩
  · have hquiet : sendsMotion adapter s.node.pir r.now = false := Bool.eq_false_iff.mpr hsends
    exact .inr ⟨if_neg hsends, loop_of_not_sendsMotion htransmit h.working.initialized hquiet⟩

/-- **Every motion that meets the armed sensor is reported once, and the sensor is armed again.**
In every reachable state the adapter is in exactly one phase, as many motion frames were sent as
edges taken while armed, but for the one pending; further edges change nothing, two frames are
more than the cooldown apart, and a disarmed sensor is triggered or cooling.  The frames counted
are those the loop transmits.
SOURCE: PIR_Adapter.cpp:24-62, 84-122, Pir.cpp:8-38 -/
theorem motion_reported_once {adapter : Adapter} (htransmit : adapter.transmitFnSet = true)
    {s : State} (h : (system adapter).Reachable s) :
    (∃! phase, InPhase s.node.pir phase) ∧
      s.motions.length + (if InPhase s.node.pir .triggered then 1 else 0) = s.armedEdges ∧
      (¬InPhase s.node.pir .armed → s.node.pir.detectMotion = s.node.pir) ∧
      (s.motions.Pairwise fun later earlier => earlier + 3000 < later) ∧
      (s.node.pir.interruptEnabled = false →
        s.node.pir.motionDetected = true ∨ s.node.pir.timerActive = true) ∧
      Rearms adapter s ∧ Transmits adapter s := by
  have hinv := invariant_of_reachable htransmit h
  obtain ⟨phase, hphase, hunique⟩ := hinv.reported.exists_phase
  refine ⟨⟨phase, hphase, hunique⟩, hinv.reported.count, ?_, hinv.spaced, ?_,
    hinv.rearms htransmit, hinv.transmits htransmit⟩
  · intro hnot
    refine detectMotion_of_not_armed hphase ?_
    rintro rfl
    exact hnot hphase
  · intro hdisarmed
    cases phase with
    | armed =>
        rw [hphase.1] at hdisarmed
        cases hdisarmed
    | triggered => exact .inl hphase.2.1
    | cooling => exact .inr hphase.2.2

/-! ## Two motions -/

/-- A node that has just set up its sensor. -/
def freshNode : State where
  node :=
    { device :=
        { mesh := Mesh.new
          eeprom := EepromManager.powerUp blankImage
          adapter := some pirAdapter
          factoryDevMode := false
          wifiMac := Vector.replicate 6 2
          serialOut := []
          sent := [] }
      pir := PirAdapter.new.init }
  clock := 0
  armedEdges := 0
  motions := []

/-- A call of the loop at a time. -/
def loopAt (time : ℕ) : Event := .loop time ⟨reading time, quietEnv, quietEnv⟩

/-- Two motions, and one edge that comes during the cooldown. -/
def twoMotions : List Event :=
  [.edge, loopAt 100, .edge, loopAt 3100, loopAt 3101, .edge, loopAt 3200, loopAt 3300]

/-- The sensor is armed again after 3001 ms, and two motions are reported. -/
theorem motion_reported_once_twice :
    ∃ s, (system pirAdapter).runFrom freshNode twoMotions = some s ∧ s.motions = [3200, 100] ∧
      s.armedEdges = 2 ∧ (∃! phase, InPhase s.node.pir phase) ∧
      s.motions.length + (if InPhase s.node.pir .triggered then 1 else 0) = s.armedEdges ∧
      (¬InPhase s.node.pir .armed → s.node.pir.detectMotion = s.node.pir) ∧
      (s.motions.Pairwise fun later earlier => earlier + 3000 < later) ∧
      (s.node.pir.interruptEnabled = false →
        s.node.pir.motionDetected = true ∨ s.node.pir.timerActive = true) ∧
      Rearms pirAdapter s ∧ Transmits pirAdapter s := by
  have hrun : ∃ s, (system pirAdapter).runFrom freshNode twoMotions = some s ∧
      s.motions = [3200, 100] ∧ s.armedEdges = 2 := ⟨_, rfl, rfl, rfl⟩
  obtain ⟨s, hrun, hmotions, hedges⟩ := hrun
  have hstart : (system pirAdapter).Init freshNode := ⟨rfl, rfl, rfl⟩
  have hreach := System.Reachable.runFrom (.init hstart) hrun
  exact ⟨s, hrun, hmotions, hedges, motion_reported_once rfl hreach⟩

end MotionReports

end LatticeNodes.Analysis
