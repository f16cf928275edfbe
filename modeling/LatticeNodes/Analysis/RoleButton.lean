import LatticeNodes.Analysis.MeshNetwork
import LatticeNodes.Analysis.RoleFrames
import LatticeNodes.Library.HoldTimer
import LatticeNodes.Library.TransitionSystem

/-!
# The role button

The passes of a booted node in any state, at clock readings that do not go back.  The look at the
config button is a hold timer (`pollConfigButton_holds`) that only runs while the enrollment gate
is open, and begins again after each hold.  `togglesOnce_iff` says which presses toggle the role
as they should: the short ones, and those whose looks behind an open gate span five seconds once
and not twice.
-/

set_option autoImplicit false

namespace LatticeNodes.Analysis

open LatticeNodes.Program TransitionSystem

namespace RoleButton

/-! ## The system -/

/-- A sample of the config button: whether the pass came to the code of the button, and whether
that code toggled the role. -/
structure Look where
  isPressed : Bool
  time : ℕ
  isOpen : Bool
  toggled : Bool

/-- The sketch of a running node, the last reading of its clock, and the samples so far, oldest
first. -/
structure State where
  sketch : Sketch
  running : Bool
  clock : UInt32
  looks : List Look

inductive Event where
  | work (w : Work)
  | pass (r : Sketch.LoopEnv)

/-- The live role in development mode, the saved one in production.
SOURCE: main.ino:377-386 -/
def role (s : Sketch) : Bool :=
  if s.isDevMode then s.device.mesh.isMaster else s.device.eeprom.loadMasterFlag

/-- The role that the look leaves, for the next boot when it restarts. -/
def roleAfter : Except Restart Sketch → Bool
  | .ok s => role s
  | .error restart => restart.device.eeprom.loadMasterFlag

def toggles (s : Sketch) (b : Sketch.ButtonEnv) : Bool :=
  roleAfter (s.pollConfigButton b) != role s

/-- The samples of a pass: none when the node restarts ahead of the button. -/
def lookOf (tls : Mbedtls) (s : Sketch) (r : Sketch.LoopEnv) : List Look :=
  if gateOpen s then
    match beforeButtons tls s r with
    | .error _ => []
    | .ok s₁ => [⟨r.configButton.isPressed, r.configButton.millis.toNat, true,
        toggles s₁ r.configButton⟩]
  else [⟨r.configButton.isPressed, r.configButton.millis.toNat, false, false⟩]

/-- A restart ends the run. -/
def State.conclude (s : State) : Except Restart Sketch → State
  | .ok sketch => { s with sketch := sketch }
  | .error _ => { s with running := false }

/-- SOURCE: main.ino:298-434 -/
def step (tls : Mbedtls) (s : State) : Event → Option State
  | .work w => if s.running then some (s.conclude (w.run s.sketch)) else none
  | .pass r =>
      if s.running ∧ s.clock ≤ r.configButton.millis then
        some { s.conclude (s.sketch.afterMesh tls r) with
          clock := r.configButton.millis
          looks := s.looks ++ lookOf tls s.sketch r }
      else none

/-- The node as `setup()` leaves it. -/
structure Start (s : State) : Prop where
  started : ∃ d adapter, s.sketch = Sketch.started d adapter ∧ d.eeprom.isInitialized = true
  running : s.running = true
  looks : s.looks = []

/-- Every node that `setup()` returns on is one. -/
theorem start_of_setup {tls : Mbedtls} {d : Device} {r : Sketch.BootEnv} {sketch : Sketch}
    (h : Sketch.setup tls d r = .ready sketch) (clock : UInt32) : Start ⟨sketch, true, clock, []⟩ :=
  ⟨setup_initialized h, rfl, rfl⟩

def system (tls : Mbedtls) : System State Event where
  Init := Start
  step := step tls

/-! ## Statement -/

abbrev holdTime : ℕ := Config.buttonHoldTimeMs.toNat

/-- A maximal uninterrupted press. -/
def IsPress (looks press : List Look) : Prop :=
  ∃ before after, looks = before ++ press ++ after ∧ (∀ l ∈ press, l.isPressed = true) ∧
    (∀ l, before.getLast? = some l → l.isPressed = false) ∧
    ∀ l, after.head? = some l → l.isPressed = false

/-- The times of a press. -/
def times (press : List Look) : List ℕ := press.map Look.time

/-- The times at which the code of the button runs. -/
def visible (press : List Look) : List ℕ := times (press.filter Look.isOpen)

/-- A press of five seconds toggles the role exactly once, a shorter one never. -/
def TogglesOnce (press : List Look) : Prop :=
  (holdTime ≤ HoldTimer.span (times press) → press.countP Look.toggled = 1) ∧
    (HoldTimer.span (times press) < holdTime → press.countP Look.toggled = 0)

/-- The press is short; or it is five seconds long behind an open gate, and what is left of it
after the first five seconds is short. -/
def Clean (press : List Look) : Prop :=
  HoldTimer.span (times press) < holdTime ∨
    (holdTime ≤ HoldTimer.span (visible press) ∧
      HoldTimer.span (HoldTimer.rest holdTime (visible press)) < holdTime)

/-! ## One look -/

/-- Where the hold began, if there is one. -/
def heldOf (s : Sketch) : Option ℕ :=
  if s.buttonWasPressed then some s.holdStart.toNat else none

/-- The hold after a sample. -/
def advance (held : Option ℕ) (l : Look) : Option ℕ :=
  if l.isOpen then (if l.isPressed then HoldTimer.sample holdTime held l.time else none) else held

/-- The saved role can be toggled.
SOURCE: main.ino:172-180, 238-268 -/
structure Ready (s : Sketch) : Prop where
  isInitialized : s.device.eeprom.isInitialized = true
  isDevMode : s.device.eeprom.isDevMode = s.isDevMode

section Look

variable {s s' : Sketch} {b : Sketch.ButtonEnv}

/-- Work that keeps the buttons and the role keeps a sketch ready. -/
theorem Ready.kept (h : Ready s) (hbuttons : ButtonsKept s s')
    (hrole : RoleKept s.device s'.device) : Ready s' where
  isInitialized := hrole.eeprom.isInitialized.trans h.isInitialized
  isDevMode := by
    rw [hrole.eeprom.isDevMode, h.isDevMode, hbuttons.isDevMode]

/-- Work that keeps the buttons keeps what the config button has held. -/
theorem ButtonsKept.heldOf (h : ButtonsKept s s') : RoleButton.heldOf s' = RoleButton.heldOf s := by
  rw [RoleButton.heldOf, RoleButton.heldOf, h.buttonWasPressed, h.holdStart]

/-- The saved role of a production node is toggled.
SOURCE: main.ino:383-393, EEPROM_Manager.cpp:188-205 -/
theorem configButtonHeld_role (h : Ready s) (hmode : s.isDevMode = false) (millis : UInt32) :
    roleAfter (s.resume (s.device.configButtonHeld millis)) = !s.device.eeprom.loadMasterFlag := by
  have hproduction : EepromFields.Production s.device.eeprom :=
    ⟨h.isInitialized, h.isDevMode.trans hmode⟩
  have hread := EepromFields.run_read hproduction
    (c := .masterFlag (!s.device.eeprom.loadMasterFlag)) trivial
  have hsaved := hproduction.run (.masterFlag (!s.device.eeprom.loadMasterFlag))
  show (EepromManager.forceFlush (SaveCall.run s.device.eeprom
    (.masterFlag (!s.device.eeprom.loadMasterFlag))) millis).loadMasterFlag = _
  generalize SaveCall.run s.device.eeprom (.masterFlag (!s.device.eeprom.loadMasterFlag)) = em
    at hread hsaved ⊢
  have hloaded : em.loadMasterFlag = !s.device.eeprom.loadMasterFlag := by
    rw [EepromManager.loadMasterFlag, hsaved.isInitialized, hread]
    cases s.device.eeprom.loadMasterFlag with
    | true => rfl
    | false => rfl
  rw [← hloaded]
  unfold EepromManager.forceFlush
  split
  · rfl
  · rw [EepromManager.loadMasterFlag, EepromManager.loadMasterFlag, EepromManager.read,
      EepromManager.read]
    show (em.isInitialized && EepromManager.readByte em.memory.commit.cache _ == 1) = _
    rw [CachedMemory.Memory.commit_cache]

/-- What a look leaves: the hold goes on as the timer says, and the device is as before unless
the hold is over. -/
structure Polled (s : Sketch) (b : Sketch.ButtonEnv) (s' : Sketch) : Prop where
  ready : Ready s'
  held : heldOf s' =
    if b.isPressed then HoldTimer.sample holdTime (heldOf s) b.millis.toNat else none
  device : s'.buttonWasPressed = true → s'.device = s.device

/-- A look toggles when the role has changed. -/
theorem toggles_of_ok (h : s.pollConfigButton b = .ok s') : toggles s b = (role s' != role s) := by
  rw [toggles, h]
  rfl

/-- A look that leaves the device alone toggles nothing. -/
theorem not_toggles_of_device (h : s.pollConfigButton b = .ok s') (hdevice : s'.device = s.device)
    (hmode : s'.isDevMode = s.isDevMode) : toggles s b = false := by
  rw [toggles_of_ok h, role, role, hdevice, hmode, bne_self_eq_false]

/-- A released button is noted.
SOURCE: main.ino:371-397 -/
theorem pollConfigButton_released (h : b.isPressed = false) :
    s.pollConfigButton b = .ok { s with buttonWasPressed := false } := by
  rw [Sketch.pollConfigButton, h]
  rfl

/-- The start of a press is noted with its time.
SOURCE: main.ino:371-397 -/
theorem pollConfigButton_started (h : b.isPressed = true) (hwas : s.buttonWasPressed = false) :
    s.pollConfigButton b = .ok { s with buttonWasPressed := true, holdStart := b.millis } := by
  rw [Sketch.pollConfigButton, h, hwas]
  rfl

section Held

variable (h : b.isPressed = true) (hwas : s.buttonWasPressed = true)

include h hwas

/-- Before the hold time nothing happens.
SOURCE: main.ino:371-397 -/
theorem pollConfigButton_early (hearly : b.millis - s.holdStart < Config.buttonHoldTimeMs) :
    s.pollConfigButton b = .ok s := by
  simp [Sketch.pollConfigButton, h, hwas, hearly]

/-- The hold is over: in development mode the live role is toggled.
SOURCE: main.ino:375-382 -/
theorem pollConfigButton_dev (hlate : ¬b.millis - s.holdStart < Config.buttonHoldTimeMs)
    (hmode : s.isDevMode = true) :
    s.pollConfigButton b = .ok { s with
      buttonWasPressed := false
      device := { s.device with mesh :=
        { s.device.mesh with isMaster := !s.device.mesh.isMaster } } } := by
  simp [Sketch.pollConfigButton, h, hwas, hlate, hmode]

/-- In production the saved one, and the node restarts.
SOURCE: main.ino:383-393 -/
theorem pollConfigButton_production (hlate : ¬b.millis - s.holdStart < Config.buttonHoldTimeMs)
    (hmode : s.isDevMode = false) :
    s.pollConfigButton b = s.resume (s.device.configButtonHeld b.flushMillis) := by
  simp [Sketch.pollConfigButton, h, hwas, hlate, hmode]

end Held

/-- The elapsed time, when the clock has not gone back. -/
theorem lt_holdTime_iff (hstart : s.holdStart ≤ b.millis) :
    b.millis - s.holdStart < Config.buttonHoldTimeMs ↔
      b.millis.toNat - s.holdStart.toNat < holdTime := by
  rw [UInt32.lt_iff_toNat_lt, UInt32.toNat_sub_of_le _ _ hstart]

/-- A released button holds nothing. -/
theorem heldOf_of_released (h : s.buttonWasPressed = false) : heldOf s = none := by
  rw [heldOf, h]
  rfl

/-- A held one holds since its start. -/
theorem heldOf_of_held (h : s.buttonWasPressed = true) : heldOf s = some s.holdStart.toNat := by
  rw [heldOf, h]
  rfl

/-- A look at a released button toggles nothing. -/
theorem pollConfigButton_holds_released (h : Ready s) (hpressed : b.isPressed = false) :
    toggles s b = false ∧ ∀ s', s.pollConfigButton b = .ok s' → Polled s b s' := by
  have hpoll := pollConfigButton_released (s := s) hpressed
  refine ⟨not_toggles_of_device hpoll rfl rfl, fun s' hok => ?_⟩
  cases hpoll.symm.trans hok
  refine ⟨⟨h.isInitialized, h.isDevMode⟩, ?_, fun hheld => Bool.noConfusion hheld⟩
  rw [hpressed]
  rfl

/-- The first look at a press toggles nothing. -/
theorem pollConfigButton_holds_started (h : Ready s) (hpressed : b.isPressed = true)
    (hwas : s.buttonWasPressed = false) :
    toggles s b = false ∧ ∀ s', s.pollConfigButton b = .ok s' → Polled s b s' := by
  have hpoll := pollConfigButton_started hpressed hwas
  refine ⟨not_toggles_of_device hpoll rfl rfl, fun s' hok => ?_⟩
  cases hpoll.symm.trans hok
  refine ⟨⟨h.isInitialized, h.isDevMode⟩, ?_, fun _ => rfl⟩
  rw [hpressed, heldOf_of_released hwas]
  rfl

/-- The end of a hold toggles, in either mode; until then nothing happens. -/
theorem pollConfigButton_holds_held (h : Ready s) (hpressed : b.isPressed = true)
    (hwas : s.buttonWasPressed = true) (hstart : s.holdStart ≤ b.millis) :
    toggles s b = HoldTimer.fires holdTime (heldOf s) b.millis.toNat ∧
      ∀ s', s.pollConfigButton b = .ok s' → Polled s b s' := by
  have hsome := heldOf_of_held hwas
  have hiff := lt_holdTime_iff hstart
  rw [hsome, HoldTimer.fires]
  by_cases hspan : b.millis.toNat - s.holdStart.toNat < holdTime
  · have hpoll := pollConfigButton_early hpressed hwas (hiff.mpr hspan)
    refine ⟨?_, fun s' hok => ?_⟩
    · rw [not_toggles_of_device hpoll rfl rfl, eq_comm, decide_eq_false_iff_not]
      omega
    · cases hpoll.symm.trans hok
      refine ⟨h, ?_, fun _ => rfl⟩
      rw [hpressed, hsome, HoldTimer.sample, if_pos hspan]
      rfl
  · have hlate := fun hearly => hspan (hiff.mp hearly)
    rw [decide_eq_true (Nat.not_lt.mp hspan)]
    cases hmode : s.isDevMode with
    | true =>
        have hpoll := pollConfigButton_dev hpressed hwas hlate hmode
        refine ⟨?_, fun s' hok => ?_⟩
        · rw [toggles_of_ok hpoll, role, role, if_pos hmode, if_pos hmode]
          cases s.device.mesh.isMaster with
          | true => rfl
          | false => rfl
        · cases hpoll.symm.trans hok
          refine ⟨⟨h.isInitialized, h.isDevMode⟩, ?_, fun hheld => Bool.noConfusion hheld⟩
          rw [hpressed, hsome, HoldTimer.sample, if_neg hspan]
          rfl
    | false =>
        have hpoll := pollConfigButton_production hpressed hwas hlate hmode
        refine ⟨?_, fun s' hok => ?_⟩
        · rw [toggles, hpoll, configButtonHeld_role h hmode, role, hmode]
          cases s.device.eeprom.loadMasterFlag with
          | true => rfl
          | false => rfl
        · cases hpoll.symm.trans hok

/-- **The config button is a hold timer.**
SOURCE: main.ino:371-397 -/
theorem pollConfigButton_holds (h : Ready s)
    (hstart : s.buttonWasPressed = true → s.holdStart ≤ b.millis) :
    toggles s b = (b.isPressed && HoldTimer.fires holdTime (heldOf s) b.millis.toNat) ∧
      ∀ s', s.pollConfigButton b = .ok s' → Polled s b s' := by
  cases hpressed : b.isPressed with
  | false => exact pollConfigButton_holds_released h hpressed
  | true =>
      cases hwas : s.buttonWasPressed with
      | false =>
          rw [heldOf_of_released hwas]
          exact pollConfigButton_holds_started h hpressed hwas
      | true => exact pollConfigButton_holds_held h hpressed hwas (hstart hwas)

/-- A look at the other button that returns leaves the device alone.
SOURCE: main.ino:402-430 -/
theorem pollResetButton_kept (h : s.pollResetButton b = .ok s') :
    s'.device = s.device ∧ s'.isDevMode = s.isDevMode ∧
      s'.buttonWasPressed = s.buttonWasPressed ∧ s'.holdStart = s.holdStart := by
  unfold Sketch.pollResetButton at h
  split at h
  · cases h
    exact ⟨rfl, rfl, rfl, rfl⟩
  · split at h
    · cases h
      exact ⟨rfl, rfl, rfl, rfl⟩
    · split at h
      · cases h
        exact ⟨rfl, rfl, rfl, rfl⟩
      · split at h
        · cases h
          exact ⟨rfl, rfl, rfl, rfl⟩
        · split at h
          · cases h
          · cases h
            exact ⟨rfl, rfl, rfl, rfl⟩

end Look

/-! ## The invariant -/

/-- What a log says about its samples, from a hold on. -/
def Logged (held : Option ℕ) : List Look → Prop
  | [] => True
  | l :: looks =>
      l.toggled = (l.isOpen && l.isPressed && HoldTimer.fires holdTime held l.time) ∧
        (l.isOpen = false → held = none) ∧ Logged (advance held l) looks

/-- A log is right piece by piece. -/
theorem logged_append {held : Option ℕ} {xs ys : List Look} :
    Logged held (xs ++ ys) ↔ Logged held xs ∧ Logged (xs.foldl advance held) ys := by
  induction xs generalizing held with
  | nil => simp only [List.nil_append, Logged, List.foldl_nil, true_and]
  | cons l xs ih =>
      rw [List.cons_append, Logged, Logged, ih, List.foldl_cons]
      constructor
      · rintro ⟨htoggled, hclosed, hxs, hys⟩
        exact ⟨⟨htoggled, hclosed, hxs⟩, hys⟩
      · rintro ⟨⟨htoggled, hclosed, hxs⟩, hys⟩
        exact ⟨htoggled, hclosed, hxs, hys⟩

/-- The hold of a running node is the one of its log, and goes on behind an open gate only. -/
structure Running (sketch : Sketch) (clock : UInt32) (looks : List Look) : Prop where
  ready : Ready sketch
  held : heldOf sketch = looks.foldl advance none
  start : sketch.buttonWasPressed = true → sketch.holdStart ≤ clock
  gate : sketch.buttonWasPressed = true → gateOpen sketch = true

structure Inv (s : State) : Prop where
  running : s.running = true → Running s.sketch s.clock s.looks
  logged : Logged none s.looks
  ordered : (times s.looks).Pairwise (· ≤ ·)
  past : ∀ l ∈ s.looks, l.time ≤ s.clock.toNat

/-- At the start no look was taken. -/
theorem Start.inv {s : State} (h : Start s) : Inv s := by
  obtain ⟨d, adapter, hsketch, hinit⟩ := h.started
  constructor
  · intro _
    rw [hsketch, h.looks]
    exact ⟨⟨hinit, rfl⟩, rfl, fun hpressed => Bool.noConfusion hpressed,
      fun hpressed => Bool.noConfusion hpressed⟩
  · rw [h.looks]
    exact trivial
  · rw [h.looks]
    exact List.Pairwise.nil
  · rw [h.looks]
    exact fun l hl => absurd hl List.not_mem_nil

section Steps

variable {tls : Mbedtls} {s : State} {sketch sketch' : Sketch} {clock now : UInt32}
  {looks : List Look}

/-- A part of the loop that leaves the button alone. -/
theorem Running.kept (h : Running sketch clock looks) (hbuttons : ButtonsKept sketch sketch')
    (hrole : RoleKept sketch.device sketch'.device) : Running sketch' clock looks where
  ready := h.ready.kept hbuttons hrole
  held := (ButtonsKept.heldOf hbuttons).trans h.held
  start := by
    rw [hbuttons.buttonWasPressed, hbuttons.holdStart]
    exact h.start
  gate := by
    rw [hbuttons.buttonWasPressed]
    exact fun hpressed => hrole.gateOpen (h.gate hpressed)

/-- Time may pass. -/
theorem Running.later (h : Running sketch clock looks) (hnow : clock ≤ now) :
    Running sketch now looks :=
  ⟨h.ready, h.held, fun hpressed => UInt32.le_trans (h.start hpressed) hnow, h.gate⟩

/-- Behind a closed gate no hold goes on. -/
theorem Running.none_of_closed (h : Running sketch clock looks)
    (hclosed : gateOpen sketch = false) : looks.foldl advance none = none := by
  rw [← h.held, heldOf]
  cases hpressed : sketch.buttonWasPressed with
  | false => rfl
  | true =>
      have hopen := h.gate hpressed
      rw [hclosed] at hopen
      cases hopen

/-- A sample that the code of the button does not see. -/
theorem Running.closed (h : Running sketch clock looks) {l : Look} (hl : l.isOpen = false) :
    Running sketch clock (looks ++ [l]) := by
  refine ⟨h.ready, ?_, h.start, h.gate⟩
  rw [List.foldl_append, List.foldl_cons, List.foldl_nil, advance, hl]
  exact h.held

/-- **A look at the button carries the hold on.** -/
theorem Running.polled (h : Running sketch clock looks) (hopen : gateOpen sketch = true)
    {b : Sketch.ButtonEnv} (hnow : clock ≤ b.millis) (hpoll : Polled sketch b sketch') {l : Look}
    {toggled : Bool} (hl : l = ⟨b.isPressed, b.millis.toNat, true, toggled⟩) :
    Running sketch' b.millis (looks ++ [l]) := by
  refine ⟨hpoll.ready, ?_, fun hpressed => ?_, fun hpressed => ?_⟩
  · rw [List.foldl_append, List.foldl_cons, List.foldl_nil, hl, advance, ← h.held]
    exact hpoll.held
  · have hheld := hpoll.held
    rw [heldOf, if_pos hpressed] at hheld
    rw [UInt32.le_iff_toNat_le]
    cases hdown : b.isPressed with
    | false =>
        rw [hdown] at hheld
        cases hheld
    | true =>
        rw [hdown, if_pos rfl, heldOf] at hheld
        cases hwas : sketch.buttonWasPressed with
        | false =>
            rw [hwas] at hheld
            exact Nat.le_of_eq (Option.some.inj hheld)
        | true =>
            have hstart := UInt32.le_iff_toNat_le.mp (UInt32.le_trans (h.start hwas) hnow)
            simp only [hwas, if_true, HoldTimer.sample] at hheld
            split at hheld
            · rw [Option.some.inj hheld]
              exact hstart
            · cases hheld
  · rw [gateOpen, Device.isEnrolled, hpoll.device hpressed]
    exact hopen

/-- The other button may be polled.
SOURCE: main.ino:402-430 -/
theorem Running.otherButton (h : Running sketch clock looks) {b : Sketch.ButtonEnv}
    (hpoll : sketch.pollResetButton b = .ok sketch') : Running sketch' clock looks := by
  obtain ⟨hdevice, hmode, hpressed, hstart⟩ := pollResetButton_kept hpoll
  constructor
  · refine ⟨?_, ?_⟩
    · rw [hdevice]
      exact h.ready.isInitialized
    · rw [hdevice, hmode]
      exact h.ready.isDevMode
  · rw [heldOf, hpressed, hstart]
    exact h.held
  · rw [hpressed, hstart]
    exact h.start
  · rw [hpressed, gateOpen, Device.isEnrolled, hdevice]
    exact h.gate

/-- The log with one more sample. -/
theorem Inv.snoc (h : Inv s) {s' : State} {l : Look} (hnow : s.clock.toNat ≤ l.time)
    (hlogged : Logged (s.looks.foldl advance none) [l]) (hlooks : s'.looks = s.looks ++ [l])
    (hclock : s'.clock.toNat = l.time)
    (hrunning : s'.running = true → Running s'.sketch s'.clock s'.looks) : Inv s' := by
  refine ⟨hrunning, ?_, ?_, fun l' hl' => ?_⟩
  · rw [hlooks]
    exact logged_append.mpr ⟨h.logged, hlogged⟩
  · rw [hlooks, times, List.map_append]
    refine List.pairwise_append.mpr ⟨h.ordered, List.pairwise_singleton _ _, ?_⟩
    intro t ht u hu
    obtain ⟨l', hl', rfl⟩ := List.mem_map.mp ht
    rw [List.map_singleton, List.mem_singleton] at hu
    rw [hu]
    exact (h.past l' hl').trans hnow
  · rw [hlooks] at hl'
    rw [hclock]
    rcases List.mem_append.mp hl' with hl' | hl'
    · exact (h.past l' hl').trans hnow
    · rw [List.mem_singleton.mp hl']

/-- A pass that does not come to the button.
SOURCE: main.ino:348-357 -/
theorem Inv.passClosed (h : Inv s) {r : Sketch.LoopEnv} (hrunning : s.running = true)
    (hnow : s.clock ≤ r.configButton.millis) (hclosed : gateOpen s.sketch = false) :
    Inv { s.conclude (s.sketch.afterMesh tls r) with
      clock := r.configButton.millis
      looks := s.looks ++ lookOf tls s.sketch r } := by
  have hlook : lookOf tls s.sketch r =
      [⟨r.configButton.isPressed, r.configButton.millis.toNat, false, false⟩] := by
    rw [lookOf, hclosed]
    rfl
  rw [afterMesh_of_closed hclosed, hlook]
  have hbefore := h.running hrunning
  refine h.snoc (UInt32.le_iff_toNat_le.mp hnow)
    ⟨rfl, fun _ => hbefore.none_of_closed hclosed, trivial⟩ rfl rfl fun hrun => ?_
  cases hrequest : (timeoutChecked s.sketch r).requestEnrollment r with
  | error restart =>
      rw [hrequest] at hrun
      cases hrun
  | ok sketch' =>
      have hchecked : ButtonsKept s.sketch (timeoutChecked s.sketch r) :=
        ⟨rfl, rfl, rfl, rfl, rfl, rfl, rfl⟩
      exact ((hbefore.kept (hchecked.trans (requestEnrollment_buttons hrequest))
        (requestEnrollment_roleKept hrequest)).later hnow).closed rfl

/-- A pass that does.
SOURCE: main.ino:359-430 -/
theorem Inv.passOpen (h : Inv s) {r : Sketch.LoopEnv} (hrunning : s.running = true)
    (hnow : s.clock ≤ r.configButton.millis) (hopen : gateOpen s.sketch = true) :
    Inv { s.conclude (s.sketch.afterMesh tls r) with
      clock := r.configButton.millis
      looks := s.looks ++ lookOf tls s.sketch r } := by
  have hnowNat : s.clock.toNat ≤ r.configButton.millis.toNat := UInt32.le_iff_toNat_le.mp hnow
  rw [afterMesh_of_open hopen, lookOf, if_pos hopen]
  cases hbefore : beforeButtons tls s.sketch r with
  | error restart =>
      refine ⟨fun hrun => Bool.noConfusion hrun, ?_, ?_, ?_⟩
      · rw [List.append_nil]
        exact h.logged
      · rw [List.append_nil]
        exact h.ordered
      · rw [List.append_nil]
        exact fun l hl => (h.past l hl).trans hnowNat
  | ok s₁ =>
      have hrole := beforeButtons_roleKept hbefore
      have hrun₁ := (h.running hrunning).kept (beforeButtons_buttons hbefore) hrole
      obtain ⟨htoggles, hpolled⟩ := pollConfigButton_holds (b := r.configButton) hrun₁.ready
        fun hpressed => UInt32.le_trans (hrun₁.start hpressed) hnow
      refine h.snoc hnowNat ⟨?_, fun hclosed => Bool.noConfusion hclosed, trivial⟩ rfl rfl
        fun hrun => ?_
      · rw [← hrun₁.held]
        exact htoggles
      · cases hconfig : s₁.pollConfigButton r.configButton with
        | error restart =>
            simp only [Except.bind, hconfig] at hrun
            cases hrun
        | ok s₂ =>
            have hrun₂ : Running s₂ r.configButton.millis (s.looks ++
                [⟨r.configButton.isPressed, r.configButton.millis.toNat, true,
                  toggles s₁ r.configButton⟩]) :=
              hrun₁.polled (hrole.gateOpen hopen) hnow (hpolled s₂ hconfig) rfl
            cases hreset : s₂.pollResetButton r.resetButton with
            | error restart =>
                simp only [Except.bind, hconfig, hreset] at hrun
                cases hrun
            | ok s₃ =>
                simp only [Except.bind, hconfig, hreset]
                exact hrun₂.otherButton hreset

/-- The invariant holds in every reachable state. -/
theorem inv_of_reachable (h : (system tls).Reachable s) : Inv s := by
  refine h.invariant ?_ ?_
  · exact fun s hs => hs.inv
  intro s e s' hs hstep
  cases e with
  | work w =>
      change step tls s (.work w) = some s' at hstep
      simp only [RoleButton.step, Option.ite_none_right_eq_some, Option.some.injEq] at hstep
      obtain ⟨hrunning, rfl⟩ := hstep
      cases hwork : w.run s.sketch with
      | error restart => exact ⟨fun hrun => Bool.noConfusion hrun, hs.logged, hs.ordered, hs.past⟩
      | ok sketch =>
          have hkept := (hs.running hrunning).kept (Work.run_buttons hwork)
            (Work.run_roleKept hwork)
          exact ⟨fun _ => hkept, hs.logged, hs.ordered, hs.past⟩
  | pass r =>
      change step tls s (.pass r) = some s' at hstep
      simp only [RoleButton.step, Option.ite_none_right_eq_some, Option.some.injEq] at hstep
      obtain ⟨⟨hrunning, hnow⟩, rfl⟩ := hstep
      cases hgate : gateOpen s.sketch with
      | false => exact hs.passClosed hrunning hnow hgate
      | true => exact hs.passOpen hrunning hnow hgate

end Steps

/-! ## One press -/

section Press

variable {press : List Look}

/-- A press starts without a hold. -/
theorem foldl_advance_eq_none {looks : List Look} (hlogged : Logged none looks)
    (hreleased : ∀ l, looks.getLast? = some l → l.isPressed = false) :
    looks.foldl advance none = none := by
  rcases List.eq_nil_or_concat looks with rfl | ⟨before, l, rfl⟩
  · rfl
  · have hup := hreleased l (by simp)
    rw [List.concat_eq_append] at hlogged ⊢
    obtain ⟨-, -, hclosed, -⟩ := logged_append.mp hlogged
    rw [List.foldl_append, List.foldl_cons, List.foldl_nil, advance, hup]
    cases hopen : l.isOpen with
    | false => exact hclosed hopen
    | true => rfl

/-- The toggles of a press are the reports of its visible looks. -/
theorem countP_toggled {held : Option ℕ} (hlogged : Logged held press)
    (hpressed : ∀ l ∈ press, l.isPressed = true) :
    press.countP Look.toggled = HoldTimer.count holdTime held (visible press) := by
  induction press generalizing held with
  | nil => rfl
  | cons l press ih =>
      obtain ⟨htoggled, -, hrest⟩ := hlogged
      have hdown := hpressed l List.mem_cons_self
      have hlater := ih hrest fun l' hl' => hpressed l' (List.mem_cons_of_mem l hl')
      rw [hdown, Bool.and_true] at htoggled
      rw [List.countP_cons, hlater, htoggled, advance, hdown]
      cases hopen : l.isOpen with
      | false =>
          rw [visible, visible, List.filter_cons_of_neg (by simp [hopen])]
          rfl
      | true =>
          rw [visible, visible, List.filter_cons_of_pos hopen, times, times, List.map_cons,
            HoldTimer.count, Nat.add_comm]
          rfl

end Press

/-! ## Result -/

/-- **A press toggles the role once, as it should, exactly when it is clean.**
SOURCE: main.ino:344-397 -/
theorem togglesOnce_iff {tls : Mbedtls} {s : State} (h : (system tls).Reachable s)
    {press : List Look} (hpress : IsPress s.looks press) : TogglesOnce press ↔ Clean press := by
  have hinv := inv_of_reachable h
  obtain ⟨before, after, hlooks, hpressed, hreleased, -⟩ := hpress
  have hlogged := hinv.logged
  have hordered := hinv.ordered
  rw [hlooks, List.append_assoc, logged_append, logged_append] at hlogged
  rw [hlooks, times, List.map_append, List.map_append] at hordered
  have hsorted : (times press).Pairwise (· ≤ ·) :=
    (List.pairwise_append.mp (List.pairwise_append.mp hordered).1).2.1
  have hstart := foldl_advance_eq_none hlogged.1 hreleased
  have hcount := countP_toggled (hstart ▸ hlogged.2.1) hpressed
  have hsub : (visible press).Sublist (times press) := List.filter_sublist.map Look.time
  have hvisible := hsorted.sublist hsub
  have hd : 0 < holdTime := by decide
  have hle := HoldTimer.span_le_of_sublist hsub hsorted
  rw [TogglesOnce, Clean, hcount, HoldTimer.count_eq_one_iff hvisible hd,
    HoldTimer.count_eq_zero_iff hvisible hd]
  by_cases hshort : HoldTimer.span (times press) < holdTime
  · exact iff_of_true ⟨fun hlong => absurd hshort (Nat.not_lt.mpr hlong), fun _ => by omega⟩
      (.inl hshort)
  · constructor
    · exact fun honce => .inr (honce.1 (Nat.not_lt.mp hshort))
    · rintro (hspan | hclean)
      · exact absurd hspan hshort
      · exact ⟨fun _ => hclean, fun hspan => absurd hspan hshort⟩

/-! ## Two presses that go wrong -/

def start (isDevMode : Bool) (flash : EepromImage) : State where
  sketch := bootedNode isDevMode flash
  running := true
  clock := 0
  looks := []

/-- A node that has started is a start. -/
theorem start_started (isDevMode : Bool) (flash : EepromImage) : Start (start isDevMode flash) :=
  ⟨⟨_, _, rfl, rfl⟩, rfl, rfl⟩

/-- An image whose enrolled flag is set, and else blank. -/
def enrolledFlash : EepromImage :=
  Function.update blankImage ⟨EepromAddresses.enrolledFlag, by decide⟩ 1

def pressAt (millis : UInt32) : Event :=
  .pass (quietPass (lookAt true millis) (lookAt false millis))

def closedLooks : List Look := [⟨true, 0, false, false⟩, ⟨true, 5000, false, false⟩]

/-- An unenrolled node that is no master never looks at its button. -/
theorem closed_run :
    ∃ s, (system plainTls).runFrom (start false blankImage)
        [pressAt 0, pressAt 5000] = some s ∧ s.looks = closedLooks :=
  ⟨_, rfl, rfl⟩

def twiceLooks : List Look :=
  [⟨true, 0, true, false⟩, ⟨true, 5000, true, true⟩, ⟨true, 5001, true, false⟩,
    ⟨true, 10001, true, true⟩]

/-- In development mode a press of ten seconds makes a node of the master, and a master of the
node again. -/
theorem twice_run :
    ∃ s, (system plainTls).runFrom (start true enrolledFlash)
        [pressAt 0, pressAt 5000, pressAt 5001, pressAt 10001] = some s ∧ s.looks = twiceLooks :=
  ⟨_, rfl, rfl⟩

/-- All samples of a trace as one press. -/
theorem isPress_self {looks : List Look} (h : ∀ l ∈ looks, l.isPressed = true) :
    IsPress looks looks :=
  ⟨[], [], by simp, h, by simp, by simp⟩

/-- Five seconds at a closed gate toggle nothing.
SOURCE: main.ino:348-357 -/
theorem not_forall_togglesOnce :
    ¬∀ (tls : Mbedtls) (s : State), (system tls).Reachable s →
      ∀ press, IsPress s.looks press → TogglesOnce press := by
  intro hall
  obtain ⟨s, hrun, hlooks⟩ := closed_run
  have hreach := System.Reachable.runFrom (.init (start_started _ _)) hrun
  have hpress : IsPress s.looks closedLooks := by
    rw [hlooks]
    exact isPress_self (by decide)
  have hcount := (hall _ s hreach closedLooks hpress).1 (by decide)
  cases hcount

/-- The press that toggles the role twice. -/
theorem togglesOnce_iff_twice :
    ∃ s, (system plainTls).Reachable s ∧ IsPress s.looks twiceLooks ∧
      (TogglesOnce twiceLooks ↔ Clean twiceLooks) := by
  obtain ⟨s, hrun, hlooks⟩ := twice_run
  have hreach := System.Reachable.runFrom (.init (start_started _ _)) hrun
  have hpress : IsPress s.looks twiceLooks := by
    rw [hlooks]
    exact isPress_self (by decide)
  exact ⟨s, hreach, hpress, togglesOnce_iff hreach hpress⟩

end RoleButton

end LatticeNodes.Analysis
