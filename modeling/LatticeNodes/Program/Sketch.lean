import LatticeNodes.Program.MeshInit
import LatticeNodes.Program.PirLoop
import LatticeNodes.Program.Setup

/-!
# The sketch

`main.ino`: the whole of `setup()`, and `loop()` cut at the places where an interrupt matters.  The
loop drains the receive queue entry by entry, does the timed work of the mesh, and then looks at
the enrolled flag: an unenrolled node that is no master asks to be enrolled and returns, any other
runs its adapter and its buttons.

The display, the LEDs, the log and the watchdog are left out.
-/

set_option autoImplicit false

namespace LatticeNodes.Program

namespace Config

/-- SOURCE: project_config.h:20 -/
def defaultDevMaster : Bool := true

/-- SOURCE: main.ino:29, 349, 410 -/
def buttonHoldTimeMs : UInt32 := 5000
def resetConfirmMs : UInt32 := 3000
def enrollmentIntervalMs : UInt32 := 10000

end Config

/-- The variables of the sketch, with the members of its adapter; of the latter only those of the
adapter that was created are used.
SOURCE: main.ino:42-47, 347, 364-369, 399-400, Serial_Adapter.h:51-57 -/
structure Sketch where
  device : Device
  parser : FrameParser
  lastHealthMillis : UInt32
  lastReportedHopCount : UInt32
  pir : PirAdapter
  isDevMode : Bool
  lastEnrollmentBroadcast : UInt32
  buttonWasPressed : Bool
  holdStart : UInt32
  resetButtonWasPressed : Bool
  resetHoldStart : UInt32
  resetConfirmPending : Bool
  resetConfirmDeadline : UInt32

/-- SOURCE: Mesh.cpp:982-984 -/
def Device.isEnrolled (d : Device) : Bool := d.eeprom.loadEnrolledFlag

namespace Sketch

/-! ## Setup -/

/-- What a boot reads; `radio` are the answers to `Mesh::init`. -/
structure BootEnv where
  reason : ResetReason
  behind : ℕ → UInt8
  radio : Mesh.InitEnv

/-- How `setup()` ends: it halts or restarts the device, or returns. -/
inductive BootResult where
  | stopped (d : Device)
  | ready (s : Sketch)

/-- The role of a boot.
SOURCE: main.ino:259-268 -/
def bootRole (em : EepromManager) : Bool :=
  if em.isDevMode then Config.defaultDevMaster else em.loadMasterFlag

/-- The sketch when `setup()` returns.
SOURCE: main.ino:238, 276-282 -/
def started (d : Device) (adapter : Adapter) : Sketch where
  device := { d with
    adapter := some { adapter with transmitFnSet := true }
    mesh := d.mesh.link (bootRole d.eeprom) }
  parser := FrameParser.new
  lastHealthMillis := 0
  lastReportedHopCount := 0
  pir := PirAdapter.new.init
  isDevMode := d.eeprom.isDevMode
  lastEnrollmentBroadcast := 0
  buttonWasPressed := false
  holdStart := 0
  resetButtonWasPressed := false
  resetHoldStart := 0
  resetConfirmPending := false
  resetConfirmDeadline := 0

/-- `setup()` from the adapter on.
SOURCE: main.ino:212-296 -/
def startMesh (tls : Mbedtls) (d : Device) (adapter : Adapter) (r : BootEnv) : BootResult :=
  let inited := Mesh.new.init d.eeprom tls r.radio
  let d := { d with eeprom := inited.2.1.2, factoryDevMode := d.eeprom.isDevMode }
  match d.commitMesh Device.noCallback (inited.2.1.1, inited.2.2) with
  | .error restart => .stopped restart.device
  | .ok d => if inited.1 then .ready (started d adapter) else .stopped d

/-- `setup()` over the flash image of this device.
SOURCE: main.ino:81-296 -/
def setup (tls : Mbedtls) (d : Device) (r : BootEnv) : BootResult :=
  let d := { d with
    mesh := Mesh.new
    adapter := none
    factoryDevMode := false
    wifiMac := r.radio.stationMac
    serialOut := []
    sent := [] }
  match Setup.untilAdapter d.eeprom.reboot r.reason r.behind with
  | .halted em => .stopped { d with eeprom := em }
  | .restarted em => .stopped { d with eeprom := em }
  | .created (.error _) em => .stopped { d with eeprom := em }
  | .created (.ok adapter) em => startMesh tls { d with eeprom := em } adapter r

/-! ## The mesh work of the loop -/

/-- Carry on with the device that a call leaves. -/
def resume (s : Sketch) (outcome : Outcome) : Except Restart Sketch :=
  outcome.map fun d => { s with device := d }

/-- One round of the drain.
SOURCE: Mesh.cpp:563-604 -/
def drainEntry (s : Sketch) (env : DeviceEnv) : Except Restart Sketch :=
  let m := s.device.mesh
  let d := { s.device with mesh :=
    { m with recvQueue := { m.recvQueue with tail := m.recvQueue.tail + 1 } } }
  s.resume (d.handleEntry env m.recvQueue.slots[m.recvQueue.tail])

/-- The rest of `Mesh::loop`, when the receive queue is empty.
SOURCE: Mesh.cpp:1093-1111 -/
def timedWork (s : Sketch) (millis : UInt32) (env : Env) : Except Restart Sketch :=
  let d := { s.device with eeprom := s.device.eeprom.flushIfDirty millis }
  s.resume (d.commitMesh Device.noCallback (d.mesh.timedWork env))

/-! ## Behind the mesh -/

/-- A look at a button; the times are those of its two readings and of the flush. -/
structure ButtonEnv where
  isPressed : Bool
  millis : UInt32
  millisLate : UInt32
  flushMillis : UInt32

/-- The readings of the loop behind `mesh.loop()`. -/
structure LoopEnv where
  timeout : Env
  enrollMillis : UInt32
  enroll : Env
  serial : Env
  serialLater : ℕ → Env
  serialBytes : List UInt8
  pir : PirEnv
  configButton : ButtonEnv
  resetButton : ButtonEnv

/-- A request to be enrolled every 10 seconds.
SOURCE: main.ino:349-353 -/
def requestEnrollment (s : Sketch) (r : LoopEnv) : Except Restart Sketch :=
  if Config.enrollmentIntervalMs < r.enrollMillis - s.lastEnrollmentBroadcast then
    { s with lastEnrollmentBroadcast := r.enroll.millis }.resume
      (s.device.commitMesh Device.noCallback
        (s.device.mesh, s.device.mesh.sendEnrollmentRequest r.enroll))
  else .ok s

/-- The virtual call of `adapter->loop()`.
SOURCE: main.ino:360-362 -/
def adapterLoop (tls : Mbedtls) (s : Sketch) (r : LoopEnv) : Except Restart Sketch :=
  match s.device.adapter with
  | none => .ok s
  | some adapter =>
      if adapter.adapterType = AdapterTypes.serialAdapter then
        let node : SerialNode :=
          ⟨s.device, s.parser, s.lastHealthMillis, s.lastReportedHopCount⟩
        (node.loop tls adapter r.serial r.serialLater r.serialBytes).map fun node =>
          { s with
            device := node.device
            parser := node.parser
            lastHealthMillis := node.lastHealthMillis
            lastReportedHopCount := node.lastReportedHopCount }
      else if adapter.adapterType = AdapterTypes.pirAdapter then
        (PirNode.loop adapter ⟨s.device, s.pir⟩ r.pir).map fun node =>
          { s with
            device := node.device
            pir := node.pir }
      else .ok s

/-- The config button toggles the role, in production for the next boot.
SOURCE: main.ino:371-397 -/
def pollConfigButton (s : Sketch) (b : ButtonEnv) : Except Restart Sketch :=
  if !b.isPressed then .ok { s with buttonWasPressed := false }
  else if !s.buttonWasPressed then .ok { s with buttonWasPressed := true, holdStart := b.millis }
  else if b.millis - s.holdStart < Config.buttonHoldTimeMs then .ok s
  else if s.isDevMode then
    let m := s.device.mesh
    .ok { s with
      buttonWasPressed := false
      device := { s.device with mesh := { m with isMaster := !m.isMaster } } }
  else s.resume (s.device.configButtonHeld b.flushMillis)

/-- The reset button wipes the EEPROM when it is held a second time.
SOURCE: main.ino:402-430 -/
def pollResetButton (s : Sketch) (b : ButtonEnv) : Except Restart Sketch :=
  if !b.isPressed then
    .ok { s with
      resetButtonWasPressed := false
      resetConfirmPending := s.resetConfirmPending && b.millis ≤ s.resetConfirmDeadline }
  else if !s.resetButtonWasPressed then
    .ok { s with resetButtonWasPressed := true, resetHoldStart := b.millis }
  else if b.millis - s.resetHoldStart < Config.buttonHoldTimeMs then .ok s
  else if !s.resetConfirmPending then
    .ok { s with
      resetButtonWasPressed := false
      resetConfirmPending := true
      resetConfirmDeadline := b.millisLate + Config.resetConfirmMs }
  else if b.millisLate < s.resetConfirmDeadline then
    s.resume (s.device.resetConfirmed b.flushMillis)
  else .ok { s with resetButtonWasPressed := false }

/-- The loop behind `mesh.loop()`, with the enrollment gate.
SOURCE: main.ino:310, 344-434 -/
def afterMesh (tls : Mbedtls) (s : Sketch) (r : LoopEnv) : Except Restart Sketch :=
  let s := { s with
    device := { s.device with mesh := s.device.mesh.checkMasterTimeout r.timeout } }
  if !s.device.isEnrolled && !s.device.mesh.isMaster then s.requestEnrollment r
  else
    (s.adapterLoop tls r).bind fun s =>
      (s.pollConfigButton r.configButton).bind fun s => s.pollResetButton r.resetButton

end Sketch

end LatticeNodes.Program
