import LatticeNodes.Program.SerialLoop

/-!
# The loop of the PIR adapter

`PIR_Adapter::loop`: a motion the interrupt handler has noted is transmitted once, the sensor is
armed again after a cooldown, and every 30 seconds the node reports its health.
-/

set_option autoImplicit false

namespace LatticeNodes.Program

namespace Opcode

/-- SOURCE: Serial_Adapter.h:27 -/
def nodeHealth : UInt8 := 0xB2

end Opcode

/-- The members of `PIR_Adapter`, with those of its sensor.
SOURCE: PIR_Adapter.h:32-38, Pir.h:26, GpioInput.h:20 -/
structure PirAdapter where
  cooldownSeconds : UInt16
  lastTrigger : UInt32
  timerActive : Bool
  motionSent : Bool
  interruptEnabled : Bool
  initialized : Bool
  lastHealthMillis : UInt32
  sensorInitialized : Bool
  motionDetected : Bool
  deriving DecidableEq, Repr

namespace PirAdapter

/-- SOURCE: PIR_Adapter.cpp:18-22, Pir.cpp:6 -/
def new : PirAdapter where
  cooldownSeconds := 3
  lastTrigger := 0
  timerActive := false
  motionSent := false
  interruptEnabled := false
  initialized := false
  lastHealthMillis := 0
  sensorInitialized := false
  motionDetected := false

/-- `init()`, on the pin the factory passes, which is a valid input.
SOURCE: PIR_Adapter.cpp:24-44, Pir.cpp:8-13, GpioInput.cpp:8-15 -/
def init (p : PirAdapter) : PirAdapter :=
  if p.initialized then p
  else { p with
    sensorInitialized := true
    motionDetected := false
    interruptEnabled := true
    initialized := true }

/-- The interrupt handler of the sensor's pin.
SOURCE: PIR_Adapter.cpp:46-49, 56-62, Pir.cpp:36-38 -/
def detectMotion (p : PirAdapter) : PirAdapter :=
  if p.initialized && p.interruptEnabled then
    { p with motionDetected := true, interruptEnabled := false }
  else p

end PirAdapter

/-- The device, and the members of its PIR adapter. -/
structure PirNode where
  device : Device
  pir : PirAdapter

/-- The readings of one call of the loop: the time at its start, and those of its two sends. -/
structure PirEnv where
  now : UInt32
  motion : Env
  health : Env

namespace PirNode

def resume (s : PirNode) (outcome : Outcome) : Except Restart PirNode :=
  outcome.map fun d => { s with device := d }

/-- SOURCE: PIR_Adapter.cpp:68-79 -/
def nodeHealth (d : Device) (env : Env) : Payload :=
  let uptime := EepromManager.bytesOfWord (env.millis / 1000)
  let bytes := [Opcode.nodeHealth, AdapterFactory.adapterTypeToEEPROM AdapterTypes.pirAdapter] ++
    d.wifiMac.toList ++ uptime
  Vector.ofFn fun i => bytes.getD i 0

/-- SOURCE: PIR_Adapter.cpp:90-95 -/
def noteMotion (p : PirAdapter) (now : UInt32) : PirAdapter :=
  if p.motionDetected then
    { p with lastTrigger := now, timerActive := true, motionSent := false, motionDetected := false }
  else p

/-- SOURCE: PIR_Adapter.cpp:97-102 -/
def sendMotion (adapter : Adapter) (s : PirNode) (env : Env) : Except Restart PirNode :=
  if s.pir.timerActive && !s.pir.motionSent then
    { s with pir := { s.pir with motionSent := true } }.resume
      (s.device.sendDataThroughMesh env adapter adapter.adapterType (zeroPayload.set 0 1 byte0_lt))
  else .ok s

/-- The report of the node's health, at its time.
SOURCE: PIR_Adapter.cpp:118-121 -/
def sendNodeHealth (adapter : Adapter) (s : PirNode) (r : PirEnv) : Except Restart PirNode :=
  if Config.healthReportIntervalMs ≤ r.now - s.pir.lastHealthMillis then
    { s with pir := { s.pir with lastHealthMillis := r.now } }.resume
      (s.device.sendDataThroughMesh r.health adapter AdapterTypes.serialAdapter
        (nodeHealth s.device r.health))
  else .ok s

/-- The cooldown, and the rest of the loop; a sensor that cannot be armed again ends the call.
SOURCE: PIR_Adapter.cpp:104-121 -/
def rearm (adapter : Adapter) (s : PirNode) (r : PirEnv) : Except Restart PirNode :=
  if s.pir.timerActive && s.pir.cooldownSeconds.toUInt32 * 1000 < r.now - s.pir.lastTrigger then
    let s := { s with pir := { s.pir with timerActive := false, motionSent := false } }
    if s.pir.sensorInitialized then
      sendNodeHealth adapter { s with pir := { s.pir with interruptEnabled := true } } r
    else s.resume (s.device.fail ⟨.hardware, .adapter, 2,
      "PIR_Adapter: Could not re-attach interrupt (possible hardware error)"⟩)
  else sendNodeHealth adapter s r

/-- `PIR_Adapter::loop`.
SOURCE: PIR_Adapter.cpp:84-122 -/
def loop (adapter : Adapter) (s : PirNode) (r : PirEnv) : Except Restart PirNode :=
  if !s.pir.initialized then .ok s
  else
    (sendMotion adapter { s with pir := noteMotion s.pir r.now } r.motion).bind fun s =>
      rearm adapter s r

end PirNode

end LatticeNodes.Program
