import LatticeNodes.Program.Device

/-!
# The loop of the serial adapter

`Serial_Adapter::loop`: the periodic health report, and the parser that cuts the bytes of the
serial line into length-prefixed frames.  The parser keeps its state from one call to the next.
-/

set_option autoImplicit false

namespace LatticeNodes.Program

/-! ## The frame parser

SOURCE: Serial_Adapter.h:51-57, Serial_Adapter.cpp:92-140 -/

inductive FrameState where
  | awaitingLen1
  | awaitingLen2
  | awaitingPayload
  deriving DecidableEq, Repr

structure FrameParser where
  frameState : FrameState
  frameLength : UInt16
  frameIndex : ℕ
  payloadBuffer : Vector UInt8 SerialAdapter.maxPayload

/-- What the parser asks for after a byte. -/
inductive ParseResult where
  | nothing
  /-- `err::fail` with sub-code 2. -/
  | invalidLength
  /-- `err::fail` with sub-code 3. -/
  | overflow
  /-- `handleCompleteFrame` of these bytes. -/
  | complete (payload : List UInt8)
  deriving DecidableEq

namespace FrameParser

/-- SOURCE: Serial_Adapter.cpp:59-63 -/
def new : FrameParser where
  frameState := .awaitingLen1
  frameLength := 0
  frameIndex := 0
  payloadBuffer := Vector.replicate SerialAdapter.maxPayload 0

def reset (p : FrameParser) : FrameParser :=
  { p with frameState := .awaitingLen1, frameLength := 0, frameIndex := 0 }

/-- The body of `while (Serial.available() > 0)`.
SOURCE: Serial_Adapter.cpp:93-139 -/
def receiveByte (p : FrameParser) (byteIn : UInt8) : FrameParser × ParseResult :=
  match p.frameState with
  | .awaitingLen1 =>
      ({ p with frameLength := byteIn.toUInt16, frameState := .awaitingLen2 }, .nothing)
  | .awaitingLen2 =>
      let p := { p with frameLength := p.frameLength ||| (byteIn.toUInt16 <<< 8) }
      if p.frameLength = (0 : UInt16) ∨ SerialAdapter.maxPayload < p.frameLength.toNat then
        (p.reset, .invalidLength)
      else ({ p with frameIndex := 0, frameState := .awaitingPayload }, .nothing)
  | .awaitingPayload =>
      if h : p.frameIndex < SerialAdapter.maxPayload then
        let p := { p with
          payloadBuffer := p.payloadBuffer.set p.frameIndex byteIn
          frameIndex := p.frameIndex + 1 }
        if p.frameLength.toNat ≤ p.frameIndex then
          (p.reset, .complete (p.payloadBuffer.toList.take p.frameLength.toNat))
        else (p, .nothing)
      else (p.reset, .overflow)

/-- The test entry of the parser: it reports whether a frame was completed, and keeps the first
byte of the last one.
SOURCE: Serial_Adapter.cpp:526-563 -/
def injectByte (p : FrameParser) (lastCompletedOpcode byteIn : UInt8) :
    FrameParser × UInt8 × Bool :=
  let received := p.receiveByte byteIn
  match received.2 with
  | .complete _ => (received.1, received.1.payloadBuffer[0], true)
  | _ => (received.1, lastCompletedOpcode, false)

end FrameParser

/-! ## The loop -/

/-- SOURCE: Mesh.h:273 -/
def Mesh.getHopCount (m : Mesh) : UInt8 :=
  if m.isMaster then 0 else m.currentMaster.distance

/-- SOURCE: project_config.h:121 -/
def Config.healthReportIntervalMs : UInt32 := 30000

/-- The device, and the members of its serial adapter. -/
structure SerialNode where
  device : Device
  parser : FrameParser
  lastHealthMillis : UInt32
  lastReportedHopCount : UInt32

namespace SerialNode

/-- Carry on with the device that a call leaves. -/
def resume (s : SerialNode) (outcome : Outcome) : Except Restart SerialNode :=
  outcome.map fun d => { s with device := d }

/-- A report every 30 seconds, and at once when the hop count changed.
SOURCE: Serial_Adapter.cpp:76-90 -/
def reportHealth (s : SerialNode) (env : Env) : Except Restart SerialNode :=
  let currentHopCount := s.device.mesh.getHopCount.toUInt32
  if currentHopCount ≠ s.lastReportedHopCount ∨
      Config.healthReportIntervalMs ≤ env.millis - s.lastHealthMillis then
    let s := { s with lastHealthMillis := env.millisLate }
    { s with lastReportedHopCount := currentHopCount }.resume (s.device.sendHealthReport env)
  else .ok s

/-- SOURCE: Serial_Adapter.cpp:93-139 -/
def readByte (tls : Mbedtls) (adapter : Adapter) (s : SerialNode) (env : Env) (byteIn : UInt8) :
    Except Restart SerialNode :=
  let received := s.parser.receiveByte byteIn
  let s := { s with parser := received.1 }
  match received.2 with
  | .nothing => .ok s
  | .invalidLength =>
      s.resume (s.device.fail ⟨.comm, .adapter, 2, "Serial_Adapter: Invalid frame length"⟩)
  | .overflow =>
      s.resume (s.device.fail ⟨.comm, .adapter, 3, "Serial_Adapter: Frame buffer overflow"⟩)
  | .complete payload => s.resume (s.device.handleCompleteFrame tls env adapter payload)

/-- `while (Serial.available() > 0)` over the bytes that are available.
SOURCE: Serial_Adapter.cpp:92-140 -/
def readBytes (tls : Mbedtls) (adapter : Adapter) (s : SerialNode) (env : ℕ → Env) :
    List UInt8 → Except Restart SerialNode
  | [] => .ok s
  | byteIn :: bytes =>
      (s.readByte tls adapter (env 0) byteIn).bind fun s =>
        s.readBytes tls adapter (fun i => env (i + 1)) bytes

/-- `Serial_Adapter::loop`, when these bytes are available.
SOURCE: Serial_Adapter.cpp:75-141 -/
def loop (tls : Mbedtls) (adapter : Adapter) (s : SerialNode) (env : Env) (later : ℕ → Env)
    (bytes : List UInt8) : Except Restart SerialNode :=
  (s.reportHealth env).bind fun s => s.readBytes tls adapter later bytes

end SerialNode

end LatticeNodes.Program
