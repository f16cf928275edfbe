import Mathlib.Data.Nat.Notation

/-!
# Error signalling

The error codes of `ErrorCodes.h` and the decision of `ErrorCore` whether a signalled error
restarts the device.  The LED blink only delays the caller and is left out, and so is a display
that acknowledges what it is sent; one that does not is the subject of `ErrorDisplay`.  The log
lines are compiled in but suppressed (`DEFAULT_LOG_LEVEL = LOG_NONE`).
-/

set_option autoImplicit false

namespace LatticeNodes.Program

/-- SOURCE: ErrorCodes.h:5-12 -/
inductive ErrorTypeDigit where
  | generic
  | sensor
  | comm
  | memory
  | hardware
  | config
  deriving DecidableEq, Repr

/-- SOURCE: ErrorCodes.h:13 -/
inductive ModuleDigit where
  | core
  | adapter
  | mesh
  | eeprom
  | hw
  deriving DecidableEq, Repr

/-- SOURCE: ErrorCore.h:11-20 -/
inductive ErrorType where
  | generic
  | sensorFail
  | communicationFail
  | memoryError
  | configError
  | hardwareFailure
  | userError
  | timeoutError
  deriving DecidableEq, Repr

/-- The digit shown for an error type.
SOURCE: ErrorCodes.h:5-12 -/
def ErrorTypeDigit.toNat : ErrorTypeDigit → ℕ
  | .generic => 1
  | .sensor => 2
  | .comm => 3
  | .memory => 4
  | .hardware => 5
  | .config => 6

/-- SOURCE: ErrorCodes.h:13 -/
def ModuleDigit.toNat : ModuleDigit → ℕ
  | .core => 1
  | .adapter => 2
  | .mesh => 3
  | .eeprom => 4
  | .hw => 5

/-- The code on the seven-segment display.
SOURCE: ErrorCodes.h:14-23 -/
def makeErrorCode (t : ErrorTypeDigit) (m : ModuleDigit) (sub : UInt8) : ℕ :=
  t.toNat * 100 + m.toNat * 10 + sub.toNat % 10

/-- One call of `lattice::err::fail`, with the error code's parts and its message.
SOURCE: Error.h:34-40 -/
structure Failure where
  type : ErrorTypeDigit
  module : ModuleDigit
  sub : UInt8
  text : String
  deriving DecidableEq, Repr

/-- The legacy error types' digits.
SOURCE: Error.h:13-32 -/
def toDigit : ErrorType → ErrorTypeDigit
  | .generic => .generic
  | .sensorFail => .sensor
  | .communicationFail => .comm
  | .memoryError => .memory
  | .configError => .config
  | .hardwareFailure => .hardware
  | _ => .generic

/-- The legacy overload of `fail`: module `CORE`, sub-code 0.
SOURCE: Error.h:42-45 -/
def Failure.legacy (type : ErrorType) (text : String) : Failure :=
  ⟨toDigit type, .core, 0, text⟩

/-- The error type `signalError` maps a digit to; a `SENSOR` error becomes `GENERIC`.
SOURCE: ErrorCore.cpp:30-39 -/
def signalledType : ErrorTypeDigit → ErrorType
  | .hardware => .hardwareFailure
  | .comm => .communicationFail
  | .memory => .memoryError
  | .config => .configError
  | _ => .generic

/-- SOURCE: ErrorCore.cpp:96-98 -/
def shouldRestart (t : ErrorType) : Bool :=
  t == .memoryError || t == .hardwareFailure

/-- Does signalling this failure restart the device?
SOURCE: ErrorCore.cpp:26-55 -/
def Failure.restarts (f : Failure) : Bool :=
  shouldRestart (signalledType f.type)

/-- Only memory and hardware errors restart the device.
SOURCE: ErrorCore.cpp:26-55, 96-98 -/
@[simp] theorem Failure.restarts_iff (f : Failure) :
    f.restarts = true ↔ f.type = .memory ∨ f.type = .hardware := by
  unfold Failure.restarts
  cases f.type <;> simp [shouldRestart, signalledType]

end LatticeNodes.Program
