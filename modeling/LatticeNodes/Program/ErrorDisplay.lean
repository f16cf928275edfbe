import Mathlib.Data.Int.Notation
import LatticeNodes.Program.Error

/-!
# Signalling an error on the display

`lattice::err::fail` over the TM1637 display: `ErrorCore::signalError` shows the code, the display
writes seven bytes, and a byte that is not acknowledged is an error of its own, signalled before
the next byte is written.  `ack` are the answers of the display on its bus, one for each byte that
is clocked out; what a call returns are the bytes on the bus so far.

The nesting of `signalError` has no bound in the source: `depth` is how many calls may be open,
and `none` is a run that opens more.  The LED blinks are left out, they return.
-/

set_option autoImplicit false

namespace LatticeNodes.Program

/-- How a call of `fail` ends: it returns to its caller, or the device restarts. -/
inductive Signalled where
  | returned (sent : List UInt8)
  | restarted (sent : List UInt8)
  deriving DecidableEq, Repr

namespace Signalled

/-- Carry on with the bytes of a call that returned. -/
def andThen (result : Option Signalled) (next : List UInt8 → Option Signalled) :
    Option Signalled :=
  match result with
  | some (.returned sent) => next sent
  | ended => ended

end Signalled

/-- SOURCE: SevenSegDisplay.h:31 -/
structure SevenSegDisplay where
  brightness : UInt8
  deriving DecidableEq, Repr

namespace SevenSegDisplay

/-! ## Digits

SOURCE: SevenSegDisplay.cpp:13-31, 125-131 -/

def font : Vector UInt8 16 :=
  #v[0b00111111, 0b00000110, 0b01011011, 0b01001111, 0b01100110, 0b01101101, 0b01111101,
    0b00000111, 0b01111111, 0b01101111, 0b01110111, 0b01111100, 0b00111001, 0b01011110,
    0b01111001, 0b01110001]

def encodeDigit (d : ℤ) : UInt8 :=
  if 0 ≤ d ∧ d < 16 then font.toList.getD d.toNat 0
  else if d = -1 then 0x40
  else 0x00

/-- The four decimal digits of a value that fits.
SOURCE: SevenSegDisplay.cpp:149-159 -/
def digitsOf (value : ℤ) : Vector ℤ 4 :=
  let v := if 9999 < value.natAbs then 9999 else value.natAbs
  #v[(v / 1000 % 10 : ℕ), (v / 100 % 10 : ℕ), (v / 10 % 10 : ℕ), (v % 10 : ℕ)]

/-- Where the minus goes: on the first digit that is not zero, else on the last.
SOURCE: SevenSegDisplay.cpp:161-169 -/
def minusIndex (digits : Vector ℤ 4) : Fin 4 :=
  if digits[0] ≠ 0 then 0 else if digits[1] ≠ 0 then 1 else if digits[2] ≠ 0 then 2 else 3

/-- SOURCE: SevenSegDisplay.cpp:149-179 -/
def segmentsOf (value : ℤ) (leadingZeros : Bool) : Vector UInt8 4 :=
  let negative := decide (value < 0)
  let plain := digitsOf value
  let digits := if negative then plain.set (minusIndex plain) (-1) else plain
  Vector.ofFn fun i : Fin 4 =>
    if !leadingZeros && digits[i] == 0 && decide ((i : ℕ) < 3) && !negative then 0x00
    else encodeDigit digits[i]

/-! ## Writing

SOURCE: SevenSegDisplay.cpp:90-147 -/

/-- SOURCE: SevenSegDisplay.cpp:117-121 -/
def ackTimeout : Failure :=
  ⟨.hardware, .hw, 2, "7Seg ACK timeout"⟩

/-- A byte on the bus; `fail` is the nested call on a missing acknowledgement.  The callers ignore
the return value. -/
def writeByte (fail : List UInt8 → Option Signalled) (ack : ℕ → Bool) (sent : List UInt8)
    (b : UInt8) : Option Signalled :=
  if ack sent.length then some (.returned (sent ++ [b])) else fail (sent ++ [b])

def writeBytes (fail : List UInt8 → Option Signalled) (ack : ℕ → Bool) (sent : List UInt8) :
    List UInt8 → Option Signalled
  | [] => some (.returned sent)
  | b :: bytes =>
      Signalled.andThen (writeByte fail ack sent b) fun sent => writeBytes fail ack sent bytes

/-- The three transfers: the mode, the address with the segments, and the brightness.
SOURCE: SevenSegDisplay.cpp:133-147 -/
def transfers (display : SevenSegDisplay) (segs : Vector UInt8 4) : List UInt8 :=
  [0x40] ++ ([0xC0] ++ segs.toList) ++ [0x88 ||| display.brightness]

def setSegments (display : SevenSegDisplay) (fail : List UInt8 → Option Signalled)
    (ack : ℕ → Bool) (sent : List UInt8) (segs : Vector UInt8 4) : Option Signalled :=
  writeBytes fail ack sent (display.transfers segs)

def showValue (display : SevenSegDisplay) (fail : List UInt8 → Option Signalled) (ack : ℕ → Bool)
    (sent : List UInt8) (value : ℤ) (leadingZeros : Bool) : Option Signalled :=
  display.setSegments fail ack sent (segmentsOf value leadingZeros)

end SevenSegDisplay

/-- SOURCE: ErrorCore.h:36 -/
structure ErrorCore where
  display : Option SevenSegDisplay
  deriving DecidableEq, Repr

namespace ErrorCore

/-- The second half of `signalError`: a memory or hardware error restarts the device.
SOURCE: ErrorCore.cpp:30-55 -/
def conclude (f : Failure) (sent : List UInt8) : Option Signalled :=
  some (if f.restarts then .restarted sent else .returned sent)

/-- `signalError` with at most `depth` calls open.
SOURCE: ErrorCore.cpp:26-55 -/
def signalError (core : ErrorCore) (ack : ℕ → Bool) :
    ℕ → Failure → List UInt8 → Option Signalled
  | 0, _, _ => none
  | depth + 1, f, sent =>
      match core.display with
      | none => conclude f sent
      | some display =>
          let fail := core.signalError ack depth SevenSegDisplay.ackTimeout
          Signalled.andThen
            (display.showValue fail ack sent (makeErrorCode f.type f.module f.sub) true)
            (conclude f)

/-- `lattice::err::fail`: a log line and `signalError`.
SOURCE: Error.h:34-45 -/
def fail (core : ErrorCore) (ack : ℕ → Bool) (depth : ℕ) (f : Failure) (sent : List UInt8) :
    Option Signalled :=
  core.signalError ack depth f sent

end ErrorCore

end LatticeNodes.Program
