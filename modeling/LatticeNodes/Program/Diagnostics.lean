import LatticeNodes.Program.Eeprom

/-!
# Diagnostics of the EEPROM manager

`dumpEEPROM` and `printAddress`, with what they read and what they print.  The text on the serial
port depends on the level the logger is set to; the strings are taken to find room.
-/

set_option autoImplicit false

namespace LatticeNodes.Program

/-! ## The logger -/

/-- SOURCE: Logger.h:27-33 -/
inductive LogLevel where
  | debug
  | info
  | warn
  | error
  | none
  deriving DecidableEq

def LogLevel.toByte : LogLevel → UInt8
  | .debug => 0
  | .info => 1
  | .warn => 2
  | .error => 3
  | .none => 4

/-- The lines a call prints.
SOURCE: Logger.cpp:60-67 -/
def Logger.logln (currentLevel : LogLevel) (tag message : String) (level : LogLevel) :
    List String :=
  if level.toByte < currentLevel.toByte then [] else ["[" ++ tag ++ "] " ++ message]

/-! ## Numbers in text -/

/-- `String(value, HEX)`: lower-case digits without leading zeros. -/
def hexText (value : ℕ) : String := String.ofList (Nat.toDigits 16 value)

/-- SOURCE: EEPROM_Manager.cpp:617-620, 636-639 -/
def byteText (val : UInt8) : String :=
  (if val < 16 then "0" else "") ++ (hexText val.toNat ++ " ")

/-! ## The calls -/

/-- The addresses a call reads, in order, and the lines it prints. -/
structure Diagnostic where
  reads : List ℕ
  lines : List String
  deriving DecidableEq

namespace EepromManager

/-- SOURCE: EEPROM_Manager.cpp:598-600 -/
def isAddressValid (address : UInt16) : Bool :=
  address.toNat < EepromSizes.totalSize

/-- The addresses the dump prints as `XX`.
SOURCE: EEPROM_Manager.cpp:612-616 -/
def isMasked (addr : ℕ) : Bool :=
  EepromAddresses.privateKey ≤ addr && addr ≤ EepromAddresses.keypairCrc + 1

/-- The addresses of one line of the dump.
SOURCE: EEPROM_Manager.cpp:610-611 -/
def lineAddresses (i : ℕ) : List ℕ :=
  ((List.range 16).map (i + ·)).takeWhile (· < EepromSizes.totalSize)

/-- SOURCE: EEPROM_Manager.cpp:609-621 -/
def dumpLine (em : EepromManager) (i : ℕ) : String :=
  hexText i ++ ": " ++ String.join ((lineAddresses i).map fun addr =>
    if isMasked addr then "XX " else byteText (em.read addr))

/-- The first address of each line. -/
def dumpRows : List ℕ := (List.range (EepromSizes.totalSize / 16)).map (16 * ·)

/-- SOURCE: EEPROM_Manager.cpp:603-624 -/
def dumpEEPROM (em : EepromManager) (currentLevel : LogLevel) : Diagnostic :=
  if !em.isInitialized then
    ⟨[], Logger.logln currentLevel "EEPROM" "EEPROM not initialized" .error⟩
  else
    { reads := dumpRows.flatMap fun i => (lineAddresses i).filter (!isMasked ·)
      lines := Logger.logln currentLevel "EEPROM" "=== EEPROM Dump ===" .info ++
        dumpRows.flatMap fun i => Logger.logln currentLevel "EEPROM" (em.dumpLine i) .debug }

/-- The addresses `printAddress` reads; they are cast to 16 bits.
SOURCE: EEPROM_Manager.cpp:635-636 -/
def printedAddresses (address length : UInt16) : List ℕ :=
  (List.range length.toNat).map fun i => (address + UInt16.ofNat i).toNat

/-- SOURCE: EEPROM_Manager.cpp:634-640 -/
def addressLine (em : EepromManager) (address length : UInt16) : String :=
  "Addr " ++ toString address.toNat ++ ": " ++
    String.join ((printedAddresses address length).map fun addr => byteText (em.read addr))

/-- The argument of the second check is an `int` that the call cuts to 16 bits.
SOURCE: EEPROM_Manager.cpp:626-642 -/
def printAddress (em : EepromManager) (currentLevel : LogLevel) (address length : UInt16) :
    Diagnostic :=
  if !em.isInitialized then
    ⟨[], Logger.logln currentLevel "EEPROM" "EEPROM not initialized" .error⟩
  else if !isAddressValid address || !isAddressValid (address + length - 1) then
    ⟨[], Logger.logln currentLevel "EEPROM" "Invalid address range for print" .error⟩
  else
    { reads := printedAddresses address length
      lines := Logger.logln currentLevel "EEPROM" (em.addressLine address length) .debug }

end EepromManager

end LatticeNodes.Program
