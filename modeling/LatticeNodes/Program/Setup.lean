import LatticeNodes.Program.AdapterFactory

/-!
# The first half of `setup()`

From power-up to the adapter: the EEPROM manager is initialised, the reset reason is counted,
the mode is chosen, default peers and the default adapter type are stored, and the factory
builds the adapter.  The LEDs and buttons are taken to initialise without error.
-/

set_option autoImplicit false

namespace LatticeNodes.Program

/-- The manager after the device lost power: the RAM image is gone, the flash image is what
`EEPROM.begin` will load. -/
def EepromManager.reboot (em : EepromManager) : EepromManager where
  memory := em.memory.powerCycle
  isInitialized := false
  isDevMode := false
  dirty := false
  lastFlushMs := 0

/-- The reset reasons the firmware distinguishes, with the values of `esp_reset_reason_t`.
SOURCE: main.ino:99, ErrorCore.cpp:21 -/
inductive ResetReason where
  | powerOn
  | ext
  | sw
  | intWdt
  | taskWdt
  | wdt
  | other (value : UInt8)
  deriving DecidableEq

namespace ResetReason

def toByte : ResetReason → UInt8
  | .powerOn => 1
  | .ext => 2
  | .sw => 3
  | .intWdt => 5
  | .taskWdt => 6
  | .wdt => 7
  | .other value => value

/-- SOURCE: main.ino:99 -/
def isWatchdog : ResetReason → Bool
  | .intWdt | .taskWdt | .wdt => true
  | _ => false

/-- `ErrorCore::init` signals a hardware error on every other reason, which restarts the
device.
SOURCE: ErrorCore.cpp:20-23 -/
def isExpected : ResetReason → Bool
  | .powerOn | .ext | .sw => true
  | _ => false

end ResetReason

/-- How `setup()` leaves its first half.
SOURCE: main.ino:104-107, 212-218, ErrorCore.cpp:22 -/
inductive SetupResult where
  /-- The watchdog loop was detected: `while (true)`. -/
  | halted (em : EepromManager)
  /-- A hardware error restarts the device before the adapter is created. -/
  | restarted (em : EepromManager)
  /-- The factory was asked for an adapter. -/
  | created (adapter : Except Failure Adapter) (em : EepromManager)

namespace Setup

/-- SOURCE: main.ino:97-110 -/
def countReset (em : EepromManager) (reason : ResetReason) : EepromManager :=
  let em := em.init.saveRebootReason reason.toByte
  if reason.isWatchdog then em.saveRebootCount (em.loadRebootCount + 1)
  else em.saveRebootCount 0

/-- `defaultPeerList` as a pointer: the array holds six bytes a peer, and nothing is known of
the memory behind it.
SOURCE: main.ino:50-51, project_config.h:73-76 -/
def defaultPeerList (behind : ℕ → UInt8) : ℕ → UInt8 := fun i =>
  let bytes := Config.defaultPeers.flatMap (·.toList)
  if i < bytes.length then bytes.getD i 0 else behind i

/-- SOURCE: main.ino:172-197 -/
def storeDefaults (em : EepromManager) (behind : ℕ → UInt8) : EepromManager :=
  let isDevMode := Config.devMode || em.loadDevFlag
  let em := em.setDevMode isDevMode
  let em := if !isDevMode && !em.hasPeers then
      em.savePeerList (defaultPeerList behind) Config.defaultPeers.length
    else em
  if !isDevMode then AdapterFactory.initializeDefaultsIfUnset isDevMode em else em

/-- SOURCE: main.ino:200-210 -/
def createBootAdapter (em : EepromManager) : Except Failure Adapter :=
  if em.isDevMode then
    AdapterFactory.createAdapter Config.defaultAdapter
      (AdapterFactory.getDefaultPinForAdapter Config.defaultAdapter)
  else AdapterFactory.createFromEEPROM em.isDevMode em

/-- `setup()` up to the adapter.
SOURCE: main.ino:81-210 -/
def untilAdapter (em : EepromManager) (reason : ResetReason) (behind : ℕ → UInt8) :
    SetupResult :=
  let em := countReset em reason
  if reason.isWatchdog && 5 ≤ em.loadRebootCount then .halted em
  else if !reason.isExpected then .restarted em
  else
    let em := storeDefaults em behind
    .created (createBootAdapter em) em

end Setup

end LatticeNodes.Program
