import LatticeNodes.Program.Eeprom
import LatticeNodes.Program.Error

/-!
# Adapters and their factory

`AdapterFactory` translates between the stored adapter byte and `adapter_types`, and builds
the adapter of a boot.  Only `PIR_Adapter` and `Serial_Adapter` have a class, so only these
two types can be built; every other type gives a null pointer.
-/

set_option autoImplicit false

namespace LatticeNodes.Program

/-- The members of the adapter base class; the transmit function, once set, is
`Mesh::transmit`.
SOURCE: Adapter.h:28-31, main.ino:280 -/
structure Adapter where
  pin : Int
  adapterType : AdapterTypes
  transmitFnSet : Bool
  deriving DecidableEq, Repr

namespace AdapterFactory

open AdapterTypes

def pirAdapterDefaultPin : Int := 27
def ledAdapterDefaultPin : Int := 2
def serialAdapterDefaultPin : Int := -1

/-- The adapter, or the null pointer with the error that was signalled.
SOURCE: AdapterFactory.cpp:23-39 -/
def createAdapter (type : AdapterTypes) (pin : Int) : Except Failure Adapter :=
  if type = pirAdapter then .ok ⟨pin, pirAdapter, false⟩
  else if type = serialAdapter then .ok ⟨pin, serialAdapter, false⟩
  else .error ⟨.config, .adapter, 2, "AdapterFactory: Unknown adapter type"⟩

/-- SOURCE: AdapterFactory.cpp:41-46 -/
def adapterTypeFromEEPROM (raw : UInt8) : AdapterTypes :=
  if raw = 0xFF then pirAdapter else Int32.ofNat raw.toNat

/-- SOURCE: AdapterFactory.cpp:48-50 -/
def adapterTypeToEEPROM (type : AdapterTypes) : UInt8 :=
  type.toUInt32.toUInt8

/-- SOURCE: AdapterFactory.cpp:52-60 -/
def loadAdapterTypeFromEEPROM (isDevMode : Bool) (em : EepromManager) : AdapterTypes :=
  if isDevMode then pirAdapter else adapterTypeFromEEPROM em.loadAdapterType

/-- SOURCE: AdapterFactory.cpp:62-70 -/
def saveAdapterTypeToEEPROM (isDevMode : Bool) (type : AdapterTypes) (em : EepromManager) :
    EepromManager :=
  if isDevMode then em else em.saveAdapterType (adapterTypeToEEPROM type)

/-- SOURCE: AdapterFactory.cpp:91-102 -/
def getDefaultPinForAdapter (type : AdapterTypes) : Int :=
  if type = pirAdapter then pirAdapterDefaultPin
  else if type = ledAdapter then ledAdapterDefaultPin
  else if type = serialAdapter then serialAdapterDefaultPin
  else pirAdapterDefaultPin

/-- SOURCE: AdapterFactory.cpp:72-76 -/
def createFromEEPROM (isDevMode : Bool) (em : EepromManager) : Except Failure Adapter :=
  let type := loadAdapterTypeFromEEPROM isDevMode em
  createAdapter type (getDefaultPinForAdapter type)

/-- SOURCE: AdapterFactory.cpp:78-89 -/
def initializeDefaultsIfUnset (isDevMode : Bool) (em : EepromManager) : EepromManager :=
  if isDevMode then em
  else if em.loadAdapterType = 0xFF then em.saveAdapterType (adapterTypeToEEPROM pirAdapter)
  else em

end AdapterFactory

end LatticeNodes.Program
