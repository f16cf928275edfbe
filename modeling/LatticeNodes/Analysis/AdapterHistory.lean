import LatticeNodes.Analysis.EepromFrames
import LatticeNodes.Library.TransitionSystem

/-!
# The adapter of every boot

The history of a node's EEPROM: blank flash chips and wipes, committed saves of an adapter
type, and production boots.  A state remembers the type saved last since the last wipe, and
every boot logs it beside the factory's answer.

`boot_creates_iff`: in every history, a boot creates the adapter it should exactly when some
type was saved since the last wipe.  A blank byte is loaded as 0, which is neither the unset
marker `initializeDefaultsIfUnset` waits for nor a type the factory can build.
-/

set_option autoImplicit false

namespace LatticeNodes.Analysis

open LatticeNodes.Program CachedMemory TransitionSystem

namespace AdapterHistory

/-! ## The system -/

/-- A boot that asked the factory for an adapter, with the type saved last. -/
structure Boot where
  lastSaved : Option AdapterTypes
  created : Except Failure Adapter

/-- The node's EEPROM, the type saved last since the last wipe, and the boots so far. -/
structure State where
  eeprom : EepromManager
  lastSaved : Option AdapterTypes
  boots : List Boot

/-- The types the factory has a class for.
SOURCE: AdapterFactory.cpp:23-32 -/
inductive Buildable where
  | pir
  | serial
  deriving DecidableEq

def Buildable.type : Buildable → AdapterTypes
  | .pir => AdapterTypes.pirAdapter
  | .serial => AdapterTypes.serialAdapter

inductive Event where
  /-- A factory-blank flash chip. -/
  | blankFlash
  /-- `clearAll()` on the running node. -/
  | wipe
  /-- `saveAdapterTypeToEEPROM(t)`, then a flush. -/
  | save (type : Buildable) (millis : UInt32)
  /-- A power cycle and the first half of `setup()`. -/
  | reboot (reason : ResetReason) (behind : ℕ → UInt8)

/-- A committed save of the adapter type in production mode.
SOURCE: AdapterFactory.cpp:62-70, EEPROM_Manager.cpp:180-186 -/
def saveType (em : EepromManager) (type : AdapterTypes) (millis : UInt32) : EepromManager :=
  (AdapterFactory.saveAdapterTypeToEEPROM false type em).forceFlush millis

/-- What a boot leaves; only a boot that reaches the factory is logged.
SOURCE: main.ino:81-219 -/
def afterSetup (s : State) : SetupResult → State
  | .halted em => { s with eeprom := em }
  | .restarted em => { s with eeprom := em }
  | .created created em =>
      { s with eeprom := em, boots := s.boots ++ [⟨s.lastSaved, created⟩] }

/-- Wipes and saves run on an initialised node. -/
def step (s : State) : Event → Option State
  | .blankFlash => some { s with eeprom := EepromManager.powerUp blankImage, lastSaved := none }
  | .wipe =>
      if s.eeprom.isInitialized then
        some { s with eeprom := s.eeprom.clearAll, lastSaved := none }
      else none
  | .save type millis =>
      if s.eeprom.isInitialized then
        some { s with eeprom := saveType s.eeprom type.type millis, lastSaved := some type.type }
      else none
  | .reboot reason behind => some (afterSetup s (Setup.untilAdapter s.eeprom.reboot reason behind))

def blankNode : State := ⟨EepromManager.powerUp blankImage, none, []⟩

/-- Every history begins with a factory-blank chip. -/
def system : System State Event where
  Init := fun s => s = blankNode
  step := step

/-- The boot created an adapter of the type saved last, or a PIR adapter when none was
saved. -/
def CreatesAdapter (b : Boot) : Prop :=
  ∃ adapter, b.created = .ok adapter ∧
    adapter.adapterType = b.lastSaved.getD AdapterTypes.pirAdapter

/-! ## The stored type -/

/-- The byte at the adapter type's address. -/
def storedByte : Option AdapterTypes → UInt8
  | none => 0xFF
  | some type => AdapterFactory.adapterTypeToEEPROM type

/-- An image of a production node that holds the type saved last. -/
structure Stores (lastSaved : Option AdapterTypes) (image : EepromImage) : Prop where
  devFlag : (bootBytes image).devFlag = 0xFF
  adapterType : (bootBytes image).adapterType = storedByte lastSaved
  schema : CurrentSchema image

/-- A blank EEPROM stores no type. -/
theorem stores_blank : Stores none blankImage :=
  ⟨rfl, rfl, .inl rfl⟩

/-- Only the three bytes matter. -/
theorem Stores.congr {lastSaved : Option AdapterTypes} {image image' : EepromImage}
    (h : Stores lastSaved image) (heq : bootBytes image' = bootBytes image) :
    Stores lastSaved image' := by
  refine ⟨?_, ?_, ?_⟩
  · rw [heq]
    exact h.devFlag
  · rw [heq]
    exact h.adapterType
  · rw [CurrentSchema, heq]
    exact h.schema

/-- The invariant: both images hold the type saved last, which the factory can build. -/
structure Holds (s : State) : Prop where
  reliable : s.eeprom.memory.Reliable
  production : s.eeprom.isDevMode = false
  cache : Stores s.lastSaved s.eeprom.memory.cache
  backing : Stores s.lastSaved s.eeprom.memory.backing
  buildable : ∀ type, s.lastSaved = some type → ∃ b : Buildable, b.type = type
  boots : ∀ b ∈ s.boots, CreatesAdapter b ↔ b.lastSaved ≠ none

/-! ## Wipes and saves -/

/-- On a production node a save of the type is a committed write of its byte.
SOURCE: AdapterFactory.cpp:62-70 -/
theorem saveType_eq {em : EepromManager} (hinit : em.isInitialized = true)
    (hprod : em.isDevMode = false) (type : AdapterTypes) (millis : UInt32) :
    (saveType em type millis).memory =
        (em.committedSave [(EepromAddresses.adapterType,
          AdapterFactory.adapterTypeToEEPROM type)]).memory ∧
      (saveType em type millis).isDevMode = false := by
  have hsave : AdapterFactory.saveAdapterTypeToEEPROM false type em =
      em.deferredSave [(EepromAddresses.adapterType,
        AdapterFactory.adapterTypeToEEPROM type)] := by
    simp only [AdapterFactory.saveAdapterTypeToEEPROM, EepromManager.saveAdapterType,
      EepromManager.unlessDevMode, hinit, hprod, Bool.not_true, Bool.false_eq_true, if_false]
  rw [saveType, hsave]
  exact ⟨rfl, hprod⟩

/-- Writing the type stores it and leaves the other two bytes. -/
theorem Stores.write_adapterType {em : EepromManager} {lastSaved : Option AdapterTypes}
    (h : Stores lastSaved em.memory.cache) (type : AdapterTypes) :
    Stores (some type) (em.write [(EepromAddresses.adapterType,
      AdapterFactory.adapterTypeToEEPROM type)]).memory.cache := by
  have hother : ∀ address, address ≠ EepromAddresses.adapterType →
      EepromManager.readByte (em.write [(EepromAddresses.adapterType,
        AdapterFactory.adapterTypeToEEPROM type)]).memory.cache address =
          EepromManager.readByte em.memory.cache address := by
    intro address hne
    refine readByte_write_of_notMem em fun w hw heq => hne ?_
    rw [List.mem_singleton.mp hw] at heq
    exact heq.symm
  refine ⟨?_, ?_, ?_⟩
  · exact (hother EepromAddresses.devFlag (by decide)).trans h.devFlag
  · exact readByte_write_singleton em _
      (by decide : EepromAddresses.adapterType < EepromSizes.totalSize)
  · have hversion := hother EepromAddresses.schemaVersion (by decide)
    rcases h.schema with hblank | hcurrent
    · exact .inl (hversion.trans hblank)
    · exact .inr (hversion.trans hcurrent)

/-! ## Boots -/

/-- What the factory answers at a production boot.
SOURCE: AdapterFactory.cpp:23-76 -/
theorem createBootAdapter_creates_iff {em : EepromManager} {lastSaved : Option AdapterTypes}
    (hinit : em.isInitialized = true) (hprod : em.isDevMode = false)
    (hstores : Stores lastSaved em.memory.cache)
    (hbuildable : ∀ type, lastSaved = some type → ∃ b : Buildable, b.type = type) :
    CreatesAdapter ⟨lastSaved, Setup.createBootAdapter em⟩ ↔ lastSaved ≠ none := by
  have hread : em.read EepromAddresses.adapterType = storedByte lastSaved := hstores.adapterType
  have hcreate : Setup.createBootAdapter em =
      AdapterFactory.createAdapter (AdapterFactory.adapterTypeFromEEPROM em.loadAdapterType)
        (AdapterFactory.getDefaultPinForAdapter
          (AdapterFactory.adapterTypeFromEEPROM em.loadAdapterType)) := by
    rw [Setup.createBootAdapter, hprod]
    rfl
  have hloaded : em.loadAdapterType =
      if storedByte lastSaved = 0xFF then 0 else storedByte lastSaved := by
    rw [EepromManager.loadAdapterType, hinit, hread]
    simp
  rw [hcreate, hloaded]
  cases lastSaved with
  | none =>
      simp only [ne_eq, not_true_eq_false, iff_false]
      rintro ⟨adapter, hok, -⟩
      change Except.error _ = Except.ok adapter at hok
      cases hok
  | some type =>
      obtain ⟨b, rfl⟩ := hbuildable type rfl
      simp only [ne_eq, reduceCtorEq, not_false_eq_true, iff_true]
      cases b with
      | pir => exact ⟨⟨AdapterFactory.pirAdapterDefaultPin, _, false⟩, rfl, rfl⟩
      | serial => exact ⟨⟨AdapterFactory.serialAdapterDefaultPin, _, false⟩, rfl, rfl⟩

/-! ## The invariant -/

/-- The blank device has saved nothing. -/
theorem holds_init : Holds blankNode where
  reliable := rfl
  production := rfl
  cache := stores_blank
  backing := stores_blank
  buildable := by
    intro type htype
    cases htype
  boots := by
    intro b hb
    cases hb

/-- After `init()`, saves that leave the three bytes alone keep the stored type. -/
theorem Holds.afterBoot {s : State} (h : Holds s) {em : EepromManager}
    (hsame : SameBoot s.eeprom.reboot.init em) :
    Stores s.lastSaved em.memory.cache ∧ Stores s.lastSaved em.memory.backing ∧
      em.memory.Reliable ∧ em.isInitialized = true ∧ em.isDevMode = false := by
  have hinit : InitializedFrom s.eeprom.reboot s.eeprom.reboot.init :=
    init_initializedFrom h.reliable rfl
  have hbytes := hinit.bytes h.backing.schema
  have hcache : Stores s.lastSaved s.eeprom.reboot.init.memory.cache := by
    refine ⟨?_, ?_, .inr hinit.version⟩
    · rw [hbytes]
      exact h.backing.devFlag
    · rw [hbytes]
      exact h.backing.adapterType
  refine ⟨hcache.congr hsame.bytes, ?_, ?_, ?_, ?_⟩
  · rw [hsame.backing, ← hinit.synced]
    exact hcache
  · exact hsame.faults.trans hinit.reliable
  · exact hsame.isInitialized.trans hinit.isInitialized
  · exact hsame.isDevMode.trans hinit.isDevMode

/-- A boot keeps the invariant and leaves an initialised manager.
SOURCE: main.ino:81-219 -/
theorem Holds.reboot {s : State} (h : Holds s) (reason : ResetReason) (behind : ℕ → UInt8) :
    Holds (afterSetup s (Setup.untilAdapter s.eeprom.reboot reason behind)) ∧
      (afterSetup s (Setup.untilAdapter s.eeprom.reboot reason behind)).eeprom.isInitialized =
        true := by
  have hcount := countReset_sameBoot s.eeprom.reboot reason
  obtain ⟨hcache, hbacking, hreliable, hinit, hprod⟩ := h.afterBoot hcount
  have hstopped : Holds { s with eeprom := Setup.countReset s.eeprom.reboot reason } :=
    ⟨hreliable, hprod, hcache, hbacking, h.buildable, h.boots⟩
  unfold Setup.untilAdapter
  simp only
  split
  · exact ⟨hstopped, hinit⟩
  · split
    · exact ⟨hstopped, hinit⟩
    · have hdefaults := hcount.trans
        (storeDefaults_sameBoot hinit hprod (loadDevFlag_eq_false hcache.devFlag) behind)
      obtain ⟨hcache', hbacking', hreliable', hinit', hprod'⟩ := h.afterBoot hdefaults
      refine ⟨⟨hreliable', hprod', hcache', hbacking', h.buildable, fun b hb => ?_⟩, hinit'⟩
      rcases List.mem_append.mp hb with hb | hb
      · exact h.boots b hb
      · rw [List.mem_singleton.mp hb]
        exact createBootAdapter_creates_iff hinit' hprod' hcache' h.buildable

/-- A committed save keeps the invariant when what it writes stores the new type. -/
theorem Holds.committedSave {s : State} (h : Holds s) {writes : List (ℕ × UInt8)}
    {lastSaved : Option AdapterTypes} {em : EepromManager}
    (hmemory : em.memory = (s.eeprom.committedSave writes).memory)
    (hprod : em.isDevMode = false)
    (hstores : Stores lastSaved (s.eeprom.write writes).memory.cache)
    (hbuildable : ∀ type, lastSaved = some type → ∃ b : Buildable, b.type = type) :
    Holds { s with eeprom := em, lastSaved := lastSaved } := by
  refine ⟨?_, hprod, ?_, ?_, hbuildable, h.boots⟩
  · rw [hmemory]
    exact committedSave_reliable h.reliable writes
  · rw [hmemory, committedSave_cache]
    exact hstores
  · rw [hmemory, committedSave_backing h.reliable]
    exact hstores

/-- One step keeps the invariant: one case for each event. -/
theorem Holds.step {s s' : State} {e : Event} (h : Holds s) (hstep : step s e = some s') :
    Holds s' := by
  cases e with
  | blankFlash =>
      cases hstep
      exact { holds_init with boots := h.boots }
  | wipe =>
      simp only [AdapterHistory.step, Option.ite_none_right_eq_some, Option.some.injEq] at hstep
      obtain ⟨hinit, rfl⟩ := hstep
      refine h.committedSave (congrArg _ (clearAll_eq hinit)) ?_ ?_ holds_init.buildable
      · rw [clearAll_eq hinit, committedSave_isDevMode]
        exact h.production
      · rw [clearAll_writes_blank]
        exact stores_blank
  | save type millis =>
      simp only [AdapterHistory.step, Option.ite_none_right_eq_some, Option.some.injEq] at hstep
      obtain ⟨hinit, rfl⟩ := hstep
      obtain ⟨hmemory, hprod⟩ := saveType_eq hinit h.production type.type millis
      refine h.committedSave hmemory hprod (h.cache.write_adapterType type.type) ?_
      intro type' htype
      cases htype
      exact ⟨type, rfl⟩
  | reboot reason behind =>
      cases hstep
      exact (h.reboot reason behind).1

/-! ## Result -/

/-- **A production boot creates its adapter exactly when a type was saved since the last
wipe.**
SOURCE: AdapterFactory.cpp:23-89, EEPROM_Manager.cpp:340-363, main.ino:172-210 -/
theorem boot_creates_iff {s : State} (h : system.Reachable s) :
    ∀ b ∈ s.boots, CreatesAdapter b ↔ b.lastSaved ≠ none := by
  have hinit : ∀ s, system.Init s → Holds s := by
    rintro s rfl
    exact holds_init
  exact (h.invariant hinit fun s e s' hs hstep => hs.step hstep).boots

/-! ## A blank node -/

/-- The state after a boot at power-on. -/
def poweredOn (s : State) : State :=
  afterSetup s (Setup.untilAdapter s.eeprom.reboot .powerOn fun _ => 0)

/-- A power cycle and a boot bring back the type that was saved. -/
theorem Holds.poweredOn {s : State} (h : Holds s) :
    Holds (poweredOn s) ∧ (poweredOn s).eeprom.isInitialized = true :=
  h.reboot .powerOn fun _ => 0

/-- Powering on is always a step. -/
theorem step_powerOn (s : State) :
    system.step s (.reboot .powerOn fun _ => 0) = some (poweredOn s) := rfl

/-- A boot at power-on is always logged. -/
theorem poweredOn_boots (s : State) :
    ∃ created, (poweredOn s).boots = s.boots ++ [⟨s.lastSaved, created⟩] :=
  ⟨_, rfl⟩

/-- A node that has booted may save any type it can build, and the log tells which. -/
theorem step_save {s : State} (hinit : s.eeprom.isInitialized = true) (type : Buildable) :
    ∃ s', system.step s (.save type 0) = some s' ∧ s'.lastSaved = some type.type ∧
      s'.boots = s.boots :=
  ⟨{ s with eeprom := saveType s.eeprom type.type 0, lastSaved := some type.type },
    if_pos hinit, rfl, rfl⟩

/-- A blank node is powered on, gets the serial type, and is powered on again: of its two
boots the second creates its adapter. -/
theorem boot_creates_second :
    ∃ s, system.runFrom blankNode [.reboot .powerOn fun _ => 0, .save .serial 0,
        .reboot .powerOn fun _ => 0] = some s ∧
      s.boots.map (·.lastSaved) = [none, some AdapterTypes.serialAdapter] ∧
      ∀ b ∈ s.boots, CreatesAdapter b ↔ b.lastSaved ≠ none := by
  obtain ⟨-, hinit⟩ := holds_init.poweredOn
  obtain ⟨s, hsave, hlast, hboots⟩ := step_save hinit .serial
  have hrun : system.runFrom blankNode [.reboot .powerOn fun _ => 0, .save .serial 0,
      .reboot .powerOn fun _ => 0] = some (poweredOn s) := by
    rw [System.runFrom_cons, step_powerOn, Option.bind_some, System.runFrom_cons, hsave,
      Option.bind_some, System.runFrom_cons, step_powerOn, Option.bind_some, System.runFrom_nil]
  have hreach : system.Reachable (poweredOn s) :=
    System.Reachable.runFrom (.init rfl) hrun
  refine ⟨poweredOn s, hrun, ?_, boot_creates_iff hreach⟩
  obtain ⟨first, hfirst⟩ := poweredOn_boots blankNode
  obtain ⟨second, hsecond⟩ := poweredOn_boots s
  rw [hsecond, hboots, hfirst, hlast]
  rfl

/-- The first boot of a blank node creates no adapter.
SOURCE: EEPROM_Manager.cpp:345-347, AdapterFactory.cpp:82-86 -/
theorem not_boot_creates_blank :
    ∃ s, system.runFrom blankNode [.reboot .powerOn fun _ => 0] = some s ∧
      ∃ b ∈ s.boots, ¬CreatesAdapter b := by
  obtain ⟨hholds, -⟩ := holds_init.poweredOn
  obtain ⟨created, hlog⟩ := poweredOn_boots blankNode
  have hmem : (⟨none, created⟩ : Boot) ∈ (poweredOn blankNode).boots := by
    rw [hlog]
    exact List.mem_append_right _ List.mem_cons_self
  refine ⟨poweredOn blankNode, ?_, _, hmem, fun hcreates => ?_⟩
  · rw [System.runFrom_cons, step_powerOn, Option.bind_some, System.runFrom_nil]
  · exact (hholds.boots _ hmem).mp hcreates rfl

end AdapterHistory

end LatticeNodes.Analysis
