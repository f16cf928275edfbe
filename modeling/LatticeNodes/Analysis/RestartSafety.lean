import LatticeNodes.Analysis.DeviceOutcomes
import LatticeNodes.Library.TransitionSystem

/-!
# What a restart loses

A production node runs through saves, flushes, received frames, serial frames, errors and
button presses, and powers up again after every restart.  Each restart is logged with the
device before the step.  `restart_keeps_iff` says, for every restart of every run, when no
saved setting is lost: always at the buttons, which flush first; otherwise only if nothing
was waiting for a commit and, for a commanded adapter type, flash held that type already.
-/

set_option autoImplicit false

namespace LatticeNodes.Analysis

open LatticeNodes.Program CachedMemory Relation TransitionSystem

namespace RestartSafety

/-! ## The system -/

/-- What happens to the node.  `meshWork` is everything else the mesh object does: its timers,
its own sends, its initialisation. -/
inductive Event where
  | powerUp (reason : ResetReason)
  | setup (behind : ℕ → UInt8)
  | save (call : SaveCall)
  | flush (millis : UInt32)
  | meshWork (mesh : Mesh)
  | meshFrame (env : DeviceEnv) (entry : RecvQueueEntry)
  | serialFrame (tls : Mbedtls) (env : Env) (bytes : List UInt8)
  | error (failure : Failure)
  | configButton (millis : UInt32)
  | resetButton (millis : UInt32)

/-- A restart, with the device before the step and the event that led to it. -/
structure Restarted where
  pre : Device
  event : Event
  restart : Restart

structure State where
  device : Device
  isRunning : Bool
  restarts : List Restarted

/-- The device when `setup()` has counted the reset.
SOURCE: main.ino:81-111 -/
def poweredUp (d : Device) (reason : ResetReason) : Device :=
  { d with
    mesh := Mesh.new
    eeprom := Setup.countReset d.eeprom.reboot reason
    adapter := none
    factoryDevMode := false
    serialOut := []
    sent := [] }

/-- The adapter of the boot, or the null pointer.
SOURCE: main.ino:172-219 -/
def withAdapter (d : Device) (behind : ℕ → UInt8) : Device :=
  let eeprom := Setup.storeDefaults d.eeprom behind
  { d with
    eeprom := eeprom
    adapter := match Setup.createBootAdapter eeprom with
      | .ok adapter => some { adapter with transmitFnSet := true }
      | .error _ => none }

/-- What a running node answers to an event; `none` when the event cannot happen.  A boot
that would leave production mode is not part of a run. -/
def outcome (d : Device) : Event → Option Outcome
  | .powerUp _ => none
  | .setup behind =>
      if d.adapter.isNone && !(withAdapter d behind).eeprom.isDevMode then
        some (.ok (withAdapter d behind))
      else none
  | .save call => some (.ok { d with eeprom := call.run d.eeprom })
  | .flush millis => some (.ok { d with eeprom := d.eeprom.flushIfDirty millis })
  | .meshWork mesh => some (.ok { d with mesh := mesh })
  | .meshFrame env entry => some (d.handleEntry env entry)
  | .serialFrame tls env bytes =>
      d.adapter.bind fun adapter =>
        if adapter.adapterType = AdapterTypes.serialAdapter then
          some (d.handleCompleteFrame tls env adapter bytes)
        else none
  | .error failure => some (d.fail failure)
  | .configButton millis => some (d.configButtonHeld millis)
  | .resetButton millis => some (d.resetConfirmed millis)

/-- After a restart the node is down, and the restart is logged. -/
def conclude (s : State) (e : Event) : Outcome → State
  | .ok d => { s with device := d }
  | .error r => ⟨r.device, false, s.restarts ++ [⟨s.device, e, r⟩]⟩

/-- Power may come back at any time; everything else happens to a running node. -/
def step (s : State) : Event → Option State
  | .powerUp reason => some ⟨poweredUp s.device reason, true, s.restarts⟩
  | e => if s.isRunning then (outcome s.device e).map (conclude s e) else none

/-- A run begins with a node that is down, over any flash image; every commit succeeds. -/
def system : System State Event where
  Init := fun s => s.isRunning = false ∧ s.restarts = [] ∧ s.device.eeprom.memory.Reliable
  step := step

/-- The first half of `setup()` is the two boot events together.
SOURCE: main.ino:81-210 -/
theorem untilAdapter_eq_events (d : Device) (reason : ResetReason) (behind : ℕ → UInt8)
    {created : Except Failure Adapter} {em : EepromManager}
    (h : Setup.untilAdapter d.eeprom.reboot reason behind = .created created em) :
    em = (withAdapter (poweredUp d reason) behind).eeprom ∧
      created = Setup.createBootAdapter em :=
  untilAdapter_created h

/-! ## Statement -/

/-- The message of a frame, if the event is one.
SOURCE: Serial_Adapter.cpp:369-375 -/
def Event.command (d : Device) : Event → Option MeshMessage
  | .meshFrame _ entry => some entry.msg
  | .serialFrame _ _ bytes => SerialAdapter.decodeMeshMessage d.wifiMac bytes
  | _ => none

/-- Every production boot over this EEPROM loads the type.
SOURCE: AdapterFactory.cpp:52-60 -/
def BootsWith (em : EepromManager) (type : AdapterTypes) : Prop :=
  ∀ reason behind,
    (Setup.storeDefaults (Setup.countReset em.reboot reason) behind).isDevMode = false →
      AdapterFactory.loadAdapterTypeFromEEPROM false
        (Setup.storeDefaults (Setup.countReset em.reboot reason) behind) = type

/-- Flash holds what RAM holds, and a restart that applied a commanded adapter type is
followed by boots that load it. -/
def Restarted.KeepsSettings (r : Restarted) : Prop :=
  r.restart.device.eeprom.memory.Synced ∧
    ∀ msg, r.event.command r.pre = some msg →
      BootsWith r.restart.device.eeprom
        (AdapterFactory.adapterTypeFromEEPROM (getElem msg.data 7 byte7_lt))

/-- The condition, on the device before the step: a button; an error when nothing waits for
a commit; a commanded adapter type when nothing waits and flash holds that type already. -/
def Restarted.NothingPending (r : Restarted) : Prop :=
  match r.event with
  | .error _ => r.pre.eeprom.memory.backing = r.pre.eeprom.memory.cache
  | .meshFrame _ _ | .serialFrame _ _ _ =>
      ∀ msg, r.event.command r.pre = some msg →
        r.pre.eeprom.memory.backing = Function.update r.pre.eeprom.memory.cache
          ⟨EepromAddresses.adapterType, by decide⟩ (Device.commandedByte msg)
  | _ => True

/-! ## The commanded type -/

/-- A byte comes back from its adapter type.
SOURCE: AdapterFactory.cpp:48-50 -/
theorem adapterTypeToEEPROM_ofNat (raw : UInt8) :
    AdapterFactory.adapterTypeToEEPROM (Int32.ofNat raw.toNat) = raw := by
  have hlt : raw.toNat < UInt32.size := raw.toNat_lt.trans (by decide)
  have hwiden : UInt32.ofNat raw.toNat = raw.toUInt32 := by
    apply UInt32.toNat_inj.mp
    rw [UInt32.toNat_ofNat_of_lt' hlt, UInt8.toNat_toUInt32]
  rw [AdapterFactory.adapterTypeToEEPROM, Int32.toUInt32_ofNat', hwiden, UInt8.toUInt8_toUInt32]

/-- The saved byte is loaded as the commanded type, also past the loader's own reading of the
unset marker.
SOURCE: AdapterFactory.cpp:41-50, EEPROM_Manager.cpp:340-350 -/
theorem adapterTypeFromEEPROM_commandedByte (msg : MeshMessage) :
    AdapterFactory.adapterTypeFromEEPROM
        (if Device.commandedByte msg = 0xFF then 0 else Device.commandedByte msg) =
      AdapterFactory.adapterTypeFromEEPROM (getElem msg.data 7 byte7_lt) := by
  unfold Device.commandedByte
  generalize msg.data[7] = raw
  by_cases hunset : raw = 0xFF
  · subst hunset
    rfl
  · have hback : AdapterFactory.adapterTypeToEEPROM (AdapterFactory.adapterTypeFromEEPROM raw) =
        raw := by
      rw [AdapterFactory.adapterTypeFromEEPROM, if_neg hunset, adapterTypeToEEPROM_ofNat]
    rw [hback, if_neg hunset]

/-- A boot over a flash image that holds the commanded byte loads the commanded type. -/
theorem bootsWith_commanded {em : EepromManager} {msg : MeshMessage} (h : Settled em)
    (hbyte : EepromManager.readByte em.memory.backing EepromAddresses.adapterType =
      Device.commandedByte msg) :
    BootsWith em (AdapterFactory.adapterTypeFromEEPROM (getElem msg.data 7 byte7_lt)) := by
  intro reason behind hmode
  have hinit : InitializedFrom em.reboot em.reboot.init := init_initializedFrom h.reliable rfl
  have hcount := countReset_sameBoot em.reboot reason
  have hload := storeDefaults_isDevMode behind hmode
  have hboot := hcount.trans (storeDefaults_sameBoot
    (hcount.isInitialized.trans hinit.isInitialized) (hcount.isDevMode.trans hinit.isDevMode)
    hload behind)
  have hisInit := hboot.isInitialized.trans hinit.isInitialized
  have hbytes := hboot.bytes.trans (hinit.bytes h.backingSchema)
  generalize Setup.storeDefaults (Setup.countReset em.reboot reason) behind = booted
    at hisInit hbytes ⊢
  have hread : booted.read EepromAddresses.adapterType = Device.commandedByte msg := by
    have htype := congrArg BootBytes.adapterType hbytes
    exact htype.trans hbyte
  rw [AdapterFactory.loadAdapterTypeFromEEPROM, if_neg Bool.false_ne_true,
    EepromManager.loadAdapterType, hisInit, hread, ← adapterTypeFromEEPROM_commandedByte]
  simp only [Bool.not_true, Bool.false_eq_true, if_false, beq_iff_eq]

/-- In production mode the commanded type is written and its commit deferred.
SOURCE: AdapterFactory.cpp:62-70, EEPROM_Manager.cpp:352-363 -/
theorem commanded_eq {d : Device} (h : Settled d.eeprom) (hmode : d.factoryDevMode = false)
    (msg : MeshMessage) : commanded d msg =
      d.eeprom.deferredSave [(EepromAddresses.adapterType, Device.commandedByte msg)] := by
  simp only [commanded, AdapterFactory.saveAdapterTypeToEEPROM, EepromManager.saveAdapterType,
    EepromManager.unlessDevMode, hmode, h.isInitialized, h.isDevMode, Bool.not_true,
    Bool.false_eq_true, if_false]
  rfl

/-! ## One step -/

/-- What a step has to leave: a settled device, or a restart that keeps the settings exactly
under the condition. -/
def Sound (d : Device) (e : Event) : Outcome → Prop
  | .ok d' => Settled d'.eeprom ∧ d'.factoryDevMode = false
  | .error r => r.device.eeprom.memory.Reliable ∧
      (Restarted.KeepsSettings ⟨d, e, r⟩ ↔ Restarted.NothingPending ⟨d, e, r⟩)

/-- A manager stays settled through any saves. -/
theorem settled_of_saves {em em' : EepromManager} (h : Settled em)
    (hsaves : ReflTransGen Saved em em') : Settled em' := by
  induction hsaves with
  | refl => exact h
  | tail _ hsaved ih => exact ih.saved hsaved

/-- An event that keeps the EEPROM is sound. -/
theorem kept_sound {d d' : Device} (hkept : Kept d d') (h : Settled d.eeprom)
    (hmode : d.factoryDevMode = false) (e : Event) : Sound d e (.ok d') :=
  ⟨settled_of_saves h hkept.eeprom, hkept.factoryDevMode.trans hmode⟩

/-- A frame keeps the settings exactly when the commanded byte was the only difference, and
no difference. -/
theorem answers_sound {d : Device} {site : RestartSite} {msg : MeshMessage} {o : Outcome}
    {e : Event} (hanswers : Answers d site msg o) (h : Settled d.eeprom)
    (hmode : d.factoryDevMode = false) (hcommand : e.command d = some msg) : Sound d e o := by
  cases hanswers with
  | ok hkept => exact kept_sound hkept h hmode e
  | @restart d' heeprom =>
      rw [commanded_eq h hmode] at heeprom
      have hsafe : SchemaSafe [(EepromAddresses.adapterType, Device.commandedByte msg)] :=
        schemaSafe_singleton (by decide)
      have hsettled := h.deferredSave hsafe
      have hcache := write_singleton_cache d.eeprom (Device.commandedByte msg)
        (by decide : EepromAddresses.adapterType < EepromSizes.totalSize)
      have hsynced : d'.eeprom.memory.Synced ↔
          d.eeprom.memory.backing = Function.update d.eeprom.memory.cache
            ⟨EepromAddresses.adapterType, by decide⟩ (Device.commandedByte msg) := by
        rw [heeprom, ← hcache]
        exact eq_comm
      have hpending : Restarted.NothingPending ⟨d, e, ⟨site, d'⟩⟩ ↔
          d.eeprom.memory.backing = Function.update d.eeprom.memory.cache
            ⟨EepromAddresses.adapterType, by decide⟩ (Device.commandedByte msg) := by
        cases e with
        | meshFrame env entry => simp [Restarted.NothingPending, hcommand]
        | serialFrame tls env bytes => simp [Restarted.NothingPending, hcommand]
        | _ => cases hcommand
      refine ⟨?_, ?_⟩
      · rw [heeprom]
        exact hsettled.reliable
      · rw [hpending, ← hsynced]
        constructor
        · exact And.left
        · intro hsync
          refine ⟨hsync, fun msg' hmsg' => ?_⟩
          obtain rfl : msg = msg' := Option.some.inj (hcommand.symm.trans hmsg')
          rw [heeprom]
          apply bootsWith_commanded hsettled
          rw [heeprom] at hsync
          rw [← hsync]
          exact readByte_write_singleton d.eeprom _
            (by decide : EepromAddresses.adapterType < EepromSizes.totalSize)

/-- A restart by a button keeps the settings: it flushes first.
SOURCE: main.ino:371-394, 402-423 -/
theorem button_sound {d d' : Device} {e : Event} {site : RestartSite}
    (hsettled : Settled d'.eeprom) (hsynced : d'.eeprom.memory.Synced)
    (hcommand : e.command d = none) (hpending : Restarted.NothingPending ⟨d, e, ⟨site, d'⟩⟩) :
    Sound d e (.error ⟨site, d'⟩) := by
  refine ⟨hsettled.reliable, iff_of_true ⟨hsynced, fun msg hmsg => ?_⟩ hpending⟩
  cases hcommand.symm.trans hmsg

/-- One case for each event.
SOURCE: main.ino:81-425 -/
theorem outcome_sound {d : Device} {e : Event} {o : Outcome} (h : Settled d.eeprom)
    (hmode : d.factoryDevMode = false) (ho : outcome d e = some o) : Sound d e o := by
  cases e with
  | powerUp reason => cases ho
  | setup behind =>
      simp only [outcome, Option.ite_none_right_eq_some, Option.some.injEq, Bool.and_eq_true,
        Bool.not_eq_true'] at ho
      obtain ⟨⟨-, hprod⟩, rfl⟩ := ho
      have hload := storeDefaults_isDevMode behind hprod
      exact ⟨h.storeDefaults hload behind, hmode⟩
  | save call =>
      cases ho
      exact ⟨h.saved (saveCall_saved d.eeprom call), hmode⟩
  | flush millis =>
      cases ho
      exact ⟨h.flushIfDirty millis, hmode⟩
  | meshWork mesh =>
      cases ho
      exact ⟨h, hmode⟩
  | meshFrame env entry =>
      cases ho
      exact answers_sound (handleEntry_answers d env entry) h hmode rfl
  | serialFrame tls env bytes =>
      obtain ⟨adapter, -, ho⟩ := Option.bind_eq_some_iff.mp ho
      simp only [Option.ite_none_right_eq_some, Option.some.injEq] at ho
      obtain ⟨-, rfl⟩ := ho
      rcases handleCompleteFrame_answers tls d env adapter bytes with
        ⟨d', hok, hkept⟩ | ⟨msg, hdecode, hanswers⟩
      · rw [hok]
        exact kept_sound hkept h hmode _
      · exact answers_sound hanswers h hmode hdecode
  | error failure =>
      cases ho
      unfold Device.fail
      split
      · refine ⟨h.reliable, ?_, fun hsynced => ⟨hsynced.symm, fun msg hmsg => ?_⟩⟩
        · intro hkeeps
          exact hkeeps.1.symm
        · cases hmsg
      · exact ⟨h, hmode⟩
  | configButton millis =>
      cases ho
      have hsaved := h.saved (saveCall_saved d.eeprom (.masterFlag (!d.eeprom.loadMasterFlag)))
      obtain ⟨hsettled, hsynced⟩ := hsaved.forceFlush millis
      exact button_sound hsettled hsynced rfl trivial
  | resetButton millis =>
      cases ho
      obtain ⟨hsettled, hsynced⟩ := (h.saved (saveCall_saved d.eeprom .clearAll)).forceFlush millis
      exact button_sound hsettled hsynced rfl trivial

/-! ## Runs -/

structure Invariant (s : State) : Prop where
  reliable : s.device.eeprom.memory.Reliable
  settled : s.isRunning = true → Settled s.device.eeprom ∧ s.device.factoryDevMode = false
  restarts : ∀ r ∈ s.restarts, r.KeepsSettings ↔ r.NothingPending

/-- A sound event keeps the invariant, also when it restarts the node. -/
theorem Invariant.conclude {s : State} (h : Invariant s) {e : Event} {o : Outcome}
    (hsound : Sound s.device e o) : Invariant (conclude s e o) := by
  cases o with
  | ok d' => exact ⟨hsound.1.reliable, fun _ => hsound, h.restarts⟩
  | error r =>
      refine ⟨hsound.1, fun hup => ?_, fun r' hr' => ?_⟩
      · cases hup
      · rcases List.mem_append.mp hr' with hold | hnew
        · exact h.restarts r' hold
        · rw [List.mem_singleton.mp hnew]
          exact hsound.2

/-- Every event keeps the invariant. -/
theorem Invariant.step {s s' : State} {e : Event} (h : Invariant s) (hstep : step s e = some s') :
    Invariant s' := by
  by_cases hpower : ∃ reason, e = .powerUp reason
  · obtain ⟨reason, rfl⟩ := hpower
    cases hstep
    have hsettled := settled_countReset h.reliable reason
    exact ⟨hsettled.reliable, fun _ => ⟨hsettled, rfl⟩, h.restarts⟩
  · have heq : RestartSafety.step s e =
        if s.isRunning then (outcome s.device e).map (RestartSafety.conclude s e) else none := by
      cases e with
      | powerUp reason => exact absurd ⟨reason, rfl⟩ hpower
      | _ => rfl
    rw [heq, Option.ite_none_right_eq_some] at hstep
    obtain ⟨hrunning, hmap⟩ := hstep
    obtain ⟨o, ho, rfl⟩ := Option.map_eq_some_iff.mp hmap
    obtain ⟨hsettled, hmode⟩ := h.settled hrunning
    exact h.conclude (outcome_sound hsettled hmode ho)

/-- The invariant holds in every reachable state. -/
theorem invariant_of_reachable {s : State} (h : system.Reachable s) : Invariant s := by
  refine h.invariant ?_ fun s e s' hs hstep => hs.step hstep
  rintro s ⟨hdown, hnone, hreliable⟩
  refine ⟨hreliable, fun hup => ?_, fun r hr => ?_⟩
  · rw [hdown] at hup
    cases hup
  · rw [hnone] at hr
    cases hr

/-! ## Result -/

/-- **A restart keeps the saved settings exactly when nothing was waiting for a commit.**
SOURCE: Adapter.cpp:46-71, Serial_Adapter.cpp:439-468, ErrorCore.cpp:41-102, main.ino:371-425 -/
theorem restart_keeps_iff {s : State} (h : system.Reachable s) :
    ∀ r ∈ s.restarts, r.KeepsSettings ↔ r.NothingPending :=
  (invariant_of_reachable h).restarts

/-- While the dirty flag is down, an error loses nothing. -/
theorem clean_synced {s : State} (h : system.Reachable s) (hrunning : s.isRunning = true)
    (hclean : s.device.eeprom.dirty = false) : s.device.eeprom.memory.Synced :=
  ((invariant_of_reachable h).settled hrunning).1.covers hclean

/-! ## A reconfigured node -/

/-- The flash of a PIR node with one peer byte, so that no default peers are stored. -/
def pirFlash : EepromImage :=
  Function.update (Function.update blankImage ⟨EepromAddresses.adapterType, by decide⟩ 2)
    ⟨EepromAddresses.peerList, by decide⟩ 0

def pirNode : Device where
  mesh := Mesh.new
  eeprom := EepromManager.powerUp pirFlash
  adapter := none
  factoryDevMode := false
  wifiMac := zeroMac
  serialOut := []
  sent := []

def downNode : State := ⟨pirNode, false, []⟩

/-- The runs of the node that is down are reachable. -/
theorem downNode_reachable {s : State} {events : List Event}
    (hrun : system.runFrom downNode events = some s) : system.Reachable s := by
  have hinit : system.Init downNode := ⟨rfl, rfl, rfl⟩
  exact System.Reachable.runFrom (.init hinit) hrun

/-- The mesh object once `linkDataRecvCallback` was called. -/
def linkedMesh : Mesh := { Mesh.new with externalRecvCallback := true }

/-- `OP_CONFIG_SET` for every node: become a serial adapter. -/
def configEntry : RecvQueueEntry :=
  ⟨zeroMac,
    { MeshMessage.zero with
      protoVersion := Config.protoVersion
      dataType := AdapterTypes.serialAdapter
      epochNum := 1
      seqNum := 1
      data := Vector.ofFn fun i =>
        [Opcode.configSet, 0xFF, 0xFF, 0xFF, 0xFF, 0xFF, 0xFF, 1].getD i 0 }⟩

/-- A press of the config button right after power-up. -/
theorem restart_keeps_configButton :
    ∃ s, system.runFrom downNode [.powerUp .powerOn, .configButton 0] = some s ∧
      s.restarts.length = 1 ∧ ∀ r ∈ s.restarts, r.KeepsSettings ↔ r.NothingPending := by
  have hrun : ∃ s, system.runFrom downNode [.powerUp .powerOn, .configButton 0] = some s ∧
      s.restarts.length = 1 := ⟨_, rfl, rfl⟩
  obtain ⟨s, hs, hlength⟩ := hrun
  exact ⟨s, hs, hlength, restart_keeps_iff (downNode_reachable hs)⟩

/-- A PIR node is told to become a serial adapter, restarts, and is a PIR node again.
SOURCE: Adapter.cpp:60-66, EEPROM_Manager.cpp:352-363 -/
theorem not_restart_keeps_config :
    ∃ s, system.runFrom downNode [.powerUp .powerOn, .setup fun _ => 0, .meshWork linkedMesh,
        .meshFrame quietDeviceEnv configEntry] = some s ∧
      ∃ r ∈ s.restarts, r.restart.site = .adapterConfigSet ∧
        ¬r.restart.device.eeprom.memory.Synced ∧
        ¬BootsWith r.restart.device.eeprom AdapterTypes.serialAdapter ∧ ¬r.KeepsSettings := by
  have hrun : ∃ s r, system.runFrom downNode [.powerUp .powerOn, .setup fun _ => 0,
        .meshWork linkedMesh, .meshFrame quietDeviceEnv configEntry] = some s ∧
      s.restarts = [r] ∧ r.restart.site = .adapterConfigSet ∧
        r.restart.device.eeprom.memory.cache ⟨EepromAddresses.adapterType, by decide⟩ = 1 ∧
        r.restart.device.eeprom.memory.backing ⟨EepromAddresses.adapterType, by decide⟩ = 2 ∧
        (Setup.storeDefaults (Setup.countReset r.restart.device.eeprom.reboot .powerOn)
          fun _ => 0).isDevMode = false ∧
        AdapterFactory.loadAdapterTypeFromEEPROM false (Setup.storeDefaults
          (Setup.countReset r.restart.device.eeprom.reboot .powerOn) fun _ => 0) = 2 :=
    ⟨_, _, rfl, rfl, rfl, rfl, rfl, rfl, rfl⟩
  obtain ⟨s, r, hs, hr, hsite, hcache, hbacking, hmode, hload⟩ := hrun
  have hlost : ¬r.restart.device.eeprom.memory.Synced := by
    intro hsynced
    rw [hsynced, hbacking] at hcache
    cases hcache
  refine ⟨s, hs, r, by rw [hr]; exact List.mem_cons_self, hsite, hlost, ?_, fun h => hlost h.1⟩
  intro hboots
  rw [hboots .powerOn (fun _ => 0) hmode] at hload
  exact absurd hload (by decide)

end RestartSafety

end LatticeNodes.Analysis
