import LatticeNodes.Analysis.MeshNetwork
import LatticeNodes.Analysis.StoredEpoch
import LatticeNodes.Library.DurableCounter
import LatticeNodes.Program.Setup

/-!
# Boot epochs are fresh

A production node that boots any number of times.  The steps of a boot are cut where flash may
change, one commit in each at most, so that a power loss before or after a step is one at any point
of it.  Between the boots, and in a running node, everything else goes on: messages are built,
received and relayed, peers come and go, other fields are saved and flushed.

The node refines a `DurableCounter` with the stored epoch as its number and the messages of
`buildMessage` as its stamps: `epochs_fresh`.
-/

set_option autoImplicit false

namespace LatticeNodes.Analysis

open LatticeNodes.Program CachedMemory TransitionSystem

namespace BootEpochs

open EepromFields

/-! ## The node -/

/-- How far a boot has come. -/
inductive Phase where
  | down
  /-- `EEPROM.begin` has loaded the RAM image. -/
  | powered
  | migrated
  | validated
  /-- `setup()` has stored what it saves before the mesh starts. -/
  | configured
  /-- `Mesh::init` has loaded the peers, keys and masters. -/
  | restored
  /-- `Mesh::init` has stored the new epoch. -/
  | counted
  | running
  deriving DecidableEq

/-- A frame the radio accepted, with the boot that sent it. -/
structure Sent where
  boot : ℕ
  msg : MeshMessage

structure State where
  eeprom : EepromManager
  mesh : Mesh
  phase : Phase
  boots : ℕ
  sent : List Sent

/-- The work of the mesh object that builds no message.
SOURCE: Mesh.cpp:310-323, 544-604, 706-726, 801-815, 1082-1105 -/
inductive Task where
  | handleEntry (env : Env) (entry : RecvQueueEntry)
  | dispatchRelay (env : Env)
  | checkMasterTimeout (env : Env)
  | drainPendingEnrollment
  | addPeer (tls : Mbedtls) (env : Env) (mac : MacAddress)
  | removePeer (env : Env) (mac : MacAddress)
  | onDataRecvCallback (srcMac : MacAddress) (len : ℕ) (msg : MeshMessage)

def Task.run (m : Mesh) : Task → Mesh × List Effect
  | .handleEntry env entry => m.handleEntry env entry
  | .dispatchRelay env => m.dispatchRelay env
  | .checkMasterTimeout env => (m.checkMasterTimeout env, [])
  | .drainPendingEnrollment => m.drainPendingEnrollment
  | .addPeer tls env mac => m.addPeer tls env mac
  | .removePeer env mac => m.removePeer env mac
  | .onDataRecvCallback srcMac len msg => (m.onDataRecvCallback srcMac len msg, [])

inductive Event where
  | powerLoss
  | powerOn
  | migrate
  | validateRebootBytes
  | configure (reason : ResetReason) (behind : ℕ → UInt8)
  | loadPersistentState (generated : Key × Key)
  | countBoot
  | setupRadio (tls : Mbedtls) (r : Mesh.InitEnv)
  | call (env : Env) (c : MeshNetwork.Call)
  | task (t : Task)
  | save (c : SaveCall)
  | flushIfDirty (millis : UInt32)
  | forceFlush (millis : UInt32)

/-- The frames of one step. -/
def State.sends (s : State) (result : Mesh × List Effect) : State :=
  { s with
    mesh := result.1
    sent := s.sent ++ (sentFrames result.2).map fun f => ⟨s.boots, f.2⟩ }

/-- `Mesh::init` fails with `esp_now_init`, and `setup()` then never returns.
SOURCE: Mesh.cpp:383-406, main.ino:230-282 -/
def State.radio (s : State) (tls : Mbedtls) (r : Mesh.InitEnv) : Option State :=
  let espNow := (s.mesh.setupWiFi r).1.setupEspNow tls r.radio r.initError
  if espNow.1 then
    some { s with mesh := espNow.2.1.link s.eeprom.loadMasterFlag, phase := .running }
  else none

/-- One step, in the order of `setup()`; an EEPROM wipe, by `init()` or by the reset button, is
not part of a run, and a running node makes no save but those of the firmware. -/
def step (s : State) : Event → Option State
  | .powerLoss => some { s with phase := .down }
  | .powerOn =>
      if s.phase = .down then
        some ⟨s.eeprom.reboot, Mesh.new, .powered, s.boots + 1, s.sent⟩
      else none
  | .migrate =>
      if s.phase = .powered ∧ ¬Wipes s.eeprom then
        some { s with eeprom := (begun s.eeprom).migrate, phase := .migrated }
      else none
  | .validateRebootBytes =>
      if s.phase = .migrated then
        some { s with eeprom := s.eeprom.validateRebootBytes, phase := .validated }
      else none
  | .configure reason behind =>
      if s.phase = .validated then
        some { s with
          eeprom := Setup.storeDefaults (Setup.countReset s.eeprom reason) behind
          phase := .configured }
      else none
  | .loadPersistentState generated =>
      if s.phase = .configured then
        let restored := s.mesh.loadPersistentState s.eeprom generated
        some { s with eeprom := restored.2, mesh := restored.1, phase := .restored }
      else none
  | .countBoot =>
      if s.phase = .restored then
        let counted := s.mesh.countBoot s.eeprom
        some { s with eeprom := counted.2, mesh := counted.1, phase := .counted }
      else none
  | .setupRadio tls r => if s.phase = .counted then s.radio tls r else none
  | .call env c => if s.phase = .running then some (s.sends (c.run s.mesh env)) else none
  | .task t => if s.phase = .running then some (s.sends (t.run s.mesh)) else none
  | .save c =>
      if s.phase = .running ∧ sparesEpoch c = true then
        some { s with eeprom := c.run s.eeprom }
      else none
  | .flushIfDirty millis =>
      if s.phase = .running then some { s with eeprom := s.eeprom.flushIfDirty millis } else none
  | .forceFlush millis =>
      if s.phase = .running then some { s with eeprom := s.eeprom.forceFlush millis } else none

/-- A production node that is off, with the epoch in flash; every commit succeeds. -/
structure Start (first : UInt32) (s : State) : Prop where
  down : s.phase = .down
  boots : s.boots = 0
  sent : s.sent = []
  reliable : s.eeprom.memory.Reliable
  flash : Reads (EepromManager.readByte s.eeprom.memory.backing) first

def system (first : UInt32) : System State Event where
  Init := Start first
  step := step

/-- The messages of `buildMessage`: no relay copy, and no enrollment message.
SOURCE: Mesh.cpp:351-369 -/
def Built (msg : MeshMessage) : Prop :=
  msg.hopCount = 0 ∧ msg.protoVersion = Config.protoVersion

instance (msg : MeshMessage) : Decidable (Built msg) :=
  inferInstanceAs (Decidable (_ ∧ _))

/-! ## What a running node sends -/

section Sends

variable {m : Mesh}

/-- The pending relay is a relay copy. -/
def RelaysOnly (m : Mesh) : Prop :=
  m.relayPending = true → m.relayPendingMsg.hopCount ≠ 0

/-- A copy has at least one hop: the hop guard keeps the counter from wrapping. -/
theorem relayCopy_hopCount {msg : MeshMessage} (h : msg.hopCount < Config.maxHops)
    (mac : MacAddress) : (msg.relayCopy mac).hopCount ≠ 0 := by
  have hlt : msg.hopCount.toNat < Config.maxHops.toNat := UInt8.lt_iff_toNat_lt.mp h
  have hmax : Config.maxHops.toNat = 10 := rfl
  intro hzero
  have hnext : (msg.hopCount + 1).toNat = 0 := congrArg UInt8.toNat hzero
  rw [UInt8.toNat_add] at hnext
  have hone : (1 : UInt8).toNat = 1 := rfl
  omega

/-- Work that leaves the pending relay alone keeps it a copy. -/
theorem RelaysOnly.kept (h : RelaysOnly m) {m' : Mesh} (hkept : RelayKept m m') :
    RelaysOnly m' := by
  intro hpending
  obtain ⟨hbefore, hmsg⟩ := hkept.pending hpending
  rw [hmsg]
  exact h hbefore

/-- What a step of the mesh object leaves: the epoch, and relay copies only. -/
structure Forwards (m : Mesh) (result : Mesh × List Effect) : Prop where
  bootEpoch : result.1.bootEpoch = m.bootEpoch
  relays : RelaysOnly result.1
  frames : ∀ f ∈ sentFrames result.2, f.2.hopCount ≠ 0

/-- Work that sends nothing forwards nothing of its own. -/
theorem Forwards.silent (h : RelaysOnly m) {result : Mesh × List Effect}
    (hepoch : result.1.bootEpoch = m.bootEpoch) (hkept : RelayKept m result.1)
    (hsilent : sentFrames result.2 = []) : Forwards m result := by
  refine ⟨hepoch, h.kept hkept, fun f hf => ?_⟩
  rw [hsilent] at hf
  cases hf

/-- What a drained message sends was built with this boot's epoch, or is a copy.
SOURCE: Mesh.cpp:563-604 -/
theorem handleEntry_forwards (h : RelaysOnly m) (env : Env) (entry : RecvQueueEntry) :
    Forwards m (m.handleEntry env entry) := by
  refine ⟨(handleEntry_sameNode m env entry).bootEpoch, ?_, fun f hf => ?_⟩
  · rcases handleEntry_relay m env entry with ⟨-, hdone⟩ | ⟨-, hkept⟩
    · intro _
      rw [hdone.pending.2]
      exact relayCopy_hopCount hdone.hopCount _
    · exact h.kept hkept
  · obtain ⟨hhop, hcopy⟩ := handleEntry_frames hf
    rw [hcopy]
    exact relayCopy_hopCount hhop _

/-- What the relay timer sends is a copy.
SOURCE: Mesh.cpp:1099-1105 -/
theorem dispatchRelay_forwards (h : RelaysOnly m) (env : Env) :
    Forwards m (m.dispatchRelay env) := by
  refine ⟨?_, h.kept (dispatchRelay_relayKept m env), fun f hf => ?_⟩
  · rcases dispatchRelay_fst m env with heq | heq
    · rw [heq]
    · rw [heq]
  · obtain ⟨hpending, hframe⟩ := dispatchRelay_frames hf
    rw [hframe]
    exact h hpending

/-- Registering a peer touches neither the epoch nor the relay.
SOURCE: Mesh.cpp:131-160 -/
theorem registerPeerWithEspNow_kept (m : Mesh) (tls : Mbedtls) (env : Env) (mac : MacAddress)
    (publicKey : Key) :
    (m.registerPeerWithEspNow tls env mac publicKey).1.bootEpoch = m.bootEpoch ∧
      RelayKept m (m.registerPeerWithEspNow tls env mac publicKey).1 := by
  rw [registerPeerWithEspNow_frame]
  exact ⟨rfl, rfl, rfl, rfl, fun h => ⟨h, rfl⟩⟩

/-- Adding a peer sends nothing.
SOURCE: Mesh.cpp:706-722 -/
theorem addPeer_forwards (h : RelaysOnly m) (tls : Mbedtls) (env : Env) (mac : MacAddress) :
    Forwards m (m.addPeer tls env mac) := by
  unfold Mesh.addPeer
  split
  · exact .silent h rfl (RelayKept.refl m) rfl
  · split
    · exact .silent h rfl (RelayKept.refl m) rfl
    · obtain ⟨hepoch, hkept⟩ := registerPeerWithEspNow_kept
        { m with peers := m.peers.appendPeer ⟨mac, zeroKey, 0⟩ } tls env mac zeroKey
      have hadded : RelayKept m { m with peers := m.peers.appendPeer ⟨mac, zeroKey, 0⟩ } :=
        ⟨rfl, rfl, rfl, fun h => ⟨h, rfl⟩⟩
      refine .silent h hepoch (hadded.trans hkept) ?_
      show sentFrames (_ ++ _) = []
      rw [sentFrames_append, registerPeerWithEspNow_silent, List.append_nil]
      rfl

/-- Removing a peer sends nothing. -/
theorem removePeer_forwards (h : RelaysOnly m) (env : Env) (mac : MacAddress) :
    Forwards m (m.removePeer env mac) := by
  unfold Mesh.removePeer Mesh.espNowDelPeer
  simp only
  split
  · exact .silent h rfl ⟨rfl, rfl, rfl, fun h => ⟨h, rfl⟩⟩ rfl
  · exact .silent h rfl ⟨rfl, rfl, rfl, fun h => ⟨h, rfl⟩⟩ rfl

/-- **A task keeps the epoch, and sends relay copies only.** -/
theorem Task.run_forwards (h : RelaysOnly m) (t : Task) : Forwards m (t.run m) := by
  cases t with
  | handleEntry env entry => exact handleEntry_forwards h env entry
  | dispatchRelay env => exact dispatchRelay_forwards h env
  | checkMasterTimeout env =>
      show Forwards m (m.checkMasterTimeout env, [])
      rw [checkMasterTimeout_frame]
      exact .silent h rfl ⟨rfl, rfl, rfl, fun h => ⟨h, rfl⟩⟩ rfl
  | drainPendingEnrollment =>
      show Forwards m m.drainPendingEnrollment
      unfold Mesh.drainPendingEnrollment
      split
      · exact .silent h rfl (RelayKept.refl m) rfl
      · refine .silent h rfl ⟨rfl, rfl, rfl, fun h => ⟨h, rfl⟩⟩ ?_
        show sentFrames (if m.enrollmentRelayFn then _ else _) = []
        split
        · rfl
        · rfl
  | addPeer tls env mac => exact addPeer_forwards h tls env mac
  | removePeer env mac => exact removePeer_forwards h env mac
  | onDataRecvCallback srcMac len msg =>
      show Forwards m (m.onDataRecvCallback srcMac len msg, [])
      rw [onDataRecvCallback_frame]
      exact .silent h rfl ⟨rfl, rfl, rfl, fun h => ⟨h, rfl⟩⟩ rfl

/-- The message of a call carries the epoch of the node, unless it is one of the two enrollment
messages, which carry none.
SOURCE: Mesh.cpp:351-369, 986-999, 1061-1069 -/
theorem frame_epoch (m : Mesh) (c : MeshNetwork.Call) :
    (c.frame m).hopCount = 0 ∧
      ((c.frame m).protoVersion = Config.protoVersion ∧ (c.frame m).epochNum = m.bootEpoch ∨
        (c.frame m).protoVersion = 0 ∧ (c.frame m).epochNum = 0) := by
  cases c with
  | transmit type data =>
      simp only [MeshNetwork.Call.frame]
      split
      · exact ⟨rfl, .inl ⟨rfl, rfl⟩⟩
      · exact ⟨rfl, .inl ⟨rfl, rfl⟩⟩
  | broadcastAdapterData type data => exact ⟨rfl, .inl ⟨rfl, rfl⟩⟩
  | broadcastMasterBeacon => exact ⟨rfl, .inl ⟨rfl, rfl⟩⟩
  | sendEnrollmentRequest => exact ⟨rfl, .inr ⟨rfl, rfl⟩⟩
  | enrollPeer tls mac publicKey => exact ⟨rfl, .inr ⟨rfl, rfl⟩⟩

/-- No call of the running node changes the epoch of the boot. -/
theorem run_bootEpoch (m : Mesh) (env : Env) (c : MeshNetwork.Call) :
    (c.run m env).1.bootEpoch = m.bootEpoch := by
  rw [MeshNetwork.Call.run_frame]

end Sends

/-! ## The stages of a boot -/

section Boot

variable {em : EepromManager} {epoch : UInt32} {m : Mesh}

/-- SOURCE: main.ino:97-110 -/
theorem countReset_carries (h : Carries em epoch) (hproduction : Production em)
    (reason : ResetReason) : Carries (Setup.countReset em reason) epoch ∧
      Production (Setup.countReset em reason) := by
  have hinit : em.init = em := if_pos hproduction.isInitialized
  have hreason : Carries (em.saveRebootReason reason.toByte) epoch :=
    @Carries.run em epoch h hproduction (.rebootReason reason.toByte) rfl
  have hprod : Production (em.saveRebootReason reason.toByte) :=
    hproduction.run (.rebootReason reason.toByte)
  obtain ⟨count, heq⟩ := countReset_eq em reason
  rw [heq, hinit]
  exact ⟨@Carries.run _ epoch hreason hprod (.rebootCount count) rfl,
    hprod.run (.rebootCount count)⟩

/-- A production EEPROM holds no development flag. -/
theorem Carries.loadDevFlag (h : Carries em epoch) (hproduction : Production em) :
    em.loadDevFlag = false :=
  (load_eq_read hproduction.isInitialized .devFlag).trans h.ram.devFlag

/-- SOURCE: main.ino:172-197 -/
theorem storeDefaults_carries (h : Carries em epoch) (hproduction : Production em)
    (behind : ℕ → UInt8) : Carries (Setup.storeDefaults em behind) epoch ∧
      Production (Setup.storeDefaults em behind) := by
  rcases storeDefaults_cases hproduction.isInitialized hproduction.isDevMode
    (h.loadDevFlag hproduction) behind with heq | heq
  · rw [heq]
    exact ⟨@Carries.run em epoch h hproduction
        (.peerList (Setup.defaultPeerList behind) Config.defaultPeers.length) rfl,
      hproduction.run (.peerList (Setup.defaultPeerList behind) Config.defaultPeers.length)⟩
  · rw [heq]
    exact ⟨h, hproduction⟩

/-- What is loaded is the mesh key that is stored, or the default one is saved.
SOURCE: Mesh.cpp:728-759 -/
theorem loadMeshKeyFromEEPROM_cases (m : Mesh) (em : EepromManager) :
    (m.loadMeshKeyFromEEPROM em).2 = em.saveMeshKey Config.defaultMeshKey.toList ∨
      (m.loadMeshKeyFromEEPROM em).2 = em := by
  unfold Mesh.loadMeshKeyFromEEPROM
  simp only
  generalize (if Config.devMode = true then Config.defaultMeshKey else _) = key
  split
  · exact .inl rfl
  · exact .inr rfl

/-- **`loadPersistentState` makes at most two saves**: what both keep, it keeps.
SOURCE: Mesh.cpp:371-376 -/
theorem loadPersistentState_keeps {P : EepromManager → Prop} {generated : Key × Key}
    (hkey : ∀ em, P em → P (em.saveMeshKey Config.defaultMeshKey.toList))
    (hpair : ∀ em, P em → P (em.saveKeypair generated.1 generated.2)) (h : P em) (m : Mesh) :
    P (m.loadPersistentState em generated).2 := by
  have hkeyed : P ((m.loadPeersFromEEPROM em).loadMeshKeyFromEEPROM em).2 := by
    rcases loadMeshKeyFromEEPROM_cases (m.loadPeersFromEEPROM em) em with heq | heq
    · rw [heq]
      exact hkey em h
    · rw [heq]
      exact h
  unfold Mesh.loadPersistentState
  simp only
  generalize (m.loadPeersFromEEPROM em).loadMeshKeyFromEEPROM em = keyed at hkeyed ⊢
  unfold Mesh.loadOrGenerateKeypair
  split
  · exact hkeyed
  · exact hpair _ hkeyed

/-- Loading the state of the mesh stores no other epoch. -/
theorem loadPersistentState_carries (h : Carries em epoch) (hproduction : Production em)
    (m : Mesh) (generated : Key × Key) :
    Carries (m.loadPersistentState em generated).2 epoch ∧
      Production (m.loadPersistentState em generated).2 := by
  have hsave : ∀ (c : SaveCall), sparesEpoch c = true → ∀ em,
      Carries em epoch ∧ Production em → Carries (c.run em) epoch ∧ Production (c.run em) :=
    fun c hspares em hem => ⟨hem.1.run hem.2 hspares, hem.2.run c⟩
  exact @loadPersistentState_keeps em (fun em => Carries em epoch ∧ Production em) generated
    (hsave (.meshKey Config.defaultMeshKey.toList) rfl)
    (hsave (.keypair generated.1 generated.2) rfl) ⟨h, hproduction⟩ m

/-- Neither the epoch nor the deferred relay has changed. -/
structure BootKept (m m' : Mesh) : Prop where
  bootEpoch : m'.bootEpoch = m.bootEpoch
  relayPending : m'.relayPending = m.relayPending
  relayPendingMsg : m'.relayPendingMsg = m.relayPendingMsg

/-- What two stages keep, they keep together. -/
theorem BootKept.trans {m₁ m₂ m₃ : Mesh} (h : BootKept m₁ m₂) (h' : BootKept m₂ m₃) :
    BootKept m₁ m₃ :=
  ⟨h'.bootEpoch.trans h.bootEpoch, h'.relayPending.trans h.relayPending,
    h'.relayPendingMsg.trans h.relayPendingMsg⟩

/-- A stage of the boot keeps the pending relay a copy. -/
theorem BootKept.relaysOnly {m' : Mesh} (h : BootKept m m') (hrelays : RelaysOnly m) :
    RelaysOnly m' := by
  intro hpending
  rw [h.relayPendingMsg]
  exact hrelays (h.relayPending.symm.trans hpending)

/-! What each part of `Mesh::init` writes. -/

/-- SOURCE: Mesh.cpp:233-272 -/
theorem loadPeersFromEEPROM_frame (m : Mesh) (em : EepromManager) :
    ∃ peers, m.loadPeersFromEEPROM em = { m with peers := peers } := by
  unfold Mesh.loadPeersFromEEPROM
  split
  · exact ⟨_, rfl⟩
  · exact ⟨_, rfl⟩

/-- SOURCE: Mesh.cpp:728-759 -/
theorem loadMeshKeyFromEEPROM_frame (m : Mesh) (em : EepromManager) :
    ∃ meshKey, (m.loadMeshKeyFromEEPROM em).1 = { m with meshKey := meshKey } := by
  unfold Mesh.loadMeshKeyFromEEPROM
  simp only
  generalize (if Config.devMode = true then Config.defaultMeshKey else _) = key
  split
  · exact ⟨_, rfl⟩
  · exact ⟨_, rfl⟩

/-- SOURCE: Mesh.cpp:434-490 -/
theorem loadOrGenerateKeypair_frame (m : Mesh) (em : EepromManager) (generated : Key × Key) :
    ∃ privateKey publicKey, (m.loadOrGenerateKeypair em generated).1 =
      { m with devicePrivateKey := privateKey, devicePublicKey := publicKey } := by
  unfold Mesh.loadOrGenerateKeypair
  split
  · exact ⟨_, _, rfl⟩
  · exact ⟨_, _, rfl⟩

/-- SOURCE: Mesh.cpp:421-431 -/
theorem loadMasters_frame (m : Mesh) (em : EepromManager) :
    ∃ primary hasPrimary secondary hasSecondary, m.loadMasters em =
      { m with
        knownMasterMac := primary
        hasMasterMac := hasPrimary
        knownMasterMacSecondary := secondary
        hasMasterMacSecondary := hasSecondary } := by
  unfold Mesh.loadMasters
  simp only
  split
  · exact ⟨_, _, _, _, rfl⟩
  · exact ⟨_, _, m.knownMasterMacSecondary, m.hasMasterMacSecondary, rfl⟩

/-- The peers, the keys and the masters are loaded.
SOURCE: Mesh.cpp:371-376 -/
theorem loadPersistentState_frame (m : Mesh) (em : EepromManager) (generated : Key × Key) :
    ∃ peers meshKey privateKey publicKey primary hasPrimary secondary hasSecondary,
      (m.loadPersistentState em generated).1 =
        { m with
          peers := peers
          meshKey := meshKey
          devicePrivateKey := privateKey
          devicePublicKey := publicKey
          knownMasterMac := primary
          hasMasterMac := hasPrimary
          knownMasterMacSecondary := secondary
          hasMasterMacSecondary := hasSecondary } := by
  let keyed := (m.loadPeersFromEEPROM em).loadMeshKeyFromEEPROM em
  let paired := keyed.1.loadOrGenerateKeypair keyed.2 generated
  obtain ⟨peers, hpeers⟩ := loadPeersFromEEPROM_frame m em
  obtain ⟨meshKey, hkey⟩ := loadMeshKeyFromEEPROM_frame (m.loadPeersFromEEPROM em) em
  obtain ⟨privateKey, publicKey, hpair⟩ := loadOrGenerateKeypair_frame keyed.1 keyed.2 generated
  obtain ⟨primary, hasPrimary, secondary, hasSecondary, hmasters⟩ :=
    loadMasters_frame paired.1 paired.2
  refine ⟨peers, meshKey, privateKey, publicKey, primary, hasPrimary, secondary, hasSecondary,
    hmasters.trans ?_⟩
  rw [hpair, hkey, hpeers]

/-- SOURCE: Mesh.cpp:191-202, 408-415 -/
theorem setupWiFi_frame (m : Mesh) (r : Mesh.InitEnv) :
    ∃ mac, (m.setupWiFi r).1 = { m with deviceMacAddress := mac } := by
  unfold Mesh.setupWiFi
  simp only
  split
  · exact ⟨_, rfl⟩
  · exact ⟨m.deviceMacAddress, rfl⟩

/-- SOURCE: Mesh.cpp:501-512 -/
theorem registerBroadcast_frame (m : Mesh) (env : Env) :
    ∃ registered, m.registerBroadcast env = { m with espNowPeers := registered } := by
  unfold Mesh.registerBroadcast
  split
  · exact ⟨m.espNowPeers, rfl⟩
  · split
    · exact ⟨_, rfl⟩
    · exact ⟨m.espNowPeers, rfl⟩

/-- The radio is set up: the address is read, and the peers are registered.
SOURCE: Mesh.cpp:383-406, 492-521 -/
theorem setupEspNow_frame (m : Mesh) (tls : Mbedtls) (r : Mesh.InitEnv) :
    ∃ mac registered, ((m.setupWiFi r).1.setupEspNow tls r.radio r.initError).2.1 =
      { m with deviceMacAddress := mac, espNowPeers := registered } := by
  obtain ⟨mac, hwifi⟩ := setupWiFi_frame m r
  rw [hwifi]
  unfold Mesh.setupEspNow
  split
  · exact ⟨mac, m.espNowPeers, rfl⟩
  · obtain ⟨broadcast, hbroadcast⟩ :=
      registerBroadcast_frame { m with deviceMacAddress := mac } r.radio
    obtain ⟨registered, hregistered⟩ := registerPeers_frame tls r.radio
      { m with deviceMacAddress := mac, espNowPeers := broadcast } m.peers.entries
    refine ⟨mac, registered, ?_⟩
    rw [hbroadcast]
    exact hregistered

/-- `Mesh::init` leaves the route and the mode alone.
SOURCE: Mesh.cpp:371-406 -/
theorem init_kept (m : Mesh) (em : EepromManager) (tls : Mbedtls) (r : Mesh.InitEnv) :
    (m.init em tls r).2.1.1.currentMaster = m.currentMaster ∧
      (m.init em tls r).2.1.1.dualMasterMode = m.dualMasterMode := by
  obtain ⟨peers, meshKey, privateKey, publicKey, primary, hasPrimary, secondary, hasSecondary,
    hloaded⟩ := loadPersistentState_frame m em r.generated
  obtain ⟨mac, registered, hset⟩ := setupEspNow_frame
    ((m.loadPersistentState em r.generated).1.countBoot (m.loadPersistentState em r.generated).2).1
    tls r
  constructor
  · show Mesh.currentMaster (Mesh.setupEspNow _ _ _ _).2.1 = _
    rw [hset, Mesh.countBoot, hloaded]
  · show Mesh.dualMasterMode (Mesh.setupEspNow _ _ _ _).2.1 = _
    rw [hset, Mesh.countBoot, hloaded]

/-- SOURCE: Mesh.cpp:371-376 -/
theorem loadPersistentState_kept (m : Mesh) (em : EepromManager) (generated : Key × Key) :
    BootKept m (m.loadPersistentState em generated).1 := by
  obtain ⟨peers, meshKey, privateKey, publicKey, primary, hasPrimary, secondary, hasSecondary,
    heq⟩ := loadPersistentState_frame m em generated
  rw [heq]
  exact ⟨rfl, rfl, rfl⟩

/-- SOURCE: Mesh.cpp:383-406, 492-521 -/
theorem setupEspNow_kept (m : Mesh) (tls : Mbedtls) (r : Mesh.InitEnv) :
    BootKept m ((m.setupWiFi r).1.setupEspNow tls r.radio r.initError).2.1 := by
  obtain ⟨mac, registered, heq⟩ := setupEspNow_frame m tls r
  rw [heq]
  exact ⟨rfl, rfl, rfl⟩

end Boot

/-! ## The invariant -/

/-- A message that carries no epoch of this node: a relay copy, or one of the enrollment
messages. -/
def CarriesNone (msg : MeshMessage) : Prop :=
  msg.hopCount ≠ 0 ∨ msg.protoVersion = 0 ∧ msg.epochNum = 0

/-- The stamps of the node: the epochs of the messages it built. -/
def stamps (sent : List Sent) : List (ℕ × ℕ) :=
  (sent.filter fun f => Built f.msg).map fun f => (f.boot, f.msg.epochNum.toNat)

/-- The boot has stored its epoch. -/
def Phase.hasCounted : Phase → Bool
  | .counted | .running => true
  | _ => false

/-- The node as a counter: `current` is the number of the present life. -/
def counterOf (s : State) (epoch : UInt32) (current : Option ℕ) : DurableCounter.State :=
  ⟨epoch.toNat, current, s.boots, stamps s.sent⟩

structure Inv (first : UInt32) (s : State) (epoch : UInt32) (current : Option ℕ) : Prop where
  reliable : s.eeprom.memory.Reliable
  flash : Reads (EepromManager.readByte s.eeprom.memory.backing) epoch
  ram : s.phase ≠ .down → Reads s.eeprom.read epoch
  isDevMode : s.phase ≠ .down → s.eeprom.isDevMode = false
  isInitialized : s.phase ≠ .down → s.phase ≠ .powered → s.eeprom.isInitialized = true
  booted : s.phase ≠ .down → 0 < s.boots
  pending : s.phase ≠ .down → s.phase.hasCounted = false → current = none
  counted : s.phase.hasCounted = true → s.mesh.bootEpoch = epoch ∧ current = some epoch.toNat
  relays : s.phase ≠ .down → RelaysOnly s.mesh
  frames : ∀ f ∈ s.sent, Built f.msg ∨ CarriesNone f.msg
  counter : (DurableCounter.system first.toNat).Reachable (counterOf s epoch current)

section Invariant

variable {first epoch : UInt32} {s s' : State} {current : Option ℕ}

/-- The stamps of two lists of frames. -/
theorem stamps_append (xs ys : List Sent) : stamps (xs ++ ys) = stamps xs ++ stamps ys := by
  rw [stamps, List.filter_append, List.map_append]
  rfl

/-- A stamp is the boot and the epoch of a frame that was built. -/
theorem mem_stamps {u : ℕ × ℕ} {sent : List Sent} :
    u ∈ stamps sent ↔ ∃ f ∈ sent, Built f.msg ∧ (f.boot, f.msg.epochNum.toNat) = u := by
  simp only [stamps, List.mem_map, List.mem_filter, decide_eq_true_eq, and_assoc]

/-- In any phase but the first two the device is up. -/
theorem up_of_phase {p : Phase} (hphase : s.phase = p) (hdown : p ≠ .down)
    (hpowered : p ≠ .powered) : s.phase ≠ .down ∧ s.phase ≠ .powered := by
  rw [hphase]
  exact ⟨hdown, hpowered⟩

/-- A device that is up is a production node. -/
theorem Inv.production (h : Inv first s epoch current) (hdown : s.phase ≠ .down)
    (hpowered : s.phase ≠ .powered) : Production s.eeprom :=
  ⟨h.isInitialized hdown hpowered, h.isDevMode hdown⟩

/-- The EEPROM carries the epoch of the counter. -/
theorem Inv.carries (h : Inv first s epoch current) (hdown : s.phase ≠ .down) :
    Carries s.eeprom epoch :=
  ⟨h.reliable, h.ram hdown, h.flash⟩

/-- At the start nothing was sent, and no boot has a number. -/
theorem inv_start (h : Start first s) : Inv first s first none := by
  have hphase := h.down
  refine ⟨h.reliable, h.flash, fun hup => absurd hphase hup, fun hup => absurd hphase hup,
    fun hup => absurd hphase hup, fun hup => absurd hphase hup, fun hup => absurd hphase hup,
    fun hcounted => ?_, fun hup => absurd hphase hup, fun f hf => ?_, .init ?_⟩
  · rw [hphase] at hcounted
    cases hcounted
  · rw [h.sent] at hf
    cases hf
  · rw [counterOf, h.boots, h.sent]
    rfl

/-- A power loss leaves flash and what was sent. -/
theorem Inv.powerLoss (h : Inv first s epoch current) :
    Inv first { s with phase := .down } epoch current where
  reliable := h.reliable
  flash := h.flash
  ram := fun hup => absurd rfl hup
  isDevMode := fun hup => absurd rfl hup
  isInitialized := fun hup => absurd rfl hup
  booted := fun hup => absurd rfl hup
  pending := fun hup => absurd rfl hup
  counted := by
    intro hcounted
    cases hcounted
  relays := fun hup => absurd rfl hup
  frames := h.frames
  counter := h.counter

/-- A boot begins a life of the counter. -/
theorem Inv.powerOn (h : Inv first s epoch current) :
    Inv first ⟨s.eeprom.reboot, Mesh.new, .powered, s.boots + 1, s.sent⟩ epoch none where
  reliable := h.reliable
  flash := h.flash
  ram := fun _ => h.flash
  isDevMode := fun _ => rfl
  isInitialized := fun _ hup => absurd rfl hup
  booted := fun _ => Nat.succ_pos _
  pending := fun _ _ => rfl
  counted := by
    intro hcounted
    cases hcounted
  relays := by
    intro _ hpending
    cases hpending
  frames := h.frames
  counter := @System.Reachable.step _ _ (DurableCounter.system first.toNat) _ _ .start h.counter rfl

/-- A stage of the boot before the epoch is counted, or a step of the EEPROM alone. -/
theorem Inv.advance (h : Inv first s epoch current) (hdown : s.phase ≠ .down)
    {em : EepromManager} {m : Mesh} {phase : Phase} (hcarries : Carries em epoch)
    (hproduction : Production em) (hcounted : phase.hasCounted = s.phase.hasCounted)
    (hepoch : s.phase.hasCounted = true → m.bootEpoch = s.mesh.bootEpoch)
    (hrelays : RelaysOnly m) :
    Inv first { s with eeprom := em, mesh := m, phase := phase } epoch current where
  reliable := hcarries.reliable
  flash := hcarries.flash
  ram := fun _ => hcarries.ram
  isDevMode := fun _ => hproduction.isDevMode
  isInitialized := fun _ _ => hproduction.isInitialized
  booted := fun _ => h.booted hdown
  pending := fun _ hnot => h.pending hdown (hcounted.symm.trans hnot)
  counted := by
    intro hyes
    have hbefore := hcounted.symm.trans hyes
    obtain ⟨hmesh, hcurrent⟩ := h.counted hbefore
    exact ⟨(hepoch hbefore).trans hmesh, hcurrent⟩
  relays := fun _ => hrelays
  frames := h.frames
  counter := h.counter

/-- The next epoch fits and is not the unset one. -/
theorem Inv.next_epoch (h : Inv first s epoch none) (hbooted : 0 < s.boots)
    (hboots : s.boots < 2 ^ 32 - 1 - first.toNat) : (epoch + 1).toNat = epoch.toNat + 1 ∧
      epoch + 1 ≠ 0xFFFFFFFF := by
  have hlt : epoch.toNat < first.toNat + s.boots :=
    (DurableCounter.holds_of_reachable h.counter).pending rfl hbooted
  have hnext : (epoch + 1).toNat = epoch.toNat + 1 := by
    have hone : (1 : UInt32).toNat = 1 := rfl
    rw [UInt32.toNat_add, hone, Nat.mod_eq_of_lt (by omega)]
  refine ⟨hnext, fun hunset => ?_⟩
  have hmax : (epoch + 1).toNat = 4294967295 := congrArg UInt32.toNat hunset
  omega

/-- **The boot stores its epoch before it may send.** -/
theorem Inv.countBoot (h : Inv first s epoch current) (hphase : s.phase = .restored)
    (hboots : s.boots < 2 ^ 32 - 1 - first.toNat) :
    Inv first
      { s with
        eeprom := (s.mesh.countBoot s.eeprom).2
        mesh := (s.mesh.countBoot s.eeprom).1
        phase := .counted } (epoch + 1) (some (epoch + 1).toNat) := by
  obtain ⟨hdown, hpowered⟩ := up_of_phase hphase nofun nofun
  have hproduction := h.production hdown hpowered
  obtain rfl : current = none := by
    apply h.pending hdown
    rw [hphase]
    rfl
  obtain ⟨hnext, hset⟩ := h.next_epoch (h.booted hdown) hboots
  have hload : s.eeprom.loadBootEpoch = epoch :=
    (load_eq_read hproduction.isInitialized .bootEpoch).trans (h.ram hdown).bootEpoch
  have hcounted : s.mesh.countBoot s.eeprom =
      ({ s.mesh with
          bootEpoch := epoch + 1
          txSeqNum := 0
          replayCache := { s.mesh.replayCache with slots := zeroReplayCache.slots } },
        s.eeprom.saveBootEpoch (epoch + 1)) := by
    rw [Mesh.countBoot, hload]
  have hcarries := (h.carries hdown).saveBootEpoch hproduction hset
  have hprod : Production (s.eeprom.saveBootEpoch (epoch + 1)) :=
    hproduction.run (.bootEpoch (epoch + 1))
  rw [hcounted]
  refine ⟨hcarries.reliable, hcarries.flash, fun _ => hcarries.ram, fun _ => hprod.isDevMode,
    fun _ _ => hprod.isInitialized, fun _ => h.booted hdown, fun _ hnot => ?_,
    fun _ => ⟨rfl, rfl⟩, fun _ => h.relays hdown, h.frames, ?_⟩
  · cases hnot
  · refine @System.Reachable.step _ _ (DurableCounter.system first.toNat) _ _ .count h.counter ?_
    have hstep : DurableCounter.step (counterOf s epoch none) .count =
        some ⟨epoch.toNat + 1, some (epoch.toNat + 1), s.boots, stamps s.sent⟩ :=
      if_pos ⟨h.booted hdown, rfl⟩
    rw [← hnext] at hstep
    exact hstep

/-- What is sent with the epoch of the boot is stamped with it. -/
theorem exists_stamps {boot : ℕ} {new : List Sent}
    (h : ∀ f ∈ new, f.boot = boot ∧ (Built f.msg → f.msg.epochNum = epoch)) :
    ∃ copies, stamps new = List.replicate copies (boot, epoch.toNat) := by
  refine ⟨(stamps new).length, List.eq_replicate_of_mem fun u hu => ?_⟩
  obtain ⟨f, hf, hbuilt, rfl⟩ := mem_stamps.mp hu
  obtain ⟨hboot, hepoch⟩ := h f hf
  rw [hboot, hepoch hbuilt]

/-- **Everything a running node sends is stamped with its epoch, or carries none.** -/
theorem Inv.sends (h : Inv first s epoch current) (hphase : s.phase = .running)
    {result : Mesh × List Effect} (hepoch : result.1.bootEpoch = s.mesh.bootEpoch)
    (hrelays : RelaysOnly result.1)
    (hframes : ∀ f ∈ sentFrames result.2,
      Built f.2 ∧ f.2.epochNum = s.mesh.bootEpoch ∨ CarriesNone f.2) :
    Inv first (s.sends result) epoch current := by
  have hcounted : s.phase.hasCounted = true := by
    rw [hphase]
    rfl
  have hdown : s.phase ≠ .down := by
    rw [hphase]
    exact nofun
  obtain ⟨hmesh, rfl⟩ := h.counted hcounted
  have hnew : ∀ f ∈ (sentFrames result.2).map fun f => (⟨s.boots, f.2⟩ : Sent),
      f.boot = s.boots ∧ (Built f.msg → f.msg.epochNum = epoch) := by
    intro f hf
    obtain ⟨g, hg, rfl⟩ := List.mem_map.mp hf
    refine ⟨rfl, fun hbuilt => ?_⟩
    rcases hframes g hg with ⟨-, heq⟩ | hhop | ⟨hproto, -⟩
    · exact heq.trans hmesh
    · exact absurd hbuilt.1 hhop
    · have hzero : Config.protoVersion = 0 := hbuilt.2.symm.trans hproto
      exact absurd hzero (by decide)
  obtain ⟨copies, hcopies⟩ := exists_stamps hnew
  refine ⟨h.reliable, h.flash, h.ram, h.isDevMode, h.isInitialized, h.booted, h.pending,
    fun _ => ⟨hepoch.trans hmesh, rfl⟩, fun _ => hrelays, fun f hf => ?_, ?_⟩
  · rcases List.mem_append.mp hf with hf | hf
    · exact h.frames f hf
    · obtain ⟨g, hg, rfl⟩ := List.mem_map.mp hf
      rcases hframes g hg with ⟨hbuilt, -⟩ | hnone
      · exact .inl hbuilt
      · exact .inr hnone
  · refine @System.Reachable.step _ _ (DurableCounter.system first.toNat) _ _ (.stamp copies)
      h.counter ?_
    show some _ = some _
    simp only [counterOf, State.sends, stamps_append, hcopies]

/-- Boots are only counted up. -/
theorem step_boots {e : Event} (hstep : step s e = some s') : s.boots ≤ s'.boots := by
  cases e with
  | powerLoss =>
      cases hstep
      exact le_rfl
  | powerOn =>
      simp only [step, Option.ite_none_right_eq_some, Option.some.injEq] at hstep
      obtain ⟨-, rfl⟩ := hstep
      exact Nat.le_succ _
  | setupRadio tls r =>
      simp only [step, State.radio, Option.ite_none_right_eq_some, Option.some.injEq] at hstep
      obtain ⟨-, -, rfl⟩ := hstep
      exact le_rfl
  | _ =>
      simp only [step, Option.ite_none_right_eq_some, Option.some.injEq] at hstep
      obtain ⟨-, rfl⟩ := hstep
      exact le_rfl

/-- A running node changes its EEPROM by saves and flushes. -/
theorem Inv.runningEeprom (h : Inv first s epoch current) (hphase : s.phase = .running)
    {em : EepromManager} (hcarries : Carries s.eeprom epoch → Carries em epoch)
    (hproduction : Production s.eeprom → Production em) :
    Inv first { s with eeprom := em } epoch current := by
  obtain ⟨hdown, hpowered⟩ := up_of_phase hphase nofun nofun
  exact h.advance hdown (hcarries (h.carries hdown)) (hproduction (h.production hdown hpowered))
    rfl (fun _ => rfl) (h.relays hdown)

/-- A flush leaves a production node one.
SOURCE: EEPROM_Manager.cpp:165-186 -/
theorem production_flush {em : EepromManager} (h : Production em) (millis : UInt32) :
    Production (em.flushIfDirty millis) ∧ Production (em.forceFlush millis) := by
  constructor
  · unfold EepromManager.flushIfDirty
    split
    · exact h
    · split
      · exact h
      · exact ⟨h.isInitialized, h.isDevMode⟩
  · unfold EepromManager.forceFlush
    split
    · exact h
    · exact ⟨h.isInitialized, h.isDevMode⟩

/-! ### The stages of a boot -/

/-- SOURCE: EEPROM_Manager.cpp:44-124 -/
theorem Inv.migrate (h : Inv first s epoch current) (hphase : s.phase = .powered)
    (hwipes : ¬Wipes s.eeprom) :
    Inv first { s with eeprom := (begun s.eeprom).migrate, phase := .migrated } epoch current := by
  have hdown : s.phase ≠ .down := by
    rw [hphase]
    exact nofun
  have hbegun : Carries (begun s.eeprom) epoch :=
    ⟨h.reliable, h.ram hdown, h.flash⟩
  refine h.advance hdown (hbegun.migrate rfl hwipes)
    (production_migrate rfl (h.isDevMode hdown) h.reliable) ?_ (fun _ => rfl) (h.relays hdown)
  rw [hphase]
  rfl

/-- Repairing the watchdog bytes leaves the epoch alone.
SOURCE: EEPROM_Manager.cpp:126-133 -/
theorem Inv.validateRebootBytes (h : Inv first s epoch current) (hphase : s.phase = .migrated) :
    Inv first { s with eeprom := s.eeprom.validateRebootBytes, phase := .validated } epoch
      current := by
  obtain ⟨hdown, hpowered⟩ := up_of_phase hphase nofun nofun
  refine h.advance hdown (h.carries hdown).validateRebootBytes
    (production_validateRebootBytes (h.production hdown hpowered)) ?_ (fun _ => rfl)
    (h.relays hdown)
  rw [hphase]
  rfl

/-- SOURCE: main.ino:97-110, 172-197 -/
theorem Inv.configure (h : Inv first s epoch current) (hphase : s.phase = .validated)
    (reason : ResetReason) (behind : ℕ → UInt8) :
    Inv first { s with
      eeprom := Setup.storeDefaults (Setup.countReset s.eeprom reason) behind
      phase := .configured } epoch current := by
  obtain ⟨hdown, hpowered⟩ := up_of_phase hphase nofun nofun
  obtain ⟨hreset, hprod⟩ :=
    countReset_carries (h.carries hdown) (h.production hdown hpowered) reason
  obtain ⟨hcarries, hproduction⟩ := storeDefaults_carries hreset hprod behind
  refine h.advance hdown hcarries hproduction ?_ (fun _ => rfl) (h.relays hdown)
  rw [hphase]
  rfl

/-- Loading the state of the mesh leaves the epoch alone. -/
theorem Inv.loadPersistentState (h : Inv first s epoch current) (hphase : s.phase = .configured)
    (generated : Key × Key) :
    Inv first { s with
      eeprom := (s.mesh.loadPersistentState s.eeprom generated).2
      mesh := (s.mesh.loadPersistentState s.eeprom generated).1
      phase := .restored } epoch current := by
  obtain ⟨hdown, hpowered⟩ := up_of_phase hphase nofun nofun
  obtain ⟨hcarries, hproduction⟩ :=
    loadPersistentState_carries (h.carries hdown) (h.production hdown hpowered) s.mesh generated
  have hkept := loadPersistentState_kept s.mesh s.eeprom generated
  refine h.advance hdown hcarries hproduction ?_ (fun _ => hkept.bootEpoch)
    (hkept.relaysOnly (h.relays hdown))
  rw [hphase]
  rfl

/-- SOURCE: Mesh.cpp:383-406 -/
theorem Inv.setupRadio (h : Inv first s epoch current) (hphase : s.phase = .counted)
    (tls : Mbedtls) (r : Mesh.InitEnv) :
    Inv first { s with
      mesh := ((s.mesh.setupWiFi r).1.setupEspNow tls r.radio r.initError).2.1.link
        s.eeprom.loadMasterFlag
      phase := .running } epoch current := by
  obtain ⟨hdown, hpowered⟩ := up_of_phase hphase nofun nofun
  have hkept : BootKept s.mesh (((s.mesh.setupWiFi r).1.setupEspNow tls r.radio
      r.initError).2.1.link s.eeprom.loadMasterFlag) :=
    (setupEspNow_kept s.mesh tls r).trans ⟨rfl, rfl, rfl⟩
  refine h.advance hdown (h.carries hdown) (h.production hdown hpowered) ?_
    (fun _ => hkept.bootEpoch) (hkept.relaysOnly (h.relays hdown))
  rw [hphase]
  rfl

/-! ### A running node -/

/-- A call of the running node sends frames of this boot, or copies. -/
theorem Inv.call (h : Inv first s epoch current) (hphase : s.phase = .running) (env : Env)
    (c : MeshNetwork.Call) : Inv first (s.sends (c.run s.mesh env)) epoch current := by
  obtain ⟨hdown, -⟩ := up_of_phase hphase nofun nofun
  have horiginates := MeshNetwork.Call.run_originates s.mesh env c
  obtain ⟨hhop, hproto⟩ := frame_epoch s.mesh c
  refine h.sends hphase (run_bootEpoch s.mesh env c)
    ((h.relays hdown).kept horiginates.undisturbed.kept) fun f hf => ?_
  rw [horiginates.frames f hf]
  rcases hproto with ⟨hversion, hepoch⟩ | hnone
  · exact .inl ⟨⟨hhop, hversion⟩, hepoch⟩
  · exact .inr (.inr hnone)

/-- Any other task of the running node sends frames of this boot, or copies. -/
theorem Inv.task (h : Inv first s epoch current) (hphase : s.phase = .running) (t : Task) :
    Inv first (s.sends (t.run s.mesh)) epoch current := by
  obtain ⟨hdown, -⟩ := up_of_phase hphase nofun nofun
  have hforwards := Task.run_forwards (h.relays hdown) t
  exact h.sends hphase hforwards.bootEpoch hforwards.relays
    fun f hf => .inr (.inl (hforwards.frames f hf))

/-- **Every step keeps the invariant**, as long as the boots are not too many for the field. -/
theorem Inv.step (h : Inv first s epoch current) {e : Event} (hstep : step s e = some s')
    (hboots : s'.boots < 2 ^ 32 - 1 - first.toNat) :
    ∃ epoch' current', Inv first s' epoch' current' := by
  cases e with
  | powerLoss =>
      cases hstep
      exact ⟨_, _, h.powerLoss⟩
  | powerOn =>
      simp only [BootEpochs.step, Option.ite_none_right_eq_some, Option.some.injEq] at hstep
      obtain ⟨-, rfl⟩ := hstep
      exact ⟨_, _, h.powerOn⟩
  | migrate =>
      simp only [BootEpochs.step, Option.ite_none_right_eq_some, Option.some.injEq] at hstep
      obtain ⟨⟨hphase, hwipes⟩, rfl⟩ := hstep
      exact ⟨_, _, h.migrate hphase hwipes⟩
  | validateRebootBytes =>
      simp only [BootEpochs.step, Option.ite_none_right_eq_some, Option.some.injEq] at hstep
      obtain ⟨hphase, rfl⟩ := hstep
      exact ⟨_, _, h.validateRebootBytes hphase⟩
  | configure reason behind =>
      simp only [BootEpochs.step, Option.ite_none_right_eq_some, Option.some.injEq] at hstep
      obtain ⟨hphase, rfl⟩ := hstep
      exact ⟨_, _, h.configure hphase reason behind⟩
  | loadPersistentState generated =>
      simp only [BootEpochs.step, Option.ite_none_right_eq_some, Option.some.injEq] at hstep
      obtain ⟨hphase, rfl⟩ := hstep
      exact ⟨_, _, h.loadPersistentState hphase generated⟩
  | countBoot =>
      simp only [BootEpochs.step, Option.ite_none_right_eq_some, Option.some.injEq] at hstep
      obtain ⟨hphase, rfl⟩ := hstep
      exact ⟨_, _, h.countBoot hphase hboots⟩
  | setupRadio tls r =>
      simp only [BootEpochs.step, State.radio, Option.ite_none_right_eq_some,
        Option.some.injEq] at hstep
      obtain ⟨hphase, -, rfl⟩ := hstep
      exact ⟨_, _, h.setupRadio hphase tls r⟩
  | call env c =>
      simp only [BootEpochs.step, Option.ite_none_right_eq_some, Option.some.injEq] at hstep
      obtain ⟨hphase, rfl⟩ := hstep
      exact ⟨_, _, h.call hphase env c⟩
  | task t =>
      simp only [BootEpochs.step, Option.ite_none_right_eq_some, Option.some.injEq] at hstep
      obtain ⟨hphase, rfl⟩ := hstep
      exact ⟨_, _, h.task hphase t⟩
  | save c =>
      simp only [BootEpochs.step, Option.ite_none_right_eq_some, Option.some.injEq] at hstep
      obtain ⟨⟨hphase, hspares⟩, rfl⟩ := hstep
      have hup := up_of_phase hphase nofun nofun
      have hproduction := h.production hup.1 hup.2
      exact ⟨_, _, h.runningEeprom hphase (fun hcarries => hcarries.run hproduction hspares)
        fun hprod => hprod.run c⟩
  | flushIfDirty millis =>
      simp only [BootEpochs.step, Option.ite_none_right_eq_some, Option.some.injEq] at hstep
      obtain ⟨hphase, rfl⟩ := hstep
      exact ⟨_, _, h.runningEeprom hphase (fun hcarries => hcarries.flushIfDirty millis)
        fun hprod => (production_flush hprod millis).1⟩
  | forceFlush millis =>
      simp only [BootEpochs.step, Option.ite_none_right_eq_some, Option.some.injEq] at hstep
      obtain ⟨hphase, rfl⟩ := hstep
      exact ⟨_, _, h.runningEeprom hphase (fun hcarries => hcarries.forceFlush millis)
        fun hprod => (production_flush hprod millis).2⟩

/-- The invariant holds in every reachable state before the counter overflows. -/
theorem inv_of_reachable (h : (system first).Reachable s)
    (hboots : s.boots < 2 ^ 32 - 1 - first.toNat) :
    ∃ epoch current, Inv first s epoch current := by
  revert hboots
  refine @System.Reachable.invariant _ _ (system first)
    (fun s => s.boots < 2 ^ 32 - 1 - first.toNat → ∃ epoch current, Inv first s epoch current)
    ?_ ?_ s h
  · intro s hs _
    exact ⟨_, _, inv_start hs⟩
  · intro s e s' hs hstep hboots
    obtain ⟨epoch, current, hinv⟩ := hs ((step_boots hstep).trans_lt hboots)
    exact hinv.step hstep hboots

end Invariant

/-! ## Result -/

/-- **Boot epochs are fresh.**  A message of `buildMessage` carries an epoch that is not zero, so
that the replay check applies to it, and that is greater than those of all earlier boots; nothing
else that a boot sends carries an epoch of its own.
SOURCE: Mesh.cpp:351-406, 577-582, EEPROM_Manager.cpp:451-466 -/
theorem epochs_fresh {first : UInt32} {s : State} (h : (system first).Reachable s)
    (hboots : s.boots < 2 ^ 32 - 1 - first.toNat) :
    (∀ f ∈ s.sent, Built f.msg → f.msg.epochNum ≠ 0 ∧ Mesh.replayChecked f.msg = true) ∧
      (∀ f ∈ s.sent, ∀ g ∈ s.sent, Built f.msg → Built g.msg → f.boot < g.boot →
        f.msg.epochNum < g.msg.epochNum) ∧
      (∀ f ∈ s.sent, Built f.msg ∨ CarriesNone f.msg) ∧
      (s.phase = .running → ∀ type data msgType,
        Built (s.mesh.buildMessage type data msgType).1 ∧
          Mesh.replayChecked (s.mesh.buildMessage type data msgType).1 = true) := by
  obtain ⟨epoch, current, hinv⟩ := inv_of_reachable h hboots
  have hchecked : ∀ msg : MeshMessage, msg.protoVersion = Config.protoVersion →
      0 < msg.epochNum.toNat → Mesh.replayChecked msg = true := by
    intro msg hproto hpos
    have hlt : 0 < msg.epochNum := UInt32.lt_iff_toNat_lt.mpr hpos
    rw [Mesh.replayChecked, hproto, decide_eq_true hlt]
    rfl
  have hstamp : ∀ f ∈ s.sent, Built f.msg →
      (f.boot, f.msg.epochNum.toNat) ∈ (counterOf s epoch current).stamps :=
    fun f hf hbuilt => mem_stamps.mpr ⟨f, hf, hbuilt, rfl⟩
  refine ⟨fun f hf hbuilt => ?_, fun f hf g hg hbuilt hbuilt' hlt => ?_, hinv.frames,
    fun hphase type data msgType => ⟨⟨rfl, rfl⟩, hchecked _ rfl ?_⟩⟩
  · have hpos : 0 < f.msg.epochNum.toNat :=
      DurableCounter.stamps_positive hinv.counter _ (hstamp f hf hbuilt)
    refine ⟨fun hzero => ?_, hchecked f.msg hbuilt.2 hpos⟩
    rw [hzero] at hpos
    exact absurd hpos (by decide)
  · exact UInt32.lt_iff_toNat_lt.mpr (DurableCounter.stamps_increase hinv.counter
      _ (hstamp f hf hbuilt) _ (hstamp g hg hbuilt') hlt)
  · have hcounted : s.phase.hasCounted = true := by
      rw [hphase]
      rfl
    obtain ⟨hmesh, hcurrent⟩ := hinv.counted hcounted
    have hpos := ((DurableCounter.holds_of_reachable hinv.counter).current _ hcurrent).2
    rw [← hmesh] at hpos
    exact hpos

/-! ## Two boots of a blank node -/

/-- The steps of a boot that is not cut. -/
def bootEvents (reason : ResetReason) (behind : ℕ → UInt8) (tls : Mbedtls) (r : Mesh.InitEnv) :
    List Event :=
  [.powerOn, .migrate, .validateRebootBytes, .configure reason behind,
    .loadPersistentState r.generated, .countBoot, .setupRadio tls r]

/-- **A boot that is not cut is `setup()`**: the stages are those of `EEPROM_Manager::init`, the
saves of `setup()` and `Mesh::init`, one after the other.
SOURCE: main.ino:97-282 -/
theorem runFrom_bootEvents (first : UInt32) {s : State} (hdown : s.phase = .down)
    (hwipes : ¬Wipes s.eeprom.reboot) {reason : ResetReason} {behind : ℕ → UInt8} {tls : Mbedtls}
    {r : Mesh.InitEnv} {em : EepromManager} {result : Bool × (Mesh × EepromManager) × List Effect}
    (hem : em = Setup.storeDefaults (Setup.countReset s.eeprom.reboot reason) behind)
    (hresult : result = Mesh.new.init em tls r) (hradio : result.1 = true) :
    (system first).runFrom s (bootEvents reason behind tls r) =
      some ⟨result.2.1.2, result.2.1.1.link result.2.1.2.loadMasterFlag, .running, s.boots + 1,
        s.sent⟩ := by
  have hreset : Setup.countReset (begun s.eeprom.reboot).migrate.validateRebootBytes reason =
      Setup.countReset s.eeprom.reboot reason := by
    have hinit : s.eeprom.reboot.init = (begun s.eeprom.reboot).migrate.validateRebootBytes := rfl
    have hdone : s.eeprom.reboot.init.isInitialized = true := (init_flags _).1
    have hagain : s.eeprom.reboot.init.init = s.eeprom.reboot.init := if_pos hdone
    rw [← hinit, Setup.countReset, Setup.countReset, hagain]
  subst hresult hem
  simp only [bootEvents, system, System.runFrom, step, hdown, if_true, Option.bind_some, hreset,
    true_and, if_pos hwipes, State.radio, Option.bind_fun_some]
  exact if_pos hradio

/-- A node that has booted is not wiped by the next boot. -/
theorem not_wipes_reboot {em : EepromManager} (h : Settled em) : ¬Wipes em.reboot := by
  rintro ⟨hblank, hnewer⟩
  rcases h.backingSchema with heq | heq
  · exact hblank heq
  · have hversion : em.reboot.read EepromAddresses.schemaVersion =
        EepromSizes.currentSchemaVersion := heq
    rw [hversion] at hnewer
    exact UInt8.lt_irrefl _ hnewer

/-- A boot leaves a settled EEPROM settled.
SOURCE: Mesh.cpp:371-406 -/
theorem settled_init {em : EepromManager} (h : Settled em) (m : Mesh) (tls : Mbedtls)
    (r : Mesh.InitEnv) : Settled (m.init em tls r).2.1.2 := by
  have hsave : ∀ (c : SaveCall) em, Settled em → Settled (c.run em) :=
    fun c em hem => hem.saved (saveCall_saved em c)
  have hrestored := @loadPersistentState_keeps em Settled r.generated
    (hsave (.meshKey Config.defaultMeshKey.toList))
    (hsave (.keypair r.generated.1 r.generated.2)) h m
  exact hrestored.saved (saveCall_saved _ (.bootEpoch _))

/-- A node that has never run. -/
def blankNode : State := ⟨EepromManager.powerUp blankImage, Mesh.new, .down, 0, []⟩

/-- What a boot finds on which nothing fails. -/
def plainInit : Mesh.InitEnv := ⟨⟨zeroKey, zeroKey⟩, none, none, zeroMac, none, quietEnv⟩

/-- The node boots, sends a beacon when one is due, and loses its power. -/
theorem exists_beaconBoot {first : UInt32} {s : State} (h : (system first).Reachable s)
    (hboots : s.boots < 2 ^ 32 - 1 - first.toNat) (hdown : s.phase = .down)
    (hwipes : ¬Wipes s.eeprom.reboot) :
    ∃ s' msg, (system first).Reachable s' ∧ s'.phase = .down ∧ s'.boots = s.boots + 1 ∧
      s'.sent = s.sent ++ [⟨s.boots + 1, msg⟩] ∧ Built msg ∧ Settled s'.eeprom := by
  obtain ⟨epoch, current, hinv⟩ := inv_of_reachable h hboots
  have hsettled : Settled (Setup.storeDefaults (Setup.countReset s.eeprom.reboot .powerOn)
      fun _ => 0) := by
    have hreset := settled_countReset hinv.reliable .powerOn
    have hbegun : Carries (begun s.eeprom.reboot) epoch :=
      ⟨hinv.reliable, hinv.flash, hinv.flash⟩
    have hinit : Carries s.eeprom.reboot.init epoch :=
      (hbegun.migrate rfl hwipes).validateRebootBytes
    have hproduction : Production s.eeprom.reboot.init :=
      production_validateRebootBytes (production_migrate rfl rfl hinv.reliable)
    have hagain : s.eeprom.reboot.init.init = s.eeprom.reboot.init :=
      if_pos hproduction.isInitialized
    have hcarries := countReset_carries hinit hproduction .powerOn
    rw [Setup.countReset, hagain] at hcarries
    exact hreset.storeDefaults (hcarries.1.loadDevFlag hcarries.2) _
  have hrun := @runFrom_bootEvents first s hdown hwipes .powerOn (fun _ => 0) plainTls plainInit
    _ _ rfl rfl rfl
  have hbooted := h.runFrom hrun
  have hready := settled_init hsettled Mesh.new plainTls plainInit
  generalize Mesh.new.init _ plainTls plainInit = result at hbooted hready
  generalize result.2.1.1.link _ = m at hbooted
  have hdue : ¬m.lastBeaconMillis + Config.masterBeaconIntervalMs - m.lastBeaconMillis <
      Config.masterBeaconIntervalMs := by
    rw [UInt32.add_comm, UInt32.add_sub_cancel]
    exact UInt32.lt_irrefl _
  have hsent : sentFrames ((MeshNetwork.Call.broadcastMasterBeacon).run m
      { quietEnv with millis := m.lastBeaconMillis + Config.masterBeaconIntervalMs }).2 =
        [(broadcastMac, MeshNetwork.beaconFrame m)] := by
    simp only [MeshNetwork.Call.run, Mesh.broadcastMasterBeacon, if_neg hdue]
    rfl
  have hcalled : (system first).Reachable
      ((⟨result.2.1.2, m, .running, s.boots + 1, s.sent⟩ : State).sends
        ((MeshNetwork.Call.broadcastMasterBeacon).run m
          { quietEnv with millis := m.lastBeaconMillis + Config.masterBeaconIntervalMs })) :=
    @System.Reachable.step _ _ (system first) _ _
      (.call { quietEnv with millis := m.lastBeaconMillis + Config.masterBeaconIntervalMs }
        .broadcastMasterBeacon) hbooted rfl
  have hoff := @System.Reachable.step _ _ (system first) _ _ .powerLoss hcalled rfl
  refine ⟨_, MeshNetwork.beaconFrame m, hoff, rfl, rfl, ?_, ⟨rfl, rfl⟩, hready⟩
  simp only [State.sends, hsent]
  rfl

/-- The blank device is a start. -/
theorem init_blankNode : (system 0).Init blankNode where
  down := rfl
  boots := rfl
  sent := rfl
  reliable := Memory.load_reliable blankImage
  flash := ⟨rfl, rfl⟩

/-- Two boots of the blank device, each with a beacon. -/
theorem epochs_fresh_twoBoots :
    ∃ s, (system 0).Reachable s ∧ s.boots = 2 ∧ s.sent.map (·.boot) = [1, 2] ∧
      (∀ f ∈ s.sent, f.msg.epochNum ≠ 0) ∧
      ∀ f ∈ s.sent, ∀ g ∈ s.sent, f.boot < g.boot → f.msg.epochNum < g.msg.epochNum := by
  have hblank : ¬Wipes blankNode.eeprom.reboot := by
    rintro ⟨hversion, -⟩
    exact hversion rfl
  obtain ⟨s₁, msg₁, h₁, hdown₁, hboots₁, hsent₁, hbuilt₁, hsettled₁⟩ :=
    exists_beaconBoot (.init init_blankNode) (by decide) rfl hblank
  obtain ⟨s₂, msg₂, h₂, -, hboots₂, hsent₂, hbuilt₂, -⟩ :=
    exists_beaconBoot h₁ (by rw [hboots₁]; decide) hdown₁ (not_wipes_reboot hsettled₁)
  have hboots : s₂.boots = 2 := by
    rw [hboots₂, hboots₁]
    rfl
  have hsent : s₂.sent = [⟨1, msg₁⟩, ⟨2, msg₂⟩] := by
    rw [hsent₂, hsent₁, hboots₁]
    rfl
  have hbuilt : ∀ f ∈ s₂.sent, Built f.msg := by
    intro f hf
    rw [hsent] at hf
    simp only [List.mem_cons, List.not_mem_nil, or_false] at hf
    rcases hf with rfl | rfl
    · exact hbuilt₁
    · exact hbuilt₂
  obtain ⟨hfresh, hincrease, -, -⟩ := epochs_fresh h₂ (by rw [hboots]; decide)
  refine ⟨s₂, h₂, hboots, ?_, fun f hf => (hfresh f hf (hbuilt f hf)).1,
    fun f hf g hg hlt => hincrease f hf g hg (hbuilt f hf) (hbuilt g hg) hlt⟩
  rw [hsent]
  rfl

end BootEpochs

end LatticeNodes.Analysis
