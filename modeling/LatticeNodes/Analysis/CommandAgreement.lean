import LatticeNodes.Analysis.CommandAddress
import LatticeNodes.Analysis.StoredBytes

/-!
# Where the settings of a node come from

A network of whole devices: the mesh object, the EEPROM and the adapter of every node.  The server
hands frames to any of them on the serial line.  Frames of the nodes are lost, repeated, replayed
and heard by anybody; nodes restart, lose power, change their role and are wiped.

The radio checks no sender, so that a stranger may set a node ID or a transmit power.  Among
themselves the nodes make up no command: `settings_accounted` says that every byte of a setting, in
RAM and in flash, is one the node started with, the mark of a wipe, or one that a frame of the
server orders it to store.
-/

set_option autoImplicit false

namespace LatticeNodes.Analysis

open LatticeNodes.Program TransitionSystem

namespace CommandAgreement

open EepromFields StoredBytes
open BootEpochs (Wipes begun)
open CommandAddress (Addresses targets_iff)
open MeshNetwork (Call)

/-! ## Orders -/

/-- A byte that the nodes with an address are to store. -/
structure Order where
  cell : ℕ
  byte : UInt8
  addressee : MacAddress
  deriving DecidableEq

/-- The order of a message, as the radio's handlers read it; a transmit power is for everybody.
SOURCE: Adapter.cpp:46-88, Serial_Adapter.cpp:153-177 -/
def orderOf (msg : MeshMessage) : Option Order :=
  if msg.dataType ≠ AdapterTypes.serialAdapter then none
  else if getElem msg.data 0 byte0_lt = Opcode.configSet then
    some ⟨EepromAddresses.adapterType, Device.commandedByte msg, Device.dataAddress msg⟩
  else if getElem msg.data 0 byte0_lt = Opcode.nodeIdSet then
    some ⟨EepromAddresses.nodeId, getElem msg.data 7 byte7_lt, Device.dataAddress msg⟩
  else if getElem msg.data 0 byte0_lt = Opcode.txPowerSet ∧ getElem msg.data 1 byte1_lt ≤ 2 then
    some ⟨EepromAddresses.txPowerPreset, getElem msg.data 1 byte1_lt, broadcastMac⟩
  else none

/-- On the serial line the target in the header is whom an `OP_CONFIG_SET` addresses.
SOURCE: Serial_Adapter.cpp:438-468 -/
def headerOrder (msg : MeshMessage) : Option Order :=
  if msg.dataType = AdapterTypes.serialAdapter ∧
      getElem msg.data 0 byte0_lt = Opcode.configSet then
    some ⟨EepromAddresses.adapterType, Device.commandedByte msg, msg.targetMacAddress⟩
  else none

/-- The three settings. -/
def settings : List EepromField := [.adapterType, .nodeId, .txPowerPreset]

def IsSetting (i : ℕ) : Prop := ∃ k ∈ settings, (field k).Owns i

/-- The saves of the firmware that are no command. -/
def sparesSettings : SaveCall → Bool
  | .adapterType _ | .nodeId _ | .txPowerPreset _ | .clearAll | .clearRange _ _ => false
  | _ => true

/-! ## The system -/

/-- `issued` are the frames the server has handed to a node, approvals apart; `wiped` the nodes
whose EEPROM was wiped. -/
structure State (n : ℕ) where
  device : Fin n → Device
  issued : List (Fin n × MeshMessage)
  wiped : List (Fin n)

inductive Event (n : ℕ) where
  /-- The bytes of a frame arrive on the serial line of node `v`. -/
  | serialFrame (v : Fin n) (tls : Mbedtls) (env : Env) (adapter : Adapter) (bytes : List UInt8)
  /-- Node `v` drains a copy of frame `i` of node `u`. -/
  | receive (v u : Fin n) (i : ℕ) (env : DeviceEnv) (srcMac : MacAddress)
  /-- A call of the firmware on its own, which gives no order. -/
  | call (v : Fin n) (env : Env) (c : Call)
  | dispatch (v : Fin n) (env : Env)
  /-- Any other work of the mesh object and the adapter. -/
  | work (v : Fin n) (mesh : Mesh) (adapter : Option Adapter) (serialOut : List UInt8)
  | save (v : Fin n) (c : SaveCall)
  | flushIfDirty (v : Fin n) (millis : UInt32)
  | forceFlush (v : Fin n) (millis : UInt32)
  /-- `EEPROM_Manager::init`, which wipes an EEPROM of a newer schema. -/
  | init (v : Fin n)
  /-- The reset button. -/
  | reset (v : Fin n) (millis : UInt32)
  | restart (v : Fin n)

/-- The device after it lost its RAM.  What it has sent is history. -/
def restarted (d : Device) : Device :=
  { d with
    mesh := Mesh.new
    eeprom := d.eeprom.reboot
    adapter := none }

/-- A restart is carried out. -/
def settled : Outcome → Device
  | .ok d => d
  | .error r => restarted r.device

/-- The frames that may hold a command: an approval holds none.
SOURCE: Serial_Adapter.cpp:360-380 -/
def commandsOf (ownMac : MacAddress) (bytes : List UInt8) : List MeshMessage :=
  (SerialAdapter.decodeMeshMessage ownMac bytes).toList.filter fun msg =>
    msg.messageType ≠ MeshMessageType.joinAck

/-- A relay that is pending afterwards was pending before. -/
def KeepsPending (m m' : Mesh) : Prop :=
  m'.relayPending = true → m.relayPending = true ∧ m'.relayPendingMsg = m.relayPendingMsg

instance decidableKeepsPending (m m' : Mesh) : Decidable (KeepsPending m m') :=
  inferInstanceAs (Decidable (_ → _))

section Steps

variable {n : ℕ}

def State.set (s : State n) (v : Fin n) (d : Device) : State n :=
  { s with device := Function.update s.device v d }

def State.setEeprom (s : State n) (v : Fin n) (em : EepromManager) : State n :=
  s.set v { s.device v with eeprom := em }

def State.serialFrame (s : State n) (v : Fin n) (tls : Mbedtls) (env : Env) (adapter : Adapter)
    (bytes : List UInt8) : State n :=
  { s.set v (settled ((s.device v).handleCompleteFrame tls env adapter bytes)) with
    issued := s.issued ++ (commandsOf (s.device v).wifiMac bytes).map fun msg => (v, msg) }

/-- SOURCE: main.ino:295-422, Mesh.cpp:544-604, Serial_Adapter.cpp:325-524 -/
def step (s : State n) : Event n → Option (State n)
  | .serialFrame v tls env adapter bytes => some (s.serialFrame v tls env adapter bytes)
  | .receive v u i env srcMac =>
      (s.device u).sent[i]?.map fun f =>
        s.set v (settled ((s.device v).handleEntry env ⟨srcMac, f.2⟩))
  | .call v env c =>
      if orderOf (c.frame (s.device v).mesh) = none then
        some (s.set v (settled ((s.device v).commitMesh Device.noCallback
          (c.run (s.device v).mesh env))))
      else none
  | .dispatch v env =>
      some (s.set v (settled ((s.device v).commitMesh Device.noCallback
        ((s.device v).mesh.dispatchRelay env))))
  | .work v mesh adapter serialOut =>
      if KeepsPending (s.device v).mesh mesh then
        some (s.set v { s.device v with
          mesh := mesh
          adapter := adapter
          serialOut := serialOut })
      else none
  | .save v c =>
      if sparesSettings c = true then some (s.setEeprom v (c.run (s.device v).eeprom)) else none
  | .flushIfDirty v millis => some (s.setEeprom v ((s.device v).eeprom.flushIfDirty millis))
  | .forceFlush v millis => some (s.setEeprom v ((s.device v).eeprom.forceFlush millis))
  | .init v =>
      some { s.setEeprom v (s.device v).eeprom.init with
        wiped := if Wipes (s.device v).eeprom then v :: s.wiped else s.wiped }
  | .reset v millis =>
      some { s.set v (settled ((s.device v).resetConfirmed millis)) with wiped := v :: s.wiped }
  | .restart v => some (s.set v (restarted (s.device v)))

end Steps

/-- What the firmware sends on its own: the beacon of a master, the request of a node that is not
enrolled, the health reports of both adapters, and the motion of a PIR adapter.
SOURCE: Mesh.cpp:684-703, 986-1010, Serial_Adapter.cpp:24-57, PIR_Adapter.cpp:51-82, main.ino:351 -/
inductive Own (d : Device) : Call → Prop
  | beacon : Own d .broadcastMasterBeacon
  | enrollmentRequest : Own d .sendEnrollmentRequest
  | healthReport (env : Env) : Own d (.transmit AdapterTypes.serialAdapter (d.healthReport env))
  | nodeHealth (env : Env) :
      Own d (.transmit AdapterTypes.serialAdapter (PirNode.nodeHealth d env))
  | motion : Own d (.transmit AdapterTypes.pirAdapter (zeroPayload.set 0 1 byte0_lt))

/-- Every node has loaded its RAM from the image in its flash, and nothing was sent. -/
structure Start {n : ℕ} (image : Fin n → EepromImage) (s : State n) : Prop where
  cache : ∀ v, (s.device v).eeprom.memory.cache = image v
  backing : ∀ v, (s.device v).eeprom.memory.backing = image v
  sent : ∀ v, (s.device v).sent = []
  noRelay : ∀ v, (s.device v).mesh.relayPending = false
  issued : s.issued = []
  wiped : s.wiped = []

def system {n : ℕ} (image : Fin n → EepromImage) : System (State n) (Event n) where
  Init := Start image
  step := step

/-- A frame of the server orders the node with this address to store the byte.  Handed to this
node, an `OP_CONFIG_SET` may address it in the header too. -/
def Commanded {n : ℕ} (s : State n) (v : Fin n) (i : ℕ) (b : UInt8) : Prop :=
  ∃ c ∈ s.issued, ∃ o, (orderOf c.2 = some o ∨ c.1 = v ∧ headerOrder c.2 = some o) ∧
    Addresses (s.device v).wifiMac o.addressee ∧ o.cell = i ∧ o.byte = b

/-- The byte was there at the start, is the mark of a wipe, or was commanded. -/
def Accounted {n : ℕ} (image : Fin n → EepromImage) (s : State n) (v : Fin n) (i : ℕ)
    (b : UInt8) : Prop :=
  b = EepromManager.readByte (image v) i ∨ v ∈ s.wiped ∧ b = 0xFF ∨ Commanded s v i b

/-! ## What a node may do

`Account` is what is known about a node while it works on one event. -/

structure Account where
  mac : MacAddress
  /-- The orders that the server has given. -/
  known : Order → Prop
  /-- The bytes of a setting that need no order. -/
  base : ℕ → UInt8 → Prop

/-- A setting holds what needs no order or was ordered. -/
def Account.Allows (a : Account) (i : ℕ) (b : UInt8) : Prop :=
  IsSetting i → a.base i b ∨
    ∃ o, a.known o ∧ Addresses a.mac o.addressee ∧ o.cell = i ∧ o.byte = b

/-- The order of the message, if it has one, is the server's. -/
def Account.Authentic (a : Account) (msg : MeshMessage) : Prop :=
  ∀ o, orderOf msg = some o → a.known o

/-- The device stores, sends and keeps pending nothing but what is allowed. -/
structure Honest (a : Account) (d : Device) : Prop where
  wifiMac : d.wifiMac = a.mac
  stored : Holds a.Allows d.eeprom
  sent : ∀ f ∈ d.sent, a.Authentic f.2
  pending : d.mesh.relayPending = true → a.Authentic d.mesh.relayPendingMsg

section Orders

variable {a : Account} {msg msg' : MeshMessage}

/-- The order of a message is in its type and its data. -/
theorem orderOf_congr (htype : msg'.dataType = msg.dataType) (hdata : msg'.data = msg.data) :
    orderOf msg' = orderOf msg := by
  simp only [orderOf, Device.commandedByte, Device.dataAddress, htype, hdata]

/-- A message with authentic data is authentic, whoever sends it. -/
theorem Account.Authentic.congr (h : a.Authentic msg) (htype : msg'.dataType = msg.dataType)
    (hdata : msg'.data = msg.data) : a.Authentic msg' := by
  rw [Account.Authentic, orderOf_congr htype hdata]
  exact h

/-- A message that gives no order is authentic. -/
theorem authentic_of_none (h : orderOf msg = none) : a.Authentic msg := by
  intro o ho
  rw [h] at ho
  cases ho

/-- A message of another type, or with another opcode, gives no order. -/
theorem orderOf_eq_none
    (h : msg.dataType = AdapterTypes.serialAdapter →
      getElem msg.data 0 byte0_lt ≠ Opcode.configSet ∧
        getElem msg.data 0 byte0_lt ≠ Opcode.nodeIdSet ∧
          getElem msg.data 0 byte0_lt ≠ Opcode.txPowerSet) : orderOf msg = none := by
  unfold orderOf
  by_cases htype : msg.dataType = AdapterTypes.serialAdapter
  · obtain ⟨hconfig, hid, hpower⟩ := h htype
    rw [if_neg (not_not.mpr htype), if_neg hconfig, if_neg hid, if_neg fun hboth => hpower hboth.1]
  · exact if_pos htype

/-- `OP_CONFIG_SET` orders the adapter type.
SOURCE: Adapter.cpp:48-70 -/
theorem orderOf_configSet (htype : msg.dataType = AdapterTypes.serialAdapter)
    (hop : getElem msg.data 0 byte0_lt = Opcode.configSet) : orderOf msg =
      some ⟨EepromAddresses.adapterType, Device.commandedByte msg, Device.dataAddress msg⟩ := by
  rw [orderOf, if_neg (not_not.mpr htype), if_pos hop]

/-- `OP_NODE_ID_SET` orders the node ID.
SOURCE: Adapter.cpp:72-88 -/
theorem orderOf_nodeIdSet (htype : msg.dataType = AdapterTypes.serialAdapter)
    (hop : getElem msg.data 0 byte0_lt = Opcode.nodeIdSet) : orderOf msg =
      some ⟨EepromAddresses.nodeId, getElem msg.data 7 byte7_lt, Device.dataAddress msg⟩ := by
  have hconfig : Opcode.nodeIdSet ≠ Opcode.configSet := by decide
  rw [orderOf, if_neg (not_not.mpr htype), hop, if_neg hconfig, if_pos rfl]

/-- `OP_TX_POWER_SET` orders one of the three transmit powers.
SOURCE: Serial_Adapter.cpp:153-177 -/
theorem orderOf_txPowerSet (htype : msg.dataType = AdapterTypes.serialAdapter)
    (hop : getElem msg.data 0 byte0_lt = Opcode.txPowerSet)
    (hvalid : getElem msg.data 1 byte1_lt ≤ 2) : orderOf msg =
      some ⟨EepromAddresses.txPowerPreset, getElem msg.data 1 byte1_lt, broadcastMac⟩ := by
  have hconfig : Opcode.txPowerSet ≠ Opcode.configSet := by decide
  have hid : Opcode.txPowerSet ≠ Opcode.nodeIdSet := by decide
  rw [orderOf, if_neg (not_not.mpr htype), hop, if_neg hconfig, if_neg hid, if_pos ⟨rfl, hvalid⟩]

end Orders

/-! ## Saves -/

section Saves

variable {a : Account} {d : Device}

/-- The account speaks of the settings only. -/
theorem allows_onlyOn : OnlyOn settings a.Allows := by
  intro i b hnone hsetting
  obtain ⟨k, hk, howns⟩ := hsetting
  exact absurd howns (hnone k hk)

/-- A device whose EEPROM holds to the account stays honest. -/
theorem Honest.setEeprom (h : Honest a d) {em : EepromManager} (hem : Holds a.Allows em) :
    Honest a { d with eeprom := em } :=
  ⟨h.wifiMac, hem, h.sent, h.pending⟩

/-- A save that the test finds to spare the settings does spare them. -/
theorem spares_of_sparesSettings {c : SaveCall} (h : sparesSettings c = true) :
    OnField c ∧ ∀ k ∈ settings, fieldStore.Spares c k := by
  have hfield : OnField c := by
    cases c with
    | clearAll => cases h
    | clearRange startAddr endAddr => cases h
    | _ => exact True.intro
  refine ⟨hfield, spares_of_fieldOf fun k hfor hmem => ?_⟩
  cases c with
  | adapterType type => cases h
  | nodeId id => cases h
  | txPowerPreset preset => cases h
  | clearAll => cases hfor
  | clearRange startAddr endAddr => cases hfor
  | _ =>
      cases hfor
      exact absurd hmem (by decide)

/-- A device that makes a save which is no command stays honest. -/
theorem Honest.save (h : Honest a d) {c : SaveCall} (hspares : sparesSettings c = true) :
    Honest a { d with eeprom := c.run d.eeprom } := by
  obtain ⟨hfield, hother⟩ := spares_of_sparesSettings hspares
  exact h.setEeprom (h.stored.run_of_spares allows_onlyOn hfield hother)

/-- A save of one byte that the account allows. -/
theorem Honest.store (h : Honest a d) {c : SaveCall} {i : ℕ} {b : UInt8}
    (hbytes : bytesOf c = [(i, b)]) (hallows : a.Allows i b) :
    Honest a { d with eeprom := c.run d.eeprom } := by
  apply h.setEeprom
  apply h.stored.run c
  intro w hw
  rw [hbytes] at hw
  rw [List.mem_singleton.mp hw]
  exact hallows

/-- A known order for this node allows its byte. -/
theorem allows_of_known {o : Order} (hknown : a.known o) (haddress : Addresses a.mac o.addressee) :
    a.Allows o.cell o.byte :=
  fun _ => .inr ⟨o, hknown, haddress, rfl, rfl⟩

end Saves

/-! ## Mesh calls -/

section Calls

variable {a : Account} {d : Device}

/-- An honest device stays so through two computations in a row. -/
theorem Honest.after_bind {outcome : Outcome} {f : Device → Outcome}
    (h : Honest a (deviceAfter outcome)) (hf : ∀ d, Honest a d → Honest a (deviceAfter (f d))) :
    Honest a (deviceAfter (outcome.bind f)) := by
  cases outcome with
  | ok d => exact hf d h
  | error r => exact h

/-- A failure changes no setting. -/
theorem Honest.after_fail (h : Honest a d) (f : Failure) : Honest a (deviceAfter (d.fail f)) := by
  unfold Device.fail
  split
  · exact h
  · exact h

/-- A frame to the server changes no setting. -/
theorem Honest.writeFrame (h : Honest a d) (payload : List UInt8) :
    Honest a (d.writeFrame payload) :=
  ⟨h.wifiMac, h.stored, h.sent, h.pending⟩

/-- An effect that sends authentic messages keeps a device honest. -/
theorem Honest.runEffect (h : Honest a d) (callback : Device → MeshMessage → Outcome) {e : Effect}
    (hquiet : Quiet e) (hsends : ∀ f ∈ sentFrames [e], a.Authentic f.2) :
    Honest a (deviceAfter (d.runEffect callback e)) := by
  cases e with
  | espNowSend target msg =>
      refine ⟨h.wifiMac, h.stored, fun f hf => ?_, h.pending⟩
      rcases List.mem_append.mp hf with hold | hnew
      · exact h.sent f hold
      · rw [List.mem_singleton.mp hnew]
        exact hsends _ (List.mem_singleton_self _)
  | externalRecvCallback msg => exact absurd hquiet id
  | enrollmentRelay mac pubKey =>
      show Honest a (d.relayEnrollmentToServer mac pubKey)
      unfold Device.relayEnrollmentToServer
      split
      · exact h
      · exact h.writeFrame _
  | saveKnownMasterMac mac => exact @Honest.save a d h (.knownMasterMac mac) rfl
  | saveKnownMasterMacSecondary mac => exact @Honest.save a d h (.knownMasterMacSecondary mac) rfl
  | saveEnrolledFlag enrolled => exact @Honest.save a d h (.enrolledFlag enrolled) rfl
  | savePeerList records numPeers => exact @Honest.save a d h (.peerList _ numPeers) rfl
  | fail f => exact h.after_fail f

/-- A list of effects that send authentic messages keeps a device honest. -/
theorem Honest.runEffects (callback : Device → MeshMessage → Outcome) {effects : List Effect}
    (h : Honest a d) (hquiet : ∀ e ∈ effects, Quiet e)
    (hsends : ∀ f ∈ sentFrames effects, a.Authentic f.2) :
    Honest a (deviceAfter (d.runEffects callback effects)) := by
  induction effects generalizing d with
  | nil => exact h
  | cons e es ih =>
      have hsplit : sentFrames (e :: es) = sentFrames [e] ++ sentFrames es :=
        sentFrames_append [e] es
      rw [hsplit] at hsends
      rw [runEffects_cons]
      apply Honest.after_bind
      · exact h.runEffect callback (hquiet e List.mem_cons_self) fun f hf =>
          hsends f (List.mem_append_left _ hf)
      · intro d' h'
        exact ih h' (fun e' he' => hquiet e' (List.mem_cons_of_mem _ he')) fun f hf =>
          hsends f (List.mem_append_right _ hf)

/-- What a mesh function may leave pending and send. -/
structure Clean (a : Account) (result : Mesh × List Effect) : Prop where
  pending : result.1.relayPending = true → a.Authentic result.1.relayPendingMsg
  sends : ∀ f ∈ sentFrames result.2, a.Authentic f.2

/-- A mesh object whose pending relay is authentic may be installed. -/
theorem Honest.install (h : Honest a d) {m : Mesh}
    (hpending : m.relayPending = true → a.Authentic m.relayPendingMsg) :
    Honest a { d with mesh := m } :=
  ⟨h.wifiMac, h.stored, h.sent, hpending⟩

/-- The result of a mesh function that sends authentic messages may be installed. -/
theorem Honest.commitMesh (h : Honest a d) (callback : Device → MeshMessage → Outcome)
    {result : Mesh × List Effect} (hclean : Clean a result) (hquiet : ∀ e ∈ result.2, Quiet e) :
    Honest a (deviceAfter (d.commitMesh callback result)) :=
  (h.install hclean.pending).runEffects callback hquiet hclean.sends

/-- The calls of the running node perform quiet effects only. -/
theorem call_quiet (m : Mesh) (env : Env) (c : Call) : ∀ e ∈ (c.run m env).2, Quiet e := by
  have hradio : ∀ {effects : List Effect}, AllRadioOnly effects → ∀ e ∈ effects, Quiet e :=
    fun h e he => (h e he).quiet
  cases c with
  | transmit type data => exact hradio (transmit_radioOnly m env type data)
  | broadcastAdapterData type data => exact hradio (broadcastAdapterData_radioOnly m env type data)
  | broadcastMasterBeacon =>
      simp only [Call.run]
      unfold Mesh.broadcastMasterBeacon
      split
      · exact hradio allRadioOnly_nil
      · exact hradio (espNowBroadcast_radioOnly _)
  | sendEnrollmentRequest => exact hradio (espNowBroadcast_radioOnly _)
  | enrollPeer tls mac publicKey => exact enrollPeer_quiet m tls env mac publicKey

/-- A call whose message is authentic. -/
theorem Honest.call (h : Honest a d) (env : Env) {c : Call} (hmsg : a.Authentic (c.frame d.mesh)) :
    Honest a (deviceAfter (d.commitMesh Device.noCallback (c.run d.mesh env))) := by
  have horiginates := c.run_originates d.mesh env
  apply h.commitMesh _ ⟨fun hpending => ?_, fun f hf => ?_⟩ (call_quiet d.mesh env c)
  · obtain ⟨hbefore, hsame⟩ := horiginates.undisturbed.kept.pending hpending
    rw [hsame]
    exact h.pending hbefore
  · rw [horiginates.frames f hf]
    exact hmsg

/-- The message of data that a node sends on its own. -/
def carrying (type : AdapterTypes) (data : Payload) : MeshMessage :=
  { MeshMessage.zero with
    dataType := type
    data := data }

/-- Data with another opcode give no order, under whatever type they are sent. -/
theorem orderOf_transmit {m : Mesh} {type : AdapterTypes} {data : Payload}
    (h : orderOf (carrying type data) = none) :
    orderOf ((Call.transmit type data).frame m) = none := by
  simp only [Call.frame]
  split
  · exact (orderOf_congr rfl rfl).trans h
  · exact (orderOf_congr rfl rfl).trans h

/-- **What the firmware sends on its own gives no order.** -/
theorem Own.orderOf_frame {c : Call} (h : Own d c) : orderOf (c.frame d.mesh) = none := by
  have hother : ∀ type : AdapterTypes, type ≠ AdapterTypes.serialAdapter → ∀ data,
      orderOf (carrying type data) = none := fun type hne data => if_pos hne
  cases h with
  | beacon => exact if_pos (by decide : AdapterTypes.unknownAdapter ≠ AdapterTypes.serialAdapter)
  | enrollmentRequest =>
      exact if_pos (by decide : AdapterTypes.unknownAdapter ≠ AdapterTypes.serialAdapter)
  | healthReport env =>
      refine orderOf_transmit (orderOf_eq_none fun _ => ?_)
      have hop : (carrying AdapterTypes.serialAdapter (d.healthReport env)).data[0] =
          Opcode.healthReport := by
        simp [carrying, Device.healthReport]
      rw [hop]
      decide
  | nodeHealth env =>
      refine orderOf_transmit (orderOf_eq_none fun _ => ?_)
      have hop : (carrying AdapterTypes.serialAdapter (PirNode.nodeHealth d env)).data[0] =
          Opcode.nodeHealth := by
        simp [carrying, PirNode.nodeHealth]
      rw [hop]
      decide
  | motion => exact orderOf_transmit (hother _ (by decide) _)

/-- Transmitting authentic data keeps a device honest.
SOURCE: Mesh.cpp:667-677 -/
theorem Honest.transmit (h : Honest a d) (env : Env) {type : AdapterTypes} {data : Payload}
    (hmsg : a.Authentic (carrying type data)) :
    Honest a (deviceAfter (d.transmit env type data)) := by
  apply @Honest.call a d h env (.transmit type data)
  simp only [Call.frame]
  split
  · exact hmsg.congr rfl rfl
  · exact hmsg.congr rfl rfl

/-- Broadcasting authentic data keeps a device honest.
SOURCE: Mesh.cpp:776-785 -/
theorem Honest.broadcastAdapterData (h : Honest a d) (env : Env) {type : AdapterTypes}
    {data : Payload} (hmsg : a.Authentic (carrying type data)) :
    Honest a (deviceAfter (d.broadcastAdapterData env type data)) :=
  @Honest.call a d h env (.broadcastAdapterData type data) (hmsg.congr rfl rfl)

end Calls

/-! ## The adapter's side -/

section Adapter

variable {a : Account} {d : Device} {msg : MeshMessage}

/-- A health report gives no order.
SOURCE: Serial_Adapter.cpp:24-57 -/
theorem Honest.sendHealthReport (h : Honest a d) (env : Env) :
    Honest a (deviceAfter (d.sendHealthReport env)) := by
  exact @Honest.call a d h env _ (authentic_of_none (Own.healthReport env).orderOf_frame)

/-- The save of a commanded type that the account allows.
SOURCE: Adapter.cpp:60-66, Serial_Adapter.cpp:453-468 -/
theorem Honest.applyConfigSet (h : Honest a d) (site : RestartSite)
    (hallows : a.Allows EepromAddresses.adapterType (Device.commandedByte msg)) :
    Honest a (deviceAfter (d.applyConfigSet site msg)) := by
  show Honest a { d with eeprom := commanded d msg }
  unfold commanded AdapterFactory.saveAdapterTypeToEEPROM
  split
  · exact h
  · exact @Honest.store a d h (.adapterType (Device.commandedByte msg)) _ _ rfl hallows

/-- A node ID that was ordered may be saved.
SOURCE: Adapter.cpp:72-88 -/
theorem Honest.applyNodeIdSet (h : Honest a d) (hmsg : a.Authentic msg)
    (htype : msg.dataType = AdapterTypes.serialAdapter)
    (hop : getElem msg.data 0 byte0_lt = Opcode.nodeIdSet) :
    Honest a (d.applyNodeIdSet msg) := by
  unfold Device.applyNodeIdSet
  split
  · next htargets =>
    have haddress := targets_iff.mp htargets
    rw [h.wifiMac] at haddress
    have hallows := allows_of_known (hmsg _ (orderOf_nodeIdSet htype hop)) haddress
    exact @Honest.store a d h (.nodeId _) _ _ rfl hallows
  · exact h

/-- SOURCE: Adapter.cpp:46-88 -/
theorem Honest.baseOpcode (h : Honest a d) (hmsg : a.Authentic msg)
    (htype : msg.dataType = AdapterTypes.serialAdapter) :
    Honest a (deviceAfter (d.baseOpcode msg)) := by
  unfold Device.baseOpcode
  split
  · next hop =>
    split
    · next htargets =>
      have haddress := targets_iff.mp htargets
      rw [h.wifiMac] at haddress
      exact h.applyConfigSet _ (allows_of_known (hmsg _ (orderOf_configSet htype hop)) haddress)
    · exact h
  · split
    · next hop => exact h.applyNodeIdSet hmsg htype hop
    · exact h

/-- SOURCE: Adapter.cpp:99-131 -/
theorem Honest.ledCommand (h : Honest a d) (env : DeviceEnv) (adapter : Adapter) :
    Honest a (deviceAfter (d.ledCommand env adapter msg)) := by
  unfold Device.ledCommand
  simp only
  split
  · unfold Device.sendDataThroughMesh
    split
    · refine h.transmit _ (authentic_of_none (orderOf_eq_none fun _ => ?_))
      simp only [carrying, Vector.getElem_ofFn, List.cons_append, List.getD_cons_zero]
      decide
    · exact h.after_fail _
  · exact h

/-- The save of a commanded preset. -/
theorem Honest.savePreset (h : Honest a d) (hmsg : a.Authentic msg)
    (htype : msg.dataType = AdapterTypes.serialAdapter)
    (hop : getElem msg.data 0 byte0_lt = Opcode.txPowerSet)
    (hvalid : getElem msg.data 1 byte1_lt ≤ 2) :
    Honest a { d with
      eeprom := d.eeprom.saveTxPowerPreset (getElem msg.data 1 byte1_lt) } := by
  have hallows := allows_of_known (hmsg _ (orderOf_txPowerSet htype hop hvalid)) (.inl rfl)
  exact @Honest.store a d h (.txPowerPreset _) _ _ rfl hallows

/-- SOURCE: Serial_Adapter.cpp:153-201 -/
theorem Honest.serialOnMeshDataImpl (h : Honest a d) (env : Env) (hmsg : a.Authentic msg) :
    Honest a (deviceAfter (d.serialOnMeshDataImpl env msg)) := by
  unfold Device.serialOnMeshDataImpl
  apply Honest.after_bind
  · unfold Device.serialOpcode
    split
    · exact h
    · next htype =>
      split
      · exact h.sendHealthReport env
      · split
        · next hpower => exact h.savePreset hmsg (not_not.mp htype) hpower.1 hpower.2
        · exact h
  · intro d' h'
    split
    · exact h'.after_fail _
    · exact h'.writeFrame _

/-- **A delivered message makes the adapter do what its order says, and nothing else.**
SOURCE: Adapter.cpp:26-142, main.ino:73-79 -/
theorem Honest.dataRecvCallback (h : Honest a d) (env : DeviceEnv) (hmsg : a.Authentic msg) :
    Honest a (deviceAfter (Device.dataRecvCallback env d msg)) := by
  have himpl : ∀ {d : Device} (adapter : Adapter), Honest a d →
      Honest a (deviceAfter (d.onMeshDataImpl env.callback adapter msg)) := by
    intro d adapter h
    unfold Device.onMeshDataImpl
    split
    · exact h.serialOnMeshDataImpl _ hmsg
    · exact h
  unfold Device.dataRecvCallback
  split
  · exact h
  · next adapter _ =>
    unfold Device.onMeshData
    split
    · next htype =>
      apply Honest.after_bind (h.baseOpcode hmsg htype)
      intro d' h'
      split
      · exact h'
      · exact himpl adapter h'
    · split
      · exact h.ledCommand env adapter
      · split
        · exact h
        · exact himpl adapter h

/-- The receive step: relay copies say what the message says.
SOURCE: Mesh.cpp:563-604 -/
theorem Honest.handleEntry (h : Honest a d) (env : DeviceEnv) (entry : RecvQueueEntry)
    (hmsg : a.Authentic entry.msg) : Honest a (deviceAfter (d.handleEntry env entry)) := by
  have hclean : Clean a (d.mesh.handleEntry env.handler entry) := by
    refine ⟨fun hpending => ?_, fun f hf => ?_⟩
    · rcases handleEntry_relay d.mesh env.handler entry with ⟨-, hdone⟩ | ⟨-, hkept⟩
      · rw [hdone.pending.2]
        exact hmsg.congr rfl rfl
      · obtain ⟨hbefore, hsame⟩ := hkept.pending hpending
        rw [hsame]
        exact h.pending hbefore
    · rw [(handleEntry_frames hf).2]
      exact hmsg.congr rfl rfl
  unfold Device.handleEntry
  rcases handleEntry_effects d.mesh env.handler entry with ⟨rest, hrest, heffects⟩ | hquiet
  · unfold Device.commitMesh
    rw [heffects, runEffects_cons]
    have hsends := hclean.sends
    rw [heffects] at hsends
    apply Honest.after_bind ((h.install hclean.pending).dataRecvCallback env hmsg)
    intro d' h'
    exact h'.runEffects _ (fun e he => (hrest e he).quiet) hsends
  · exact h.commitMesh _ hclean hquiet

/-- SOURCE: Mesh.cpp:1099-1105 -/
theorem Honest.dispatchRelay (h : Honest a d) (env : Env) :
    Honest a (deviceAfter (d.commitMesh Device.noCallback (d.mesh.dispatchRelay env))) := by
  apply h.commitMesh _ ⟨fun hpending => ?_, fun f hf => ?_⟩
  · intro e he
    unfold Mesh.dispatchRelay at he
    split at he
    · exact (transmitCore_radioOnly _ _ _ _ _ _ e he).quiet
    · cases he
  · obtain ⟨hbefore, hsame⟩ := (dispatchRelay_relayKept d.mesh env).pending hpending
    rw [hsame]
    exact h.pending hbefore
  · obtain ⟨hpending, hframe⟩ := dispatchRelay_frames hf
    rw [hframe]
    exact h.pending hpending

end Adapter

/-! ## The serial side -/

section Serial

variable {a : Account} {d : Device} {msg : MeshMessage}

/-- SOURCE: Serial_Adapter.cpp:382-426 -/
theorem Honest.forwardFrame (h : Honest a d) (env : Env) (adapter : Adapter)
    (hmsg : a.Authentic msg) : Honest a (deviceAfter (d.forwardFrame env adapter msg)) := by
  have hdata : a.Authentic (carrying msg.dataType msg.data) := hmsg.congr rfl rfl
  unfold Device.forwardFrame
  split
  · split
    · exact h.transmit env hdata
    · exact h.after_fail _
  · split
    · exact h.broadcastAdapterData env hdata
    · exact h

/-- A master broadcasts the preset it was commanded.
SOURCE: Serial_Adapter.cpp:473-500 -/
theorem Honest.serialTxPowerSet (h : Honest a d) (env : Env) (hmsg : a.Authentic msg)
    (htype : msg.dataType = AdapterTypes.serialAdapter)
    (hop : getElem msg.data 0 byte0_lt = Opcode.txPowerSet) :
    Honest a (deviceAfter (d.serialTxPowerSet env msg)) := by
  unfold Device.serialTxPowerSet
  split
  · exact h
  · next hvalid =>
    have hpreset : getElem msg.data 1 byte1_lt ≤ 2 := UInt8.not_lt.mp hvalid
    have hsaved := h.savePreset hmsg htype hop hpreset
    simp only
    split
    · apply hsaved.broadcastAdapterData env
      intro o ho
      apply hmsg o
      rw [orderOf_txPowerSet htype hop hpreset, ← ho]
      exact (@orderOf_txPowerSet (carrying AdapterTypes.serialAdapter
        ((zeroPayload.set 0 Opcode.txPowerSet byte0_lt).set 1
          (getElem msg.data 1 byte1_lt) byte1_lt)) rfl (by simp [carrying])
          (by simpa [carrying] using hpreset)).symm
    · exact hsaved

/-- **A frame of the server makes the node do what it orders, in the data or in the header.**
SOURCE: Serial_Adapter.cpp:325-524 -/
theorem Honest.handleCompleteFrame (h : Honest a d) (tls : Mbedtls) (env : Env) (adapter : Adapter)
    (bytes : List UInt8)
    (hmsg : ∀ msg ∈ commandsOf d.wifiMac bytes, a.Authentic msg ∧
      ∀ o, headerOrder msg = some o → Addresses a.mac o.addressee → a.base o.cell o.byte) :
    Honest a (deviceAfter (d.handleCompleteFrame tls env adapter bytes)) := by
  unfold Device.handleCompleteFrame
  unfold commandsOf at hmsg
  split
  · exact h.after_fail _
  · next msg hdecode =>
    rw [hdecode] at hmsg
    split
    · split
      · exact h
      · have hother : AdapterTypes.unknownAdapter ≠ AdapterTypes.serialAdapter := by decide
        exact @Honest.call a d h env (.enrollPeer tls msg.targetMacAddress msg.enrollmentPublicKey)
          (authentic_of_none (orderOf_eq_none fun htype => absurd htype hother))
    · next hjoin =>
      obtain ⟨hauthentic, hheader⟩ := hmsg msg (by simpa using hjoin)
      apply Honest.after_bind (h.forwardFrame env adapter hauthentic)
      intro d' h'
      unfold Device.serialControl
      split
      · exact h'
      · next hother =>
        have htype := not_not.mp hother
        split
        · exact h'.sendHealthReport env
        · split
          · next hop =>
            split
            · next htargets =>
              have haddress := targets_iff.mp htargets
              rw [h'.wifiMac] at haddress
              have hbase := hheader _ (if_pos ⟨htype, hop⟩) haddress
              exact h'.applyConfigSet _ fun _ => .inl hbase
            · exact h'
          · split
            · next hop => exact h'.serialTxPowerSet env hauthentic htype hop
            · split
              · next hop => exact h'.applyNodeIdSet hauthentic htype hop
              · exact h'

end Serial

/-! ## Restarts and initialisation -/

section Restarts

variable {a : Account} {d : Device}

/-- A restart loads the settings that are in flash. -/
theorem Honest.restarted (h : Honest a d) : Honest a (restarted d) :=
  ⟨h.wifiMac, h.stored.reboot, h.sent, fun hpending => absurd hpending Bool.false_ne_true⟩

/-- A device is honest whether the function returned, failed or restarted it. -/
theorem Honest.settled {outcome : Outcome} (h : Honest a (deviceAfter outcome)) :
    Honest a (settled outcome) := by
  cases outcome with
  | ok d => exact h
  | error r => exact Honest.restarted h

/-- The bytes of the settings. -/
theorem isSetting_iff {i : ℕ} : IsSetting i ↔ i = EepromAddresses.adapterType ∨
    i = EepromAddresses.nodeId ∨ i = EepromAddresses.txPowerPreset := by
  have hcell : ∀ k ∈ settings, ((field k).Owns i ↔ i = (field k).address) := by
    intro k hk
    have hsize : (field k).size = 1 := by
      revert k
      decide
    simp only [FieldStore.Field.Owns, hsize]
    omega
  constructor
  · rintro ⟨k, hk, howns⟩
    have heq := (hcell k hk).mp howns
    simp only [settings, List.mem_cons, List.not_mem_nil, or_false] at hk
    rcases hk with rfl | rfl | rfl
    · exact .inl heq
    · exact .inr (.inl heq)
    · exact .inr (.inr heq)
  · rintro (rfl | rfl | rfl)
    · exact ⟨.adapterType, by decide, Nat.le_refl _, by decide⟩
    · exact ⟨.nodeId, by decide, Nat.le_refl _, by decide⟩
    · exact ⟨.txPowerPreset, by decide, Nat.le_refl _, by decide⟩

/-- No migration moves a setting.
SOURCE: EEPROM_Manager.cpp:44-124 -/
theorem migratedImage_setting {image : ℕ → UInt8} {i : ℕ} (h : IsSetting i) :
    SchemaMigration.migratedImage image i = image i ∨
      SchemaMigration.migratedImage image i = 0xFF ∧
        image EepromAddresses.schemaVersion ≠ 0xFF ∧
          EepromSizes.currentSchemaVersion < image EepromAddresses.schemaVersion := by
  have hplace : i ≠ EepromAddresses.schemaVersion ∧
      ¬(EepromAddresses.knownMasterMacSecondary ≤ i ∧
        i < EepromAddresses.knownMasterMacSecondary + 6) ∧
      (i < EepromAddresses.peerList ∨ EepromAddresses.bootEpoch ≤ i) := by
    rcases isSetting_iff.mp h with rfl | rfl | rfl <;> decide
  obtain ⟨hversion, hsecondary, hapart⟩ := hplace
  have hlt : i < EepromSizes.totalSize := by
    obtain ⟨k, -, howns⟩ := h
    exact owns_lt howns
  unfold SchemaMigration.migratedImage SchemaMigration.versionImage SchemaMigration.secondaryImage
  split
  · exact .inl rfl
  · next hcurrent =>
    split
    · rw [Function.update_of_ne hversion]
      exact .inl rfl
    · next hblank =>
      split
      · rw [Function.update_of_ne hversion, if_neg hsecondary]
        exact .inl (SchemaMigration.v1Image_of_apart hapart)
      · split
        · rw [Function.update_of_ne hversion, if_neg hsecondary]
          exact .inl rfl
        · next hless =>
          rw [Function.update_of_ne hversion, EepromManager.readByte, dif_pos hlt]
          refine .inr ⟨rfl, hblank, ?_⟩
          rw [UInt8.not_lt, UInt8.le_iff_toNat_le] at hless
          rw [← UInt8.toNat_inj] at hcurrent
          rw [UInt8.lt_iff_toNat_lt]
          omega

/-- `init()` leaves the settings, or wipes everything.
SOURCE: EEPROM_Manager.cpp:36-137 -/
theorem Honest.init (h : Honest a d) (hwiped : Wipes d.eeprom → ∀ i, a.base i 0xFF) :
    Honest a { d with eeprom := d.eeprom.init } := by
  apply h.setEeprom
  unfold EepromManager.init
  split
  · exact h.stored
  · have hbegun : Holds a.Allows (begun d.eeprom) := h.stored.of_memory rfl
    have hfree : ∀ {i : ℕ} (b : UInt8), ¬IsSetting i → a.Allows i b :=
      fun b hother hsetting => absurd hsetting hother
    have hmigrated : Holds a.Allows (begun d.eeprom).migrate := by
      refine hbegun.migrate rfl (fun hwipes i _ => .inl (hwiped hwipes i)) fun i hi hsetting => ?_
      rcases migratedImage_setting hsetting with hkept | ⟨hblank, hwipes⟩
      · rw [hkept]
        exact hbegun.read hi hsetting
      · rw [hblank]
        exact .inl (hwiped hwipes i)
    have hreason : ¬IsSetting EepromAddresses.rebootReason := by
      rw [isSetting_iff]
      decide
    have hcount : ¬IsSetting EepromAddresses.rebootCount := by
      rw [isSetting_iff]
      decide
    exact hmigrated.validateRebootBytes (fun b => hfree b hreason) fun b => hfree b hcount

/-- SOURCE: main.ino:413-422 -/
theorem Honest.resetConfirmed (h : Honest a d) (millis : UInt32) (hwiped : ∀ i, a.base i 0xFF) :
    Honest a (deviceAfter (d.resetConfirmed millis)) := by
  have hcleared : Holds a.Allows (SaveCall.clearAll.run d.eeprom) := by
    apply h.stored.run
    intro w hw hsetting
    obtain ⟨-, -, hvalue⟩ := mem_bytesAt hw
    have hbyte : w.2 = 0xFF := List.eq_of_mem_replicate hvalue
    rw [hbyte]
    exact .inl (hwiped w.1)
  exact h.setEeprom (hcleared.forceFlush millis)

end Restarts

/-! ## The invariant -/

section Runs

variable {n : ℕ} {image : Fin n → EepromImage} {s s' : State n}

/-- What the frames of the server so far account for at a node with this address. -/
def accountOf (image : Fin n → EepromImage) (s : State n) (v : Fin n) (mac : MacAddress) :
    Account where
  mac := mac
  known o := ∃ c ∈ s.issued, orderOf c.2 = some o
  base i b := b = EepromManager.readByte (image v) i ∨ v ∈ s.wiped ∧ b = 0xFF ∨
    ∃ c ∈ s.issued, c.1 = v ∧ ∃ o, headerOrder c.2 = some o ∧ Addresses mac o.addressee ∧
      o.cell = i ∧ o.byte = b

def Agreed (image : Fin n → EepromImage) (s : State n) : Prop :=
  ∀ v, Honest (accountOf image s v (s.device v).wifiMac) (s.device v)

/-- What the account of a node allows is accounted for. -/
theorem accounted_of_allows {v : Fin n} {i : ℕ} {b : UInt8}
    (h : (accountOf image s v (s.device v).wifiMac).Allows i b) (hsetting : IsSetting i) :
    Accounted image s v i b := by
  rcases h hsetting with (hstart | hwiped | ⟨c, hc, hwho, o, ho, haddress, hcell, hbyte⟩) |
    ⟨o, ⟨c, hc, ho⟩, haddress, hcell, hbyte⟩
  · exact .inl hstart
  · exact .inr (.inl hwiped)
  · exact .inr (.inr ⟨c, hc, o, .inr ⟨hwho, ho⟩, haddress, hcell, hbyte⟩)
  · exact .inr (.inr ⟨c, hc, o, .inl ho, haddress, hcell, hbyte⟩)

/-- More frames and more wipes account for more. -/
theorem Honest.later {v : Fin n} {mac : MacAddress} {d : Device}
    (h : Honest (accountOf image s v mac) d) (hissued : s.issued ⊆ s'.issued)
    (hwiped : s.wiped ⊆ s'.wiped) : Honest (accountOf image s' v mac) d where
  wifiMac := h.wifiMac
  stored := by
    refine h.stored.mono fun i b hallows hsetting => ?_
    rcases hallows hsetting with (hstart | ⟨hv, hblank⟩ | ⟨c, hc, hwho, hrest⟩) |
      ⟨o, ⟨c, hc, ho⟩, hrest⟩
    · exact .inl (.inl hstart)
    · exact .inl (.inr (.inl ⟨hwiped hv, hblank⟩))
    · exact .inl (.inr (.inr ⟨c, hissued hc, hwho, hrest⟩))
    · exact .inr ⟨o, ⟨c, hissued hc, ho⟩, hrest⟩
  sent := by
    intro f hf o ho
    obtain ⟨c, hc, hsame⟩ := h.sent f hf o ho
    exact ⟨c, hissued hc, hsame⟩
  pending := by
    intro hpending o ho
    obtain ⟨c, hc, hsame⟩ := h.pending hpending o ho
    exact ⟨c, hissued hc, hsame⟩

/-- One node changes, under the account as it is afterwards. -/
theorem Agreed.set (h : Agreed image s) {v : Fin n} {d : Device}
    (hdevice : s'.device = Function.update s.device v d)
    (hissued : s.issued ⊆ s'.issued) (hwiped : s.wiped ⊆ s'.wiped)
    (hd : Honest (accountOf image s' v (s.device v).wifiMac) (s.device v) →
      Honest (accountOf image s' v (s.device v).wifiMac) d) : Agreed image s' := by
  intro w
  have hlater : Honest (accountOf image s' w (s.device w).wifiMac) (s.device w) :=
    (h w).later hissued hwiped
  rw [hdevice]
  by_cases hw : w = v
  · subst hw
    have hafter := hd hlater
    rw [Function.update_self, hafter.wifiMac]
    exact hafter
  · rw [Function.update_of_ne hw]
    exact hlater

/-- The others do not notice a change of one node's EEPROM. -/
theorem Agreed.setEeprom (h : Agreed image s) {v : Fin n} {em : EepromManager}
    (hem : Honest (accountOf image s v (s.device v).wifiMac) (s.device v) →
      Honest (accountOf image s v (s.device v).wifiMac)
        { s.device v with eeprom := em }) : Agreed image (s.setEeprom v em) :=
  h.set rfl (fun _ h => h) (fun _ h => h) hem

/-- The frame of the server accounts for what it orders. -/
theorem Agreed.serialFrame (h : Agreed image s) (v : Fin n) (tls : Mbedtls) (env : Env)
    (adapter : Adapter) (bytes : List UInt8) :
    Agreed image (s.serialFrame v tls env adapter bytes) := by
  refine h.set rfl (List.subset_append_left _ _) (fun _ h => h) fun hv => ?_
  apply Honest.settled
  apply hv.handleCompleteFrame
  intro msg hmsg
  have hissued : (v, msg) ∈ (s.serialFrame v tls env adapter bytes).issued :=
    List.mem_append_right _ (List.mem_map.mpr ⟨msg, hmsg, rfl⟩)
  exact ⟨fun o ho => ⟨_, hissued, ho⟩,
    fun o ho haddress => .inr (.inr ⟨_, hissued, rfl, o, ho, haddress, rfl, rfl⟩)⟩

/-- A frame of a node gives no order that the server has not given. -/
theorem Agreed.receive (h : Agreed image s) (v u : Fin n) (env : DeviceEnv) (srcMac : MacAddress)
    {f : MacAddress × MeshMessage} (hf : f ∈ (s.device u).sent) :
    Agreed image (s.set v (settled ((s.device v).handleEntry env ⟨srcMac, f.2⟩))) := by
  refine h.set rfl (fun _ h => h) (fun _ h => h) fun hv => ?_
  exact Honest.settled (hv.handleEntry env ⟨srcMac, f.2⟩ ((h u).sent f hf))

/-- One case for each event. -/
theorem Agreed.step (h : Agreed image s) {e : Event n} (hstep : step s e = some s') :
    Agreed image s' := by
  have hsame : ∀ {α : Type} {l : List α}, l ⊆ l := fun {_ l} => List.Subset.refl l
  cases e with
  | serialFrame v tls env adapter bytes =>
      cases hstep
      exact h.serialFrame v tls env adapter bytes
  | receive v u i env srcMac =>
      obtain ⟨f, hf, rfl⟩ := Option.map_eq_some_iff.mp hstep
      exact h.receive v u env srcMac (List.mem_of_getElem? hf)
  | call v env c =>
      simp only [CommandAgreement.step, Option.ite_none_right_eq_some, Option.some.injEq] at hstep
      obtain ⟨hnone, rfl⟩ := hstep
      exact h.set rfl hsame hsame fun hv => Honest.settled (hv.call env (authentic_of_none hnone))
  | dispatch v env =>
      cases hstep
      exact h.set rfl hsame hsame fun hv => Honest.settled (hv.dispatchRelay env)
  | work v mesh adapter serialOut =>
      simp only [CommandAgreement.step, Option.ite_none_right_eq_some, Option.some.injEq] at hstep
      obtain ⟨hkeeps, rfl⟩ := hstep
      refine h.set rfl hsame hsame fun hv => ⟨hv.wifiMac, hv.stored, hv.sent, fun hpending => ?_⟩
      obtain ⟨hbefore, hmsg⟩ := hkeeps hpending
      rw [hmsg]
      exact hv.pending hbefore
  | save v c =>
      simp only [CommandAgreement.step, Option.ite_none_right_eq_some, Option.some.injEq] at hstep
      obtain ⟨hspares, rfl⟩ := hstep
      exact h.setEeprom fun hv => hv.save hspares
  | flushIfDirty v millis =>
      cases hstep
      exact h.setEeprom fun hv => hv.setEeprom (hv.stored.flushIfDirty millis)
  | forceFlush v millis =>
      cases hstep
      exact h.setEeprom fun hv => hv.setEeprom (hv.stored.forceFlush millis)
  | init v =>
      cases hstep
      refine h.set rfl hsame (fun w hw => ?_) fun hv => hv.init fun hwipes i => ?_
      · show w ∈ if Wipes (s.device v).eeprom then v :: s.wiped else s.wiped
        split
        · exact List.mem_cons_of_mem v hw
        · exact hw
      · refine .inr (.inl ⟨?_, rfl⟩)
        show v ∈ if Wipes (s.device v).eeprom then v :: s.wiped else s.wiped
        rw [if_pos hwipes]
        exact List.mem_cons_self
  | reset v millis =>
      cases hstep
      exact h.set rfl hsame (List.subset_cons_self v _) fun hv =>
        Honest.settled (hv.resetConfirmed millis fun i => .inr (.inl ⟨List.mem_cons_self, rfl⟩))
  | restart v =>
      cases hstep
      exact h.set rfl hsame hsame fun hv => hv.restarted

/-- Every node is honest in every reachable state. -/
theorem agreed_of_reachable (h : (system image).Reachable s) : Agreed image s := by
  refine h.invariant (fun s (hs : Start image s) v => ?_) fun s e s' hs hstep => hs.step hstep
  refine ⟨rfl, ⟨fun i _ => ?_, fun i _ => ?_⟩, fun f hf => ?_, fun hpending => ?_⟩
  · left
    left
    rw [hs.cache, EepromManager.readByte, dif_pos i.isLt]
  · left
    left
    rw [hs.backing, EepromManager.readByte, dif_pos i.isLt]
  · rw [hs.sent v] at hf
    cases hf
  · rw [hs.noRelay v] at hpending
    cases hpending

/-! ## Result -/

/-- **Every setting is accounted for.**  Whatever is lost, replayed or heard by others, and however
the nodes restart, the bytes of the adapter type, the node ID and the transmit power, in RAM and in
flash, are those of the start, the mark of a wipe, or ordered by a frame that the server handed to
some node.  The runs have all that the firmware sends on its own.
SOURCE: Adapter.cpp:26-138, Serial_Adapter.cpp:143-201, 325-524, Mesh.cpp:563-980 -/
theorem settings_accounted (h : (system image).Reachable s) (v : Fin n) {k : EepromField}
    (hk : k ∈ settings) :
    Accounted image s v (field k).address ((s.device v).eeprom.read (field k).address) ∧
      Accounted image s v (field k).address
        (EepromManager.readByte (s.device v).eeprom.memory.backing (field k).address) ∧
      ∀ env c, Own (s.device v) c → ∃ s', (system image).step s (.call v env c) = some s' := by
  have hagreed := agreed_of_reachable h v
  have hpositive : 0 < (field k).size := by
    revert k
    decide
  have howns : (field k).Owns (field k).address := ⟨Nat.le_refl _, by omega⟩
  have hsetting : IsSetting (field k).address := ⟨k, hk, howns⟩
  have hlt := owns_lt howns
  exact ⟨accounted_of_allows (hagreed.stored.read hlt) hsetting,
    accounted_of_allows (hagreed.stored.flash hlt) hsetting,
    fun env c hown => ⟨_, if_pos hown.orderOf_frame⟩⟩

end Runs

/-! ## Two nodes -/

open MeshNetwork (pairMac pairMesh)

/-- A master and a node over a blank flash, each with a PIR adapter linked. -/
def pairDevice (v : Fin 2) : Device where
  mesh := { pairMesh v with externalRecvCallback := true }
  eeprom := { EepromManager.powerUp blankImage with isInitialized := true }
  adapter := some pirAdapter
  factoryDevMode := false
  wifiMac := pairMac v
  serialOut := []
  sent := []

def pair : State 2 := ⟨pairDevice, [], []⟩

/-- The two nodes are a start. -/
theorem start_pair : Start (fun _ => blankImage) pair :=
  ⟨fun _ => rfl, fun _ => rfl, fun _ => rfl, fun _ => rfl, rfl, rfl⟩

/-- The ID 7 for the node `02:02:02:02:02:02`. -/
def idFrame : MeshMessage :=
  { MeshMessage.zero with
    messageType := MeshMessageType.adapterData
    dataType := AdapterTypes.serialAdapter
    data := Vector.ofFn fun i => [Opcode.nodeIdSet, 2, 2, 2, 2, 2, 2, 7].getD i 0 }

/-- The server hands the frame to the master, and the node hears the master. -/
def pairEvents : List (Event 2) :=
  [.serialFrame 0 plainTls quietEnv serialAdapter
    (Pb.encodeFields (SerialAdapter.toPb idFrame)), .receive 1 0 0 quietDeviceEnv (pairMac 0)]

/-- The node stores the ID that the server ordered through the master. -/
theorem settings_accounted_pair :
    ∃ s, (system fun _ => blankImage).runFrom pair pairEvents = some s ∧
      (s.device 1).eeprom.read EepromAddresses.nodeId = 7 ∧
      (Accounted (fun _ => blankImage) s 1 (field .nodeId).address
          ((s.device 1).eeprom.read (field .nodeId).address) ∧
        Accounted (fun _ => blankImage) s 1 (field .nodeId).address
          (EepromManager.readByte (s.device 1).eeprom.memory.backing
            (field .nodeId).address) ∧
        ∀ env c, Own (s.device 1) c →
          ∃ s', (system fun _ => blankImage).step s (.call 1 env c) = some s') := by
  have hrun : ∃ s, (system fun _ => blankImage).runFrom pair pairEvents = some s ∧
      (s.device 1).eeprom.read EepromAddresses.nodeId = 7 := ⟨_, rfl, rfl⟩
  obtain ⟨s, hs, hread⟩ := hrun
  have hreach := System.Reachable.runFrom (.init start_pair) hs
  exact ⟨s, hs, hread, settings_accounted hreach 1 (by decide)⟩

end CommandAgreement

end LatticeNodes.Analysis
