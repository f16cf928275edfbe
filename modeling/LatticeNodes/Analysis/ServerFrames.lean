import LatticeNodes.Analysis.AdapterAnswers
import LatticeNodes.Analysis.EepromCalls
import LatticeNodes.Analysis.ProtobufFields

/-!
# What a frame of the server makes the device do

`handleCompleteFrame` compares the type of a frame after it was narrowed to a byte, and looks for
control opcodes behind every type but an approval.  An approval is taken at any length of its key.
`acts_only_on_frames_iff` says for which frames the handler does what its format promises: it acts
on the three types of the format only, and enrols only what a full approval carries.
-/

set_option autoImplicit false

namespace LatticeNodes.Analysis

open LatticeNodes.Program CachedMemory

namespace ServerFrames

/-! ## Statement -/

/-- The full 32-bit type is none of adapter data, a broadcast and an approval. -/
def UnknownType (pb : PbMeshMessage) : Prop :=
  pb.messageType ≠ 0 ∧ pb.messageType ≠ 3 ∧ pb.messageType ≠ 4

instance (pb : PbMeshMessage) : Decidable (UnknownType pb) :=
  inferInstanceAs (Decidable (_ ∧ _ ∧ _))

/-- Neither the RAM image nor flash has changed. -/
structure SameBytes (em em' : EepromManager) : Prop where
  cache : em'.memory.cache = em.memory.cache
  backing : em'.memory.backing = em.memory.backing

/-- The call returned, and neither sent a message nor changed a byte of the EEPROM. -/
def NothingDone (d : Device) (outcome : Outcome) : Prop :=
  ∃ d', outcome = .ok d' ∧ d'.sent = d.sent ∧ SameBytes d.eeprom d'.eeprom

/-- The arguments of `enrollPeer`, when the handler calls it.
SOURCE: Serial_Adapter.cpp:360-380 -/
def enrollArguments (msg : MeshMessage) : Option (MacAddress × Key) :=
  if msg.messageType = MeshMessageType.joinAck ∧ msg.enrollmentPublicKey ≠ zeroKey then
    some (msg.targetMacAddress, msg.enrollmentPublicKey)
  else none

/-- The handler calls `enrollPeer` with this address and key. -/
def Enrolls (d : Device) (bytes : List UInt8) (mac : MacAddress) (key : Key) : Prop :=
  ∃ msg, SerialAdapter.decodeMeshMessage d.wifiMac bytes = some msg ∧
    enrollArguments msg = some (mac, key)

/-- The payload approves this address and key. -/
def Approves (bytes : List UInt8) (mac : MacAddress) (key : Key) : Prop :=
  (∃ pb, Pb.decode bytes = some pb ∧ pb.messageType = 4) ∧
    CarriesField bytes 4 mac.toList ∧ CarriesField bytes 11 key.toList ∧ key ≠ zeroKey

/-- The handler acts on well-formed frames only. -/
structure ActsOnlyOnFrames (tls : Mbedtls) (d : Device) (env : Env) (adapter : Adapter)
    (bytes : List UInt8) : Prop where
  ignores : (∀ pb, Pb.decode bytes = some pb → UnknownType pb) →
    NothingDone d (d.handleCompleteFrame tls env adapter bytes)
  enrolls : ∀ mac key, Enrolls d bytes mac key → Approves bytes mac key

/-! ## The condition -/

/-- A transmit puts a frame on the air. -/
def TransmitSends (m : Mesh) (env : Env) : Prop :=
  if m.isMaster = true then ReachesPeer m env else ReachesMaster m env

/-- The message is forwarded, and a frame of it goes out. -/
def Forwarded (d : Device) (env : Env) (adapter : Adapter) (msg : MeshMessage) : Prop :=
  msg.messageType = MeshMessageType.adapterData ∧ adapter.transmitFnSet = true ∧
      TransmitSends d.mesh env ∨
    msg.messageType = MeshMessageType.serialCmdBroadcast ∧ ReachesPeer d.mesh env

/-- Saving this preset changes a byte. -/
def StoresPreset (em : EepromManager) (preset : UInt8) : Prop :=
  em.isInitialized = true ∧ em.isDevMode = false ∧
    (em.read EepromAddresses.txPowerPreset ≠ preset ∨
      em.memory.commit.backing ≠ em.memory.backing)

/-- Saving this node ID changes a byte. -/
def StoresNodeId (em : EepromManager) (nodeId : UInt8) : Prop :=
  em.isInitialized = true ∧ em.read EepromAddresses.nodeId ≠ nodeId

/-- A control opcode that sends, saves or restarts. -/
def Controls (d : Device) (env : Env) (msg : MeshMessage) : Prop :=
  msg.dataType = AdapterTypes.serialAdapter ∧
    if getElem msg.data 0 byte0_lt = Opcode.healthReq then TransmitSends d.mesh env
    else if getElem msg.data 0 byte0_lt = Opcode.configSet then
      d.targets msg.targetMacAddress = true
    else if getElem msg.data 0 byte0_lt = Opcode.txPowerSet then
      getElem msg.data 1 byte1_lt ≤ 2 ∧ (StoresPreset d.eeprom (getElem msg.data 1 byte1_lt) ∨
        d.mesh.isMaster = true ∧ ReachesPeer d.mesh env)
    else if getElem msg.data 0 byte0_lt = Opcode.nodeIdSet then
      d.targets (Device.dataAddress msg) = true ∧
        StoresNodeId d.eeprom (getElem msg.data 7 byte7_lt)
    else False

/-- A frame of an unknown type: taken for an approval it has no key, taken for anything else it
neither is forwarded nor holds a control opcode. -/
def Ineffective (d : Device) (env : Env) (adapter : Adapter) (msg : MeshMessage) : Prop :=
  if msg.messageType = MeshMessageType.joinAck then msg.enrollmentPublicKey = zeroKey
  else ¬Forwarded d env adapter msg ∧ ¬Controls d env msg

/-- An approval has no key, which rejects the node, or both of its fields in full. -/
def FullApproval (bytes : List UInt8) (msg : MeshMessage) : Prop :=
  msg.enrollmentPublicKey = zeroKey ∨
    (∃ c, CarriesField bytes 4 c ∧ c.length = 6) ∧ ∃ c, CarriesField bytes 11 c ∧ c.length = 32

/-- The frames on which the handler keeps to its format. -/
def Proper (d : Device) (env : Env) (adapter : Adapter) (bytes : List UInt8) : Prop :=
  ∀ pb, Pb.decode bytes = some pb →
    (UnknownType pb → Ineffective d env adapter (SerialAdapter.ofPb d.wifiMac pb)) ∧
      (pb.messageType = 4 → FullApproval bytes (SerialAdapter.ofPb d.wifiMac pb))

/-! ## Saves -/

section Saves

variable {em em' : EepromManager} {address : ℕ} {v : UInt8}

/-- A manager has its own bytes. -/
theorem SameBytes.refl (em : EepromManager) : SameBytes em em := ⟨rfl, rfl⟩

/-- Storing a byte that is there already leaves the memory as it is. -/
theorem write_same (h : address < EepromSizes.totalSize) (hsame : em.read address = v) :
    (em.write [(address, v)]).memory = em.memory := by
  have hcell : em.memory.cache ⟨address, h⟩ = v := by
    rw [← hsame, EepromManager.read, EepromManager.readByte, dif_pos h]
  have hcache : (em.write [(address, v)]).memory.cache = em.memory.cache := by
    rw [write_singleton_cache em v h, ← hcell, Function.update_eq_self]
  have hbacking : (em.write [(address, v)]).memory.backing = em.memory.backing :=
    Memory.writeAll_backing em.memory _
  have hfaults : (em.write [(address, v)]).memory.faults = em.memory.faults :=
    Memory.writeAll_faults em.memory _
  cases hmem : (em.write [(address, v)]).memory
  rw [hmem] at hcache hbacking hfaults
  subst hcache hbacking hfaults
  rfl

/-- After a write the byte is read back. -/
theorem read_of_cache (h : address < EepromSizes.totalSize)
    (hcache : em'.memory.cache = (em.write [(address, v)]).memory.cache)
    (hsame : SameBytes em em') : em.read address = v := by
  rw [EepromManager.read, ← hsame.cache, hcache, readByte_write_singleton em v h]

/-- A deferred save changes nothing exactly when the byte is there. -/
theorem sameBytes_deferredSave (h : address < EepromSizes.totalSize) :
    SameBytes em (em.deferredSave [(address, v)]) ↔ em.read address = v := by
  constructor
  · exact read_of_cache h rfl
  · intro hsame
    have hmemory : (em.deferredSave [(address, v)]).memory = em.memory := write_same h hsame
    exact ⟨by rw [hmemory], by rw [hmemory]⟩

/-- A committed save changes nothing exactly when the byte is there and nothing else waits. -/
theorem sameBytes_committedSave (h : address < EepromSizes.totalSize) :
    SameBytes em (em.committedSave [(address, v)]) ↔
      em.read address = v ∧ em.memory.commit.backing = em.memory.backing := by
  have hmemory : em.read address = v →
      (em.committedSave [(address, v)]).memory = em.memory.commit :=
    fun hsame => congrArg Memory.commit (write_same h hsame)
  constructor
  · intro hsame
    have hread := read_of_cache h (committedSave_cache em _) hsame
    refine ⟨hread, ?_⟩
    rw [← hmemory hread]
    exact hsame.backing
  · rintro ⟨hread, hbacking⟩
    refine ⟨?_, ?_⟩
    · rw [hmemory hread, Memory.commit_cache]
    · rw [hmemory hread, hbacking]

/-- SOURCE: EEPROM_Manager.cpp:555-561 -/
theorem sameBytes_saveNodeId : SameBytes em (em.saveNodeId v) ↔ ¬StoresNodeId em v := by
  by_cases hinit : em.isInitialized = true
  · rw [EepromManager.saveNodeId, EepromFields.onceInitialized_open hinit,
      sameBytes_deferredSave (by decide : EepromAddresses.nodeId < EepromSizes.totalSize)]
    simp [StoresNodeId, hinit]
  · rw [EepromManager.saveNodeId, EepromFields.onceInitialized_closed hinit]
    exact iff_of_true (SameBytes.refl em) fun hstores => hinit hstores.1

/-- SOURCE: EEPROM_Manager.cpp:546-553 -/
theorem sameBytes_saveTxPowerPreset :
    SameBytes em (em.saveTxPowerPreset v) ↔ ¬StoresPreset em v := by
  by_cases hopen : em.isInitialized = true ∧ em.isDevMode = false
  · rw [EepromManager.saveTxPowerPreset, EepromFields.unlessDevMode_open hopen.1 hopen.2,
      sameBytes_committedSave (by decide : EepromAddresses.txPowerPreset < EepromSizes.totalSize)]
    simp [StoresPreset, hopen.1, hopen.2]
  · rw [EepromManager.saveTxPowerPreset, EepromFields.unlessDevMode_closed hopen]
    exact iff_of_true (SameBytes.refl em) fun hstores => hopen ⟨hstores.1, hstores.2.1⟩

end Saves

/-! ## Frames of a call -/

/-- The device after a call that numbered a message and put these frames on the air. -/
def numbered (d : Device) (txSeqNum : UInt16) (frames : List (MacAddress × MeshMessage)) : Device :=
  { d with
    mesh := { d.mesh with
      txSeqNum := txSeqNum }
    sent := d.sent ++ frames }

/-- How a call ends.  `Acts` says whether it sends, changes a byte or restarts. -/
inductive Ends (d : Device) (Acts : Prop) : Outcome → Prop
  | restart {r : Restart} (h : Acts) : Ends d Acts (.error r)
  | returned {d' : Device} {frames : List (MacAddress × MeshMessage)}
      (hsent : d'.sent = d.sent ++ frames)
      (h : Acts ↔ frames ≠ [] ∨ ¬SameBytes d.eeprom d'.eeprom) : Ends d Acts (.ok d')

section Calls

variable {d : Device} {env : Env} {Acts : Prop} {outcome : Outcome}

/-- A handler does nothing exactly when it does not act. -/
theorem Ends.nothingDone_iff (h : Ends d Acts outcome) : NothingDone d outcome ↔ ¬Acts := by
  cases h with
  | restart hacts =>
      refine iff_of_false ?_ (not_not.mpr hacts)
      rintro ⟨d', hok, -⟩
      cases hok
  | @returned d' frames hsent hacts =>
      rw [hacts, not_or, not_not, not_not]
      constructor
      · rintro ⟨d'', hok, hsame, hbytes⟩
        cases hok
        rw [hsent] at hsame
        exact ⟨List.append_right_eq_self.mp hsame, hbytes⟩
      · rintro ⟨rfl, hbytes⟩
        exact ⟨d', rfl, by rw [hsent, List.append_nil], hbytes⟩

/-- A call that does nothing. -/
theorem Ends.nothing (h : ¬Acts) : Ends d Acts (.ok d) :=
  .returned (List.append_nil d.sent).symm
    (iff_of_false h fun hany => hany.elim (fun hne => hne rfl) fun hnot => hnot (.refl _))

/-- When it acts may be said differently. -/
theorem Ends.congr {Acts' : Prop} (h : Ends d Acts outcome) (hiff : Acts ↔ Acts') :
    Ends d Acts' outcome := by
  obtain rfl : Acts = Acts' := propext hiff
  exact h

/-- Frames go out first. -/
theorem Ends.numbered {txSeqNum : UInt16} {frames : List (MacAddress × MeshMessage)}
    (h : Ends (numbered d txSeqNum frames) Acts outcome) : Ends d (frames ≠ [] ∨ Acts) outcome := by
  cases h with
  | restart hacts => exact .restart (.inr hacts)
  | @returned d' later hsent hacts =>
      have hsent' : d'.sent = d.sent ++ (frames ++ later) := by
        rw [hsent, ServerFrames.numbered, List.append_assoc]
      apply Ends.returned hsent'
      rw [hacts, ne_eq, ne_eq, ne_eq, List.append_eq_nil_iff, not_and_or, or_assoc]
      exact Iff.rfl

/-- SOURCE: Mesh.cpp:776-780 -/
theorem broadcastAdapterData_numbered (d : Device) (env : Env) (type : AdapterTypes)
    (data : Payload) :
    ∃ n frames, d.broadcastAdapterData env type data = .ok (numbered d n frames) ∧
      (frames ≠ [] ↔ ReachesPeer d.mesh env) := by
  refine ⟨_, _, runEffects_radioOnly _ _ (broadcastAdapterData_radioOnly d.mesh env type data), ?_⟩
  simp only [Mesh.broadcastAdapterData, Mesh.broadcastToAllPeers]
  split
  · next hnone =>
    have hempty : d.mesh.peers.entries = [] := hnone
    simp [ReachesPeer, hempty]
  · exact sendToPeers_sends_iff

/-- SOURCE: Mesh.cpp:667-677 -/
theorem transmit_numbered (d : Device) (env : Env) (type : AdapterTypes) (data : Payload) :
    ∃ n frames, d.transmit env type data = .ok (numbered d n frames) ∧
      (frames ≠ [] ↔ TransmitSends d.mesh env) := by
  unfold TransmitSends
  split
  · next hmaster =>
    rw [transmit_of_master hmaster]
    exact broadcastAdapterData_numbered d env type data
  · next hnode =>
    have hplain : d.mesh.isMaster = false := by
      rw [← Bool.not_eq_true]
      exact hnode
    refine ⟨(d.mesh.transmit env type data).1.txSeqNum,
      sentFrames (d.mesh.transmit env type data).2, ?_, transmit_sends_iff hplain⟩
    rw [transmit_ok, transmitted, numbered, Mesh.transmit, if_neg hnode]
    rfl

/-- A send acts exactly when the radio takes a frame. -/
theorem ends_of_numbered {n : UInt16} {frames : List (MacAddress × MeshMessage)}
    (h : frames ≠ [] ↔ Acts) : Ends d Acts (.ok (numbered d n frames)) := by
  apply Ends.returned rfl
  rw [← h]
  exact ⟨.inl, fun hany => hany.elim id fun hnot => (hnot (.refl _)).elim⟩

/-- A call that only saves. -/
theorem ends_of_saved {em : EepromManager} (h : Acts ↔ ¬SameBytes d.eeprom em) :
    Ends d Acts (.ok { d with eeprom := em }) := by
  apply @Ends.returned d Acts { d with eeprom := em } [] (List.append_nil d.sent).symm
  rw [h]
  exact ⟨.inr, fun hany => hany.elim (fun hne => (hne rfl).elim) id⟩

/-! ## The dispatcher -/

/-- The power preset is saved, and a master passes it on.
SOURCE: Serial_Adapter.cpp:473-500 -/
theorem serialTxPowerSet_ends (d : Device) (env : Env) (msg : MeshMessage) :
    Ends d (getElem msg.data 1 byte1_lt ≤ 2 ∧ (StoresPreset d.eeprom (getElem msg.data 1 byte1_lt) ∨
      d.mesh.isMaster = true ∧ ReachesPeer d.mesh env)) (d.serialTxPowerSet env msg) := by
  unfold Device.serialTxPowerSet
  split
  · next hlarge => exact .nothing fun hacts => UInt8.not_lt.mpr hacts.1 hlarge
  · next hsmall =>
    have hvalid : msg.data[1] ≤ 2 := UInt8.not_lt.mp hsmall
    have hbytes := @sameBytes_saveTxPowerPreset d.eeprom msg.data[1]
    simp only
    split
    · next hmaster =>
      have hrole : d.mesh.isMaster = true := hmaster
      obtain ⟨n, frames, hok, hsends⟩ := broadcastAdapterData_numbered
        { d with eeprom := d.eeprom.saveTxPowerPreset msg.data[1] } env
        AdapterTypes.serialAdapter ((zeroPayload.set 0 Opcode.txPowerSet).set 1 msg.data[1])
      rw [hok]
      have hreaches : frames ≠ [] ↔ ReachesPeer d.mesh env := hsends
      apply Ends.returned rfl
      show _ ↔ _ ∨ ¬SameBytes d.eeprom (d.eeprom.saveTxPowerPreset msg.data[1])
      rw [hreaches, hbytes, not_not]
      simp only [hvalid, hrole, true_and]
      exact or_comm
    · next hnode =>
      have hrole : ¬d.mesh.isMaster = true := hnode
      apply ends_of_saved
      rw [hbytes, not_not]
      simp [hvalid, hrole]

/-- SOURCE: Serial_Adapter.cpp:501-516 -/
theorem applyNodeIdSet_ends (d : Device) (msg : MeshMessage) :
    Ends d (d.targets (Device.dataAddress msg) = true ∧
      StoresNodeId d.eeprom (getElem msg.data 7 byte7_lt))
      (.ok (d.applyNodeIdSet msg)) := by
  unfold Device.applyNodeIdSet
  split
  · next htarget =>
    apply ends_of_saved
    rw [sameBytes_saveNodeId, not_not]
    simp [htarget]
  · next htarget => exact .nothing fun hacts => htarget hacts.1

/-- **What the dispatcher does with a frame.**
SOURCE: Serial_Adapter.cpp:428-521 -/
theorem serialControl_ends (d : Device) (env : Env) (msg : MeshMessage) :
    Ends d (Controls d env msg) (d.serialControl env msg) := by
  by_cases htype : msg.dataType = AdapterTypes.serialAdapter
  · unfold Device.serialControl Controls
    rw [if_neg (not_not.mpr htype)]
    refine Ends.congr ?_ (and_iff_right htype).symm
    split
    · obtain ⟨n, frames, hok, hsends⟩ :=
        transmit_numbered d env AdapterTypes.serialAdapter (d.healthReport env)
      rw [Device.sendHealthReport, hok]
      exact ends_of_numbered hsends
    · split
      · split
        · next htarget => exact .restart htarget
        · next htarget => exact .nothing htarget
      · split
        · exact serialTxPowerSet_ends d env msg
        · split
          · exact applyNodeIdSet_ends d msg
          · exact .nothing id
  · rw [Device.serialControl, if_pos htype]
    exact .nothing fun hacts => htype hacts.1

/-- SOURCE: Serial_Adapter.cpp:382-426 -/
theorem forwardFrame_numbered (d : Device) (env : Env) (adapter : Adapter) (msg : MeshMessage) :
    ∃ n frames, d.forwardFrame env adapter msg = .ok (numbered d n frames) ∧
      (frames ≠ [] ↔ Forwarded d env adapter msg) := by
  have hidle : ¬Forwarded d env adapter msg →
      ∃ n frames, Except.ok d = (.ok (numbered d n frames) : Outcome) ∧
        (frames ≠ [] ↔ Forwarded d env adapter msg) := by
    intro hnot
    refine ⟨d.mesh.txSeqNum, [], ?_, iff_of_false (fun hne => hne rfl) hnot⟩
    rw [numbered, List.append_nil]
  have hkinds : MeshMessageType.adapterData ≠ MeshMessageType.serialCmdBroadcast := by decide
  unfold Device.forwardFrame
  split
  · next hdata =>
    have hother : ¬msg.messageType = MeshMessageType.serialCmdBroadcast := by
      rw [hdata]
      exact hkinds
    split
    · next hset =>
      obtain ⟨n, frames, hok, hsends⟩ := transmit_numbered d env msg.dataType msg.data
      refine ⟨n, frames, hok, ?_⟩
      rw [hsends, Forwarded]
      simp [hdata, hset, hkinds]
    · next hunset =>
      apply hidle
      rintro (⟨-, hset, -⟩ | ⟨hbroadcast, -⟩)
      · exact hunset hset
      · exact hother hbroadcast
  · next hdata =>
    split
    · next hbroadcast =>
      obtain ⟨n, frames, hok, hsends⟩ := broadcastAdapterData_numbered d env msg.dataType msg.data
      refine ⟨n, frames, hok, ?_⟩
      rw [hsends, Forwarded]
      simp [hbroadcast, hkinds.symm]
    · next hother =>
      apply hidle
      rintro (⟨hyes, -⟩ | ⟨hbroadcast, -⟩)
      · exact hdata hyes
      · exact hother hbroadcast

/-- A frame that is no approval is forwarded, and then looked at for control opcodes. -/
theorem forward_control_ends (d : Device) (env : Env) (adapter : Adapter) (msg : MeshMessage) :
    Ends d (Forwarded d env adapter msg ∨ Controls d env msg)
      ((d.forwardFrame env adapter msg).bind fun d => d.serialControl env msg) := by
  obtain ⟨n, frames, hok, hforwarded⟩ := forwardFrame_numbered d env adapter msg
  rw [hok]
  have hcontrol : Ends (numbered d n frames) (Controls d env msg)
      ((numbered d n frames).serialControl env msg) := serialControl_ends _ env msg
  exact hcontrol.numbered.congr (or_congr_left hforwarded)

end Calls

/-! ## The handler -/

section Handler

variable {tls : Mbedtls} {d : Device} {env : Env} {adapter : Adapter} {bytes : List UInt8}
  {pb : PbMeshMessage} {mac : MacAddress} {key : Key}

/-- The decoded message is the device's own form of it.
SOURCE: Serial_Adapter.cpp:256-302 -/
theorem decode_eq (h : Pb.decode bytes = some pb) (ownMac : MacAddress) :
    SerialAdapter.decodeMeshMessage ownMac bytes = some (SerialAdapter.ofPb ownMac pb) := by
  rw [SerialAdapter.decodeMeshMessage, h]
  rfl

/-- **`enrollPeer` is called with the arguments of an approval, and on no other path.**
SOURCE: Serial_Adapter.cpp:325-524 -/
theorem handleCompleteFrame_eq (h : Pb.decode bytes = some pb) :
    d.handleCompleteFrame tls env adapter bytes =
      match enrollArguments (SerialAdapter.ofPb d.wifiMac pb) with
      | some (mac, key) => d.commitMesh Device.noCallback (d.mesh.enrollPeer tls env mac key)
      | none =>
          if (SerialAdapter.ofPb d.wifiMac pb).messageType = MeshMessageType.joinAck then .ok d
          else (d.forwardFrame env adapter (SerialAdapter.ofPb d.wifiMac pb)).bind fun d' =>
            d'.serialControl env (SerialAdapter.ofPb d.wifiMac pb) := by
  rw [Device.handleCompleteFrame, decode_eq h]
  generalize SerialAdapter.ofPb d.wifiMac pb = msg
  simp only [enrollArguments]
  by_cases hjoin : msg.messageType = MeshMessageType.joinAck
  · by_cases hzero : msg.enrollmentPublicKey = zeroKey
    · simp [hjoin, hzero]
    · simp [hjoin, hzero]
  · simp [hjoin]

/-- A payload that does not decode is dropped. -/
theorem handleCompleteFrame_rejected (h : Pb.decode bytes = none) :
    d.handleCompleteFrame tls env adapter bytes = .ok d := by
  rw [Device.handleCompleteFrame, SerialAdapter.decodeMeshMessage, h]
  rfl

/-- A frame enrolls a node when its decoded message does. -/
theorem enrolls_iff (h : Pb.decode bytes = some pb) : Enrolls d bytes mac key ↔
    enrollArguments (SerialAdapter.ofPb d.wifiMac pb) = some (mac, key) := by
  constructor
  · rintro ⟨msg, hdecode, hargs⟩
    rw [decode_eq h] at hdecode
    cases hdecode
    exact hargs
  · intro hargs
    exact ⟨_, decode_eq h _, hargs⟩

/-- A frame whose message names no approval enrolls nobody. -/
theorem not_enrolls (h : Pb.decode bytes = some pb)
    (hargs : enrollArguments (SerialAdapter.ofPb d.wifiMac pb) = none) :
    ¬Enrolls d bytes mac key := by
  rw [enrolls_iff h, hargs]
  intro hsome
  cases hsome

/-- A frame of an unknown type: the handler keeps to the format if the frame is ineffective. -/
theorem unknown_iff (h : Pb.decode bytes = some pb) (hunknown : UnknownType pb) :
    (NothingDone d (d.handleCompleteFrame tls env adapter bytes) ∧
      ∀ mac key, Enrolls d bytes mac key → Approves bytes mac key) ↔
        Ineffective d env adapter (SerialAdapter.ofPb d.wifiMac pb) := by
  have hnever : ∀ mac key, ¬Approves bytes mac key := by
    rintro mac key ⟨⟨pb', hdecode, hfour⟩, -⟩
    rw [h] at hdecode
    cases hdecode
    exact hunknown.2.2 hfour
  have hdropped : NothingDone d (.ok d) := ⟨d, rfl, rfl, .refl _⟩
  rw [handleCompleteFrame_eq h, Ineffective]
  by_cases hjoin : (SerialAdapter.ofPb d.wifiMac pb).messageType = MeshMessageType.joinAck
  · simp only [if_pos hjoin]
    by_cases hzero : (SerialAdapter.ofPb d.wifiMac pb).enrollmentPublicKey = zeroKey
    · have hargs : enrollArguments (SerialAdapter.ofPb d.wifiMac pb) = none :=
        if_neg fun hboth => hboth.2 hzero
      rw [hargs]
      exact iff_of_true ⟨hdropped, fun _ _ henrolls => (not_enrolls h hargs henrolls).elim⟩ hzero
    · refine iff_of_false ?_ hzero
      rintro ⟨-, happroves⟩
      exact hnever _ _ (happroves _ _ ((enrolls_iff h).mpr (if_pos ⟨hjoin, hzero⟩)))
  · have hargs : enrollArguments (SerialAdapter.ofPb d.wifiMac pb) = none :=
      if_neg fun hboth => hjoin hboth.1
    simp only [hargs, if_neg hjoin]
    rw [(forward_control_ends d env adapter _).nothingDone_iff, not_or]
    exact and_iff_left fun _ _ henrolls => (not_enrolls h hargs henrolls).elim

/-- A frame of the approval type: the key and the address it is used with are both in the
frame. -/
theorem approval_iff (h : Pb.decode bytes = some pb) (hfour : pb.messageType = 4) :
    (∀ mac key, Enrolls d bytes mac key → Approves bytes mac key) ↔
      FullApproval bytes (SerialAdapter.ofPb d.wifiMac pb) := by
  have hjoin : (SerialAdapter.ofPb d.wifiMac pb).messageType = MeshMessageType.joinAck := by
    show pb.messageType.toUInt8 = _
    rw [hfour]
    rfl
  by_cases hzero : (SerialAdapter.ofPb d.wifiMac pb).enrollmentPublicKey = zeroKey
  · have hargs : enrollArguments (SerialAdapter.ofPb d.wifiMac pb) = none :=
      if_neg fun hboth => hboth.2 hzero
    exact iff_of_true (fun _ _ henrolls => (not_enrolls h hargs henrolls).elim) (.inl hzero)
  · have hargs : enrollArguments (SerialAdapter.ofPb d.wifiMac pb) =
        some (pb.targetMacAddress, (SerialAdapter.ofPb d.wifiMac pb).enrollmentPublicKey) :=
      if_pos ⟨hjoin, hzero⟩
    have hkey : (SerialAdapter.ofPb d.wifiMac pb).enrollmentPublicKey = pb.publicKey.bytes := by
      by_contra hother
      exact hzero (if_neg fun hpresent => hother (if_pos hpresent))
    rw [FullApproval, or_iff_right hzero, ← carriesField_target_iff h,
      ← carriesField_publicKey_iff h, ← hkey]
    constructor
    · intro happroves
      obtain ⟨-, htarget, hpublic, -⟩ := happroves _ _ ((enrolls_iff h).mpr hargs)
      exact ⟨htarget, hpublic⟩
    · rintro ⟨htarget, hpublic⟩ mac key henrolls
      rw [enrolls_iff h, hargs] at henrolls
      cases henrolls
      exact ⟨⟨pb, h, hfour⟩, htarget, hpublic, hzero⟩

/-- Adapter data and broadcasts enrol nobody. -/
theorem not_enrolls_of_known (h : Pb.decode bytes = some pb) (hknown : ¬UnknownType pb)
    (hfour : pb.messageType ≠ 4) : ¬Enrolls d bytes mac key := by
  apply not_enrolls h
  apply if_neg
  rintro ⟨hjoin, -⟩
  have hnarrow : pb.messageType.toUInt8 = MeshMessageType.joinAck := hjoin
  have htypes : pb.messageType = 0 ∨ pb.messageType = 3 := by
    by_contra hneither
    exact hknown ⟨fun hdata => hneither (.inl hdata),
      fun hbroadcast => hneither (.inr hbroadcast), hfour⟩
  rcases htypes with htype | htype
  · rw [htype] at hnarrow
    exact absurd hnarrow (by decide)
  · rw [htype] at hnarrow
    exact absurd hnarrow (by decide)

/-- A frame decodes to one message. -/
theorem forall_decode_iff (h : Pb.decode bytes = some pb) {P : PbMeshMessage → Prop} :
    (∀ pb', Pb.decode bytes = some pb' → P pb') ↔ P pb := by
  simp only [h, Option.some.injEq, forall_eq']

/-- **The handler acts on well-formed frames only, exactly for these payloads.**
SOURCE: Serial_Adapter.cpp:256-302, 325-524, mesh.pb.h:62-74 -/
theorem acts_only_on_frames_iff (tls : Mbedtls) (d : Device) (env : Env) (adapter : Adapter)
    (bytes : List UInt8) :
    ActsOnlyOnFrames tls d env adapter bytes ↔ Proper d env adapter bytes := by
  cases hdecode : Pb.decode bytes with
  | none =>
      refine iff_of_true ⟨fun _ => ?_, ?_⟩ fun pb hpb => ?_
      · rw [handleCompleteFrame_rejected hdecode]
        exact ⟨d, rfl, rfl, .refl _⟩
      · rintro mac key ⟨msg, hmsg, -⟩
        rw [SerialAdapter.decodeMeshMessage, hdecode] at hmsg
        cases hmsg
      · rw [hdecode] at hpb
        cases hpb
  | some pb =>
      have hparts : ActsOnlyOnFrames tls d env adapter bytes ↔
          (UnknownType pb → NothingDone d (d.handleCompleteFrame tls env adapter bytes)) ∧
            ∀ mac key, Enrolls d bytes mac key → Approves bytes mac key := by
        rw [← @forall_decode_iff bytes pb hdecode UnknownType]
        exact ⟨fun hacts => ⟨hacts.ignores, hacts.enrolls⟩, fun hacts => ⟨hacts.1, hacts.2⟩⟩
      rw [hparts, Proper, forall_decode_iff hdecode]
      by_cases hunknown : UnknownType pb
      · have hother : pb.messageType ≠ 4 := hunknown.2.2
        rw [← @unknown_iff tls d env adapter bytes pb hdecode hunknown]
        simp [hunknown, hother]
      · by_cases hfour : pb.messageType = 4
        · rw [← approval_iff hdecode hfour]
          simp [hunknown, hfour]
        · refine iff_of_true ⟨fun hyes => (hunknown hyes).elim, fun mac key henrolls => ?_⟩
            ⟨fun hyes => (hunknown hyes).elim, fun hyes => (hfour hyes).elim⟩
          exact (not_enrolls_of_known hdecode hunknown hfour henrolls).elim

end Handler

/-! ## An unknown type -/

/-- An `OP_CONFIG_SET` for every node, in a frame of type 5. -/
def strayFrame : List UInt8 :=
  [0x08, 0x05, 0x10, 0x02, 0x22, 0x06, 0xFF, 0xFF, 0xFF, 0xFF, 0xFF, 0xFF, 0x32, 0x01, 0xC1]

/-- A frame of an unknown type with an opcode for everybody. -/
theorem decode_strayFrame : ∃ pb, Pb.decode strayFrame = some pb ∧ pb.messageType = 5 ∧
    pb.dataType = AdapterTypes.serialAdapter ∧ pb.targetMacAddress = broadcastMac ∧
      getElem (SerialAdapter.copyData pb) 0 byte0_lt = Opcode.configSet :=
  ⟨_, rfl, rfl, rfl, by decide, by decide⟩

/-- Every device restarts on it. -/
theorem not_acts_only_on_frames :
    1 ≤ strayFrame.length ∧ strayFrame.length ≤ 256 ∧
      ∀ tls d env adapter, ¬ActsOnlyOnFrames tls d env adapter strayFrame := by
  refine ⟨by decide, by decide, fun tls d env adapter hacts => ?_⟩
  obtain ⟨pb, hdecode, htype, hserial, htarget, hop⟩ := decode_strayFrame
  have hunknown : UnknownType pb := by
    rw [UnknownType, htype]
    decide
  have hidle : NothingDone d (d.handleCompleteFrame tls env adapter strayFrame) := by
    apply hacts.ignores
    intro pb' hpb'
    rw [hdecode] at hpb'
    cases hpb'
    exact hunknown
  have hineffective := (unknown_iff hdecode hunknown).mp ⟨hidle, hacts.enrolls⟩
  have hjoin : ¬(SerialAdapter.ofPb d.wifiMac pb).messageType = MeshMessageType.joinAck := by
    show ¬pb.messageType.toUInt8 = _
    rw [htype]
    decide
  rw [Ineffective, if_neg hjoin] at hineffective
  apply hineffective.2
  refine ⟨hserial, ?_⟩
  have hconfig : (SerialAdapter.ofPb d.wifiMac pb).data[0] = Opcode.configSet := hop
  rw [if_neg (by rw [hconfig]; decide), if_pos hconfig]
  show (pb.targetMacAddress == broadcastMac || _) = true
  rw [htarget]
  rfl

end ServerFrames

end LatticeNodes.Analysis
