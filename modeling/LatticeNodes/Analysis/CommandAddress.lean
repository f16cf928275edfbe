import LatticeNodes.Analysis.LoopPasses
import LatticeNodes.Analysis.MeshNetwork
import LatticeNodes.Analysis.PeerMirror
import LatticeNodes.Analysis.Reconfiguration
import LatticeNodes.Analysis.RestartSafety
import LatticeNodes.Analysis.SerialRoundTrip

/-!
# Whom a command addresses

`CONFIG_SET` and `NODE_ID_SET` reach a node over the radio or on the serial line, and each way has
a handler of its own.  The format puts the address of the node in bytes 1 to 6 of the data.  The
radio's handler looks there for both commands; the serial handler does for `NODE_ID_SET` only, and
takes the target in the header for `CONFIG_SET`.  `agrees_iff` says for which messages the two
handlers do the same.
-/

set_option autoImplicit false

namespace LatticeNodes.Analysis

open LatticeNodes.Program EepromFields

namespace CommandAddress

/-! ## Statement -/

/-- The broadcast address, or the node's own. -/
def Addresses (ownMac address : MacAddress) : Prop :=
  address = broadcastMac ∨ address = ownMac

instance (ownMac address : MacAddress) : Decidable (Addresses ownMac address) :=
  inferInstanceAs (Decidable (_ ∨ _))

/-- The cell of the EEPROM that a command sets.
SOURCE: EEPROM_Manager.h:37, 53 -/
def cell (msg : MeshMessage) : ℕ :=
  if getElem msg.data 0 byte0_lt = Opcode.configSet then EepromAddresses.adapterType
  else EepromAddresses.nodeId

/-- A `CONFIG_SET` saves the type and restarts the node, a `NODE_ID_SET` saves the ID.
SOURCE: Adapter.cpp:60-66, 83-87, Serial_Adapter.cpp:453-468, 513-516 -/
def CarriedOut (d : Device) (msg : MeshMessage) (outcome : Outcome) : Prop :=
  if getElem msg.data 0 byte0_lt = Opcode.configSet then
    ∃ r, outcome = .error r ∧ r.device.eeprom = commanded d msg
  else ∃ d', outcome = .ok d' ∧ d'.eeprom = d.eeprom.saveNodeId (getElem msg.data 7 byte7_lt)

/-- The call returns with the cell of the command as it was. -/
def Ignored (d : Device) (msg : MeshMessage) (outcome : Outcome) : Prop :=
  ∃ d', outcome = .ok d' ∧ d'.eeprom.read (cell msg) = d.eeprom.read (cell msg)

/-- The handler applies the command to the node with this address, whatever its state. -/
def Applies (ownMac : MacAddress) (msg : MeshMessage) (run : Device → Outcome) : Prop :=
  ∀ d, d.wifiMac = ownMac → CarriedOut d msg (run d)

def Ignores (ownMac : MacAddress) (msg : MeshMessage) (run : Device → Outcome) : Prop :=
  ∀ d, d.wifiMac = ownMac → Ignored d msg (run d)

/-- A production node holds data byte 7 in the cell of the command afterwards. -/
def Stores (ownMac : MacAddress) (msg : MeshMessage) (run : Device → Outcome) : Prop :=
  ∀ d, d.wifiMac = ownMac → d.factoryDevMode = false → Production d.eeprom →
    (deviceAfter (run d)).eeprom.read (cell msg) = getElem msg.data 7 byte7_lt

/-- The two handlers address the same nodes, those of the format, and store the same byte.
SOURCE: server_requirements.md:74-83 -/
structure Agree (ownMac : MacAddress) (msg : MeshMessage) (serial mesh : Device → Outcome) :
    Prop where
  same : Applies ownMac msg serial ↔ Applies ownMac msg mesh
  addressed : Applies ownMac msg mesh ↔ Addresses ownMac (Device.dataAddress msg)
  ignored : ¬Addresses ownMac (Device.dataAddress msg) →
    Ignores ownMac msg serial ∧ Ignores ownMac msg mesh
  stored : Addresses ownMac (Device.dataAddress msg) →
    Stores ownMac msg serial ∧ Stores ownMac msg mesh

/-! ## The condition -/

/-- An approval is for another node; the target in the header of a `CONFIG_SET` addresses the node
exactly when the data do, and the type is not the marker of an unset byte. -/
def Uniform (ownMac : MacAddress) (msg : MeshMessage) : Prop :=
  (msg.messageType = MeshMessageType.joinAck → ¬Addresses ownMac (Device.dataAddress msg)) ∧
  (msg.messageType ≠ MeshMessageType.joinAck → getElem msg.data 0 byte0_lt = Opcode.configSet →
    (Addresses ownMac msg.targetMacAddress ↔ Addresses ownMac (Device.dataAddress msg)) ∧
      (Addresses ownMac (Device.dataAddress msg) → getElem msg.data 7 byte7_lt ≠ 0xFF))

instance (ownMac : MacAddress) (msg : MeshMessage) : Decidable (Uniform ownMac msg) :=
  inferInstanceAs (Decidable ((_ → _) ∧ (_ → _ → _)))

/-! ## Applying and ignoring -/

section Runs

variable {ownMac : MacAddress} {msg : MeshMessage} {run : Device → Outcome}

/-- A call that carries out the command of a message when this address is the node's, and ignores
it otherwise. -/
structure Decides (address : MacAddress) (d : Device) (msg : MeshMessage) (outcome : Outcome) :
    Prop where
  applied : Addresses d.wifiMac address → CarriedOut d msg outcome
  ignored : ¬Addresses d.wifiMac address → Ignored d msg outcome

/-- A device is targeted by its own address and by the broadcast address.
SOURCE: Adapter.cpp:52-59, 75-82 -/
theorem targets_iff {d : Device} {address : MacAddress} :
    d.targets address = true ↔ Addresses d.wifiMac address := by
  rw [Device.targets, Bool.or_eq_true, beq_iff_eq, beq_iff_eq, Addresses]

/-- The byte a command leaves in its cell. -/
def storedByte (msg : MeshMessage) : UInt8 :=
  if getElem msg.data 0 byte0_lt = Opcode.configSet then Device.commandedByte msg
  else getElem msg.data 7 byte7_lt

/-- On a production device the commanded type is what is read back.
SOURCE: Adapter.cpp:61-62 -/
theorem read_commanded {d : Device} (hmode : d.factoryDevMode = false)
    (h : Production d.eeprom) :
    (commanded d msg).read EepromAddresses.adapterType = Device.commandedByte msg := by
  have hrun : commanded d msg = (SaveCall.adapterType (Device.commandedByte msg)).run d.eeprom := by
    rw [commanded, AdapterFactory.saveAdapterTypeToEEPROM, hmode]
    rfl
  have honField : OnField (.adapterType (Device.commandedByte msg)) := trivial
  rw [hrun, run_read h honField, writesOf, FieldStore.overwrite_singleton, Function.update_self]

/-- A node ID that was saved on a production device is what is read back.
SOURCE: EEPROM_Manager.cpp:555-561 -/
theorem read_saveNodeId {em : EepromManager} (h : Production em) (id : UInt8) :
    (em.saveNodeId id).read EepromAddresses.nodeId = id := by
  have honField : OnField (.nodeId id) := trivial
  show ((SaveCall.nodeId id).run em).read _ = id
  rw [run_read h honField, writesOf, FieldStore.overwrite_singleton, Function.update_self]

/-- After a command was carried out its cell reads as the stored byte. -/
theorem CarriedOut.read {d : Device} {outcome : Outcome} (h : CarriedOut d msg outcome)
    (hmode : d.factoryDevMode = false) (hproduction : Production d.eeprom) :
    (deviceAfter outcome).eeprom.read (cell msg) = storedByte msg := by
  unfold CarriedOut at h
  by_cases hop : msg.data[0] = Opcode.configSet
  · rw [if_pos hop] at h
    obtain ⟨r, rfl, heeprom⟩ := h
    rw [cell, storedByte, if_pos hop, if_pos hop, deviceAfter, heeprom,
      read_commanded hmode hproduction]
  · rw [if_neg hop] at h
    obtain ⟨d', rfl, heeprom⟩ := h
    rw [cell, storedByte, if_neg hop, if_neg hop, deviceAfter, heeprom,
      read_saveNodeId hproduction]

/-- A production node with this address, the cells of its flash all the same. -/
def nodeOver (ownMac : MacAddress) (byte : UInt8) : Device :=
  { (bootedNode false fun _ => byte).device with
    wifiMac := ownMac }

/-- The device over one byte is a production node. -/
theorem nodeOver_production (byte : UInt8) : Production (nodeOver ownMac byte).eeprom :=
  ⟨rfl, rfl⟩

/-- The commanded cell of the device over one byte reads as that byte. -/
theorem nodeOver_read (byte : UInt8) : (nodeOver ownMac byte).eeprom.read (cell msg) = byte := by
  unfold cell
  split
  · rfl
  · rfl

/-- A path that decides by the address ignores what is meant for another. -/
theorem ignores_of_decides {address : MacAddress}
    (h : ∀ d, d.wifiMac = ownMac → Decides address d msg (run d))
    (hother : ¬Addresses ownMac address) : Ignores ownMac msg run := by
  intro d hmac
  rw [← hmac] at hother
  exact (h d hmac).ignored hother

/-- No handler both ignores a command and applies it. -/
theorem Ignores.not_applies (h : Ignores ownMac msg run) : ¬Applies ownMac msg run := by
  intro happlies
  have hother : storedByte msg + 1 ≠ storedByte msg := by
    grind
  obtain ⟨d', hok, hkept⟩ := h (nodeOver ownMac (storedByte msg + 1)) rfl
  have hread := (happlies (nodeOver ownMac (storedByte msg + 1)) rfl).read rfl
    (nodeOver_production _)
  rw [hok, deviceAfter, hkept, nodeOver_read] at hread
  exact hother hread

/-- Where a handler decides by an address, it applies exactly the commands for the node. -/
theorem applies_iff {address : MacAddress}
    (h : ∀ d, d.wifiMac = ownMac → Decides address d msg (run d)) :
    Applies ownMac msg run ↔ Addresses ownMac address := by
  constructor
  · intro happlies
    by_contra hother
    have hignores := ignores_of_decides h hother
    exact hignores.not_applies happlies
  · intro haddress d hmac
    rw [← hmac] at haddress
    exact (h d hmac).applied haddress

/-- A path that carries a command out stores the byte where the two are the same. -/
theorem Applies.stores_iff (h : Applies ownMac msg run) :
    Stores ownMac msg run ↔ storedByte msg = getElem msg.data 7 byte7_lt := by
  constructor
  · intro hstores
    have hproduction := @nodeOver_production ownMac 0
    rw [← hstores (nodeOver ownMac 0) rfl rfl hproduction,
      (h (nodeOver ownMac 0) rfl).read rfl hproduction]
  · intro hbyte d hmac hmode hproduction
    rw [(h d hmac).read hmode hproduction, hbyte]

/-- The type survives its enumeration, except for the marker of an unset byte.
SOURCE: AdapterFactory.cpp:41-50 -/
theorem storedByte_eq_iff : storedByte msg = getElem msg.data 7 byte7_lt ↔
    (getElem msg.data 0 byte0_lt = Opcode.configSet → getElem msg.data 7 byte7_lt ≠ 0xFF) := by
  unfold storedByte Device.commandedByte
  generalize msg.data[7] = raw
  by_cases hop : msg.data[0] = Opcode.configSet
  · rw [if_pos hop]
    by_cases hunset : raw = 0xFF
    · subst hunset
      refine iff_of_false ?_ fun h => h hop rfl
      decide
    · rw [AdapterFactory.adapterTypeFromEEPROM, if_neg hunset,
        RestartSafety.adapterTypeToEEPROM_ofNat]
      exact iff_of_true rfl fun _ => hunset
  · rw [if_neg hop]
    exact iff_of_true rfl fun h => absurd h hop

end Runs

/-! ## The two commands -/

section Commands

variable {d : Device} {msg : MeshMessage} {address : MacAddress}

/-- SOURCE: Adapter.cpp:46-66, Serial_Adapter.cpp:438-468 -/
theorem configSet_decides (hop : getElem msg.data 0 byte0_lt = Opcode.configSet)
    (site : RestartSite) :
    Decides address d msg (if d.targets address then d.applyConfigSet site msg else .ok d) := by
  by_cases haddress : d.targets address = true
  · rw [if_pos haddress]
    refine ⟨fun _ => ?_, fun hother => absurd (targets_iff.mp haddress) hother⟩
    rw [CarriedOut, if_pos hop]
    exact ⟨_, rfl, rfl⟩
  · rw [if_neg haddress]
    exact ⟨fun h => absurd (targets_iff.mpr h) haddress, fun _ => ⟨d, rfl, rfl⟩⟩

/-- SOURCE: Adapter.cpp:72-88, Serial_Adapter.cpp:501-516 -/
theorem nodeIdSet_decides (hop : getElem msg.data 0 byte0_lt = Opcode.nodeIdSet) :
    Decides (Device.dataAddress msg) d msg (.ok (d.applyNodeIdSet msg)) := by
  have hother : Opcode.nodeIdSet ≠ Opcode.configSet := by decide
  unfold Device.applyNodeIdSet
  by_cases haddress : d.targets (Device.dataAddress msg) = true
  · rw [if_pos haddress]
    refine ⟨fun _ => ?_, fun hnot => absurd (targets_iff.mp haddress) hnot⟩
    rw [CarriedOut, hop, if_neg hother]
    exact ⟨_, rfl, rfl⟩
  · rw [if_neg haddress]
    exact ⟨fun h => absurd (targets_iff.mpr h) haddress, fun _ => ⟨d, rfl, rfl⟩⟩

/-- What follows the command leaves the EEPROM alone. -/
theorem Decides.bind {outcome : Outcome} {f : Device → Outcome}
    (h : Decides address d msg outcome) (hf : ∀ d₁, ∃ d', f d₁ = .ok d' ∧ d'.eeprom = d₁.eeprom) :
    Decides address d msg (outcome.bind f) := by
  refine ⟨fun haddress => ?_, fun hother => ?_⟩
  · have hcarried := h.applied haddress
    unfold CarriedOut at hcarried ⊢
    by_cases hop : msg.data[0] = Opcode.configSet
    · rw [if_pos hop] at hcarried ⊢
      obtain ⟨r, rfl, heeprom⟩ := hcarried
      exact ⟨r, rfl, heeprom⟩
    · rw [if_neg hop] at hcarried ⊢
      obtain ⟨d₁, rfl, heeprom⟩ := hcarried
      obtain ⟨d', hok, hsame⟩ := hf d₁
      exact ⟨d', hok, hsame.trans heeprom⟩
  · obtain ⟨d₁, rfl, hkept⟩ := h.ignored hother
    obtain ⟨d', hok, hsame⟩ := hf d₁
    refine ⟨d', hok, ?_⟩
    rw [hsame, hkept]

end Commands

/-! ## Over the radio -/

section Mesh

variable {msg : MeshMessage}

/-- **The radio's handler looks at the data.**
SOURCE: Adapter.cpp:41-93 -/
theorem onMeshData_decides (htype : msg.dataType = AdapterTypes.serialAdapter)
    (hop : getElem msg.data 0 byte0_lt = Opcode.configSet ∨
      getElem msg.data 0 byte0_lt = Opcode.nodeIdSet)
    (d : Device) (env : DeviceEnv) (adapter : Adapter) :
    Decides (Device.dataAddress msg) d msg (d.onMeshData env adapter msg) := by
  have hpower : msg.data[0] ≠ Opcode.txPowerSet := by
    rcases hop with heq | heq
    · rw [heq]
      decide
    · rw [heq]
      decide
  have hbase : Decides (Device.dataAddress msg) d msg (d.baseOpcode msg) := by
    unfold Device.baseOpcode
    rcases hop with hconfig | hid
    · rw [if_pos hconfig]
      exact configSet_decides hconfig _
    · have hother : Opcode.nodeIdSet ≠ Opcode.configSet := by decide
      rw [hid, if_neg hother, if_pos rfl]
      exact nodeIdSet_decides hid
  rw [Device.onMeshData, if_pos htype]
  -- What follows stores a preset at most.
  apply hbase.bind
  intro d₁
  obtain ⟨d', hok, heeprom⟩ :=
    Reconfiguration.afterBaseOpcode_eeprom d₁ env.callback adapter htype
  rw [if_neg fun h => hpower h.2.1] at heeprom
  exact ⟨d', hok, heeprom⟩

end Mesh

/-! ## On the serial line -/

section Serial

variable {d : Device} {tls : Mbedtls} {env : Env} {adapter : Adapter} {bytes : List UInt8}
  {msg : MeshMessage}

/-- The address the serial handler looks at.
SOURCE: Serial_Adapter.cpp:441-450, 504-512 -/
def heeded (msg : MeshMessage) : MacAddress :=
  if getElem msg.data 0 byte0_lt = Opcode.configSet then msg.targetMacAddress
  else Device.dataAddress msg

/-- SOURCE: Serial_Adapter.cpp:428-521 -/
theorem serialControl_decides (htype : msg.dataType = AdapterTypes.serialAdapter)
    (hop : getElem msg.data 0 byte0_lt = Opcode.configSet ∨
      getElem msg.data 0 byte0_lt = Opcode.nodeIdSet)
    (d : Device) (env : Env) : Decides (heeded msg) d msg (d.serialControl env msg) := by
  rw [Device.serialControl, if_neg (not_not.mpr htype), heeded]
  rcases hop with hconfig | hid
  · have hhealth : Opcode.configSet ≠ Opcode.healthReq := by decide
    rw [hconfig, if_neg hhealth, if_pos rfl, if_pos rfl]
    exact configSet_decides hconfig _
  · have hhealth : Opcode.nodeIdSet ≠ Opcode.healthReq := by decide
    have hconfig : Opcode.nodeIdSet ≠ Opcode.configSet := by decide
    have hpower : Opcode.nodeIdSet ≠ Opcode.txPowerSet := by decide
    rw [hid, if_neg hhealth, if_neg hconfig, if_neg hpower, if_pos rfl, if_neg hconfig]
    exact nodeIdSet_decides hid

/-- **The serial handler looks at the header for a `CONFIG_SET`.**  What it forwards first changes
neither the EEPROM nor the address.
SOURCE: Serial_Adapter.cpp:382-521 -/
theorem handleCompleteFrame_decides
    (hdecode : SerialAdapter.decodeMeshMessage d.wifiMac bytes = some msg)
    (hjoin : msg.messageType ≠ MeshMessageType.joinAck)
    (htype : msg.dataType = AdapterTypes.serialAdapter)
    (hop : getElem msg.data 0 byte0_lt = Opcode.configSet ∨
      getElem msg.data 0 byte0_lt = Opcode.nodeIdSet) :
    Decides (heeded msg) d msg (d.handleCompleteFrame tls env adapter bytes) := by
  obtain ⟨mesh, sent, hforward⟩ := forwardFrame_eq d env adapter msg
  have hdecides := serialControl_decides htype hop
    { d with
      mesh := mesh
      sent := sent } env
  have hrun : d.handleCompleteFrame tls env adapter bytes =
      Device.serialControl { d with
        mesh := mesh
        sent := sent } env msg := by
    rw [Device.handleCompleteFrame, hdecode]
    simp only [if_neg hjoin, hforward]
    rfl
  rw [hrun]
  exact ⟨hdecides.applied, hdecides.ignored⟩

/-- The node in the header restarts with the type, whatever the data say. -/
theorem handleCompleteFrame_applies {ownMac : MacAddress}
    (hdecode : SerialAdapter.decodeMeshMessage ownMac bytes = some msg)
    (hjoin : msg.messageType ≠ MeshMessageType.joinAck)
    (htype : msg.dataType = AdapterTypes.serialAdapter)
    (hop : getElem msg.data 0 byte0_lt = Opcode.configSet)
    (h : Addresses ownMac msg.targetMacAddress) :
    Applies ownMac msg fun d => d.handleCompleteFrame tls env adapter bytes := by
  rintro d rfl
  have hheeded : heeded msg = msg.targetMacAddress := if_pos hop
  rw [← hheeded] at h
  exact (handleCompleteFrame_decides hdecode hjoin htype (.inl hop)).applied h

/-- The peer list is no command's cell. -/
theorem savePeerList_read (em : EepromManager) (peerRecords : ℕ → UInt8) (numPeers : ℕ) :
    (em.savePeerList peerRecords numPeers).read (cell msg) = em.read (cell msg) := by
  obtain ⟨k, hother, howns⟩ : ∃ k, EepromField.peerList ≠ k ∧ (field k).Owns (cell msg) := by
    unfold cell
    split
    · exact ⟨.adapterType, by decide, Nat.le_refl _, by decide⟩
    · exact ⟨.nodeId, by decide, Nat.le_refl _, by decide⟩
  show ((SaveCall.peerList peerRecords numPeers).run em).read _ = _
  by_cases haccepts : Accepts em (.peerList peerRecords numPeers)
  · have honField : OnField (.peerList peerRecords numPeers) := trivial
    rw [run_read_of_accepts haccepts honField, FieldStore.overwrite_of_notMem]
    intro w hw haddress
    obtain ⟨r, hresult, hinside⟩ := writesOf_inside hw
    have hfield : r.1 = EepromField.peerList := by
      have hfits : ¬Config.maxPeers < numPeers := Nat.not_lt.mpr haccepts.1
      rw [resultOf, if_neg hfits, Option.some.injEq] at hresult
      rw [← hresult]
    rw [hfield, haddress] at hinside
    exact field_disjoint hother _ hinside howns
  · rw [run_of_not_accepts haccepts]

/-- **Behind an approval the serial handler looks for no command.**
SOURCE: Serial_Adapter.cpp:360-380 -/
theorem handleCompleteFrame_joinAck
    (hdecode : SerialAdapter.decodeMeshMessage d.wifiMac bytes = some msg)
    (hjoin : msg.messageType = MeshMessageType.joinAck) :
    Ignored d msg (d.handleCompleteFrame tls env adapter bytes) := by
  rw [Device.handleCompleteFrame, hdecode]
  simp only [if_pos hjoin]
  split
  · exact ⟨d, rfl, rfl⟩
  · have hsaved : ∀ {t : PeerTable} {d' : Device}, PeerMirror.Saved d t d' →
        d'.eeprom.read (cell msg) = d.eeprom.read (cell msg) := by
      intro t d' h
      rw [h.eeprom, savePeerList_read]
    rcases PeerMirror.enrollPeer_cases d tls env msg.targetMacAddress msg.enrollmentPublicKey with
      ⟨-, d', hok, h⟩ | ⟨-, -, hok⟩ | ⟨-, -, d', hok, h⟩
    · exact ⟨d', hok, hsaved h⟩
    · exact ⟨d, hok, rfl⟩
    · exact ⟨d', hok, hsaved h⟩

end Serial

/-! ## Two handlers -/

section Agree

variable {ownMac : MacAddress} {msg : MeshMessage} {serial mesh : Device → Outcome}

/-- A handler that ignores the command agrees with the other on the messages for other nodes. -/
theorem agree_iff_of_ignores (hserial : Ignores ownMac msg serial)
    (hmesh : ∀ d, d.wifiMac = ownMac → Decides (Device.dataAddress msg) d msg (mesh d)) :
    Agree ownMac msg serial mesh ↔ ¬Addresses ownMac (Device.dataAddress msg) := by
  have hmeshApplies := applies_iff hmesh
  constructor
  · intro h haddress
    have hboth := h.same.mpr (h.addressed.mpr haddress)
    exact hserial.not_applies hboth
  · intro hother
    have hmeshNot : ¬Applies ownMac msg mesh := by
      rw [hmeshApplies]
      exact hother
    exact ⟨iff_of_false hserial.not_applies hmeshNot, hmeshApplies,
      fun _ => ⟨hserial, ignores_of_decides hmesh hother⟩, fun haddress => absurd haddress hother⟩

/-- Two handlers that look at different addresses agree when these address the node alike and the
stored byte is the one of the message. -/
theorem agree_iff_of_decides {address : MacAddress}
    (hserial : ∀ d, d.wifiMac = ownMac → Decides address d msg (serial d))
    (hmesh : ∀ d, d.wifiMac = ownMac → Decides (Device.dataAddress msg) d msg (mesh d)) :
    Agree ownMac msg serial mesh ↔
      (Addresses ownMac address ↔ Addresses ownMac (Device.dataAddress msg)) ∧
        (Addresses ownMac (Device.dataAddress msg) →
          storedByte msg = getElem msg.data 7 byte7_lt) := by
  have hserialApplies := applies_iff hserial
  have hmeshApplies := applies_iff hmesh
  constructor
  · intro h
    refine ⟨?_, fun haddress => ?_⟩
    · rw [← hserialApplies, ← hmeshApplies]
      exact h.same
    · exact (hmeshApplies.mpr haddress).stores_iff.mp (h.stored haddress).2
  · rintro ⟨hsame, hbyte⟩
    refine ⟨?_, hmeshApplies, fun hother => ⟨?_, ?_⟩, fun haddress => ⟨?_, ?_⟩⟩
    · rw [hserialApplies, hmeshApplies]
      exact hsame
    · exact ignores_of_decides hserial fun hheeded => hother (hsame.mp hheeded)
    · exact ignores_of_decides hmesh hother
    · exact (hserialApplies.mpr (hsame.mpr haddress)).stores_iff.mpr (hbyte haddress)
    · exact (hmeshApplies.mpr haddress).stores_iff.mpr (hbyte haddress)

end Agree

/-! ## Result -/

section Result

variable {ownMac : MacAddress} {bytes : List UInt8} {msg : MeshMessage}

/-- **The two handlers agree exactly on the uniform messages.**  They differ on an approval for the
node, behind which the serial handler looks for no command, and on a `CONFIG_SET` whose header and
data address the node differently; and neither stores the type `0xFF`.
SOURCE: Serial_Adapter.cpp:360-380, 428-521, Adapter.cpp:41-93, server_requirements.md:74-83 -/
theorem agrees_iff (tls : Mbedtls) (env : Env) (adapter : Adapter) (meshEnv : DeviceEnv)
    (meshAdapter : Adapter)
    (hdecode : SerialAdapter.decodeMeshMessage ownMac bytes = some msg)
    (htype : msg.dataType = AdapterTypes.serialAdapter)
    (hop : getElem msg.data 0 byte0_lt = Opcode.configSet ∨
      getElem msg.data 0 byte0_lt = Opcode.nodeIdSet) :
    Agree ownMac msg (fun d => d.handleCompleteFrame tls env adapter bytes)
        (fun d => d.onMeshData meshEnv meshAdapter msg) ↔ Uniform ownMac msg := by
  have hmesh : ∀ d : Device, d.wifiMac = ownMac → Decides (Device.dataAddress msg) d msg
      (d.onMeshData meshEnv meshAdapter msg) :=
    fun d _ => onMeshData_decides htype hop d meshEnv meshAdapter
  by_cases hjoin : msg.messageType = MeshMessageType.joinAck
  · have hserial : Ignores ownMac msg fun d => d.handleCompleteFrame tls env adapter bytes := by
      rintro d rfl
      exact handleCompleteFrame_joinAck hdecode hjoin
    rw [agree_iff_of_ignores hserial hmesh]
    exact ⟨fun h => ⟨fun _ => h, fun hother => absurd hjoin hother⟩, fun h => h.1 hjoin⟩
  · have hserial : ∀ d : Device, d.wifiMac = ownMac → Decides (heeded msg) d msg
        (d.handleCompleteFrame tls env adapter bytes) := by
      rintro d rfl
      exact handleCompleteFrame_decides hdecode hjoin htype hop
    rw [agree_iff_of_decides hserial hmesh, storedByte_eq_iff, heeded]
    by_cases hconfig : msg.data[0] = Opcode.configSet
    · rw [if_pos hconfig]
      constructor
      · intro h
        exact ⟨fun hthis => absurd hthis hjoin,
          fun _ _ => ⟨h.1, fun haddress => h.2 haddress hconfig⟩⟩
      · intro h
        obtain ⟨hsame, hbyte⟩ := h.2 hjoin hconfig
        exact ⟨hsame, fun haddress _ => hbyte haddress⟩
    · rw [if_neg hconfig]
      exact iff_of_true ⟨Iff.rfl, fun _ hthis => absurd hthis hconfig⟩
        ⟨fun hthis => absurd hthis hjoin, fun _ hthis => absurd hthis hconfig⟩

end Result

/-! ## A frame for another node -/

/-- A `CONFIG_SET` of the type PIR with this target in the header, its data for the node
`05:05:05:05:05:05`. -/
def configFrame (target : MacAddress) : MeshMessage :=
  { MeshMessage.zero with
    messageType := MeshMessageType.adapterData
    dataType := AdapterTypes.serialAdapter
    targetMacAddress := target
    data := Vector.ofFn fun i => [Opcode.configSet, 5, 5, 5, 5, 5, 5, 2].getD i 0 }

def configBytes (target : MacAddress) : List UInt8 :=
  Pb.encodeFields (SerialAdapter.toPb (configFrame target))

/-- The frame as a node decodes it. -/
def configMessage (ownMac target : MacAddress) : MeshMessage :=
  SerialAdapter.ofPb ownMac (SerialAdapter.toPb (configFrame target))

section Frame

variable (ownMac target : MacAddress)

/-- The server's bytes decode to the command.
SOURCE: Serial_Adapter.cpp:256-302 -/
theorem decode_configBytes :
    SerialAdapter.decodeMeshMessage ownMac (configBytes target) =
      some (configMessage ownMac target) :=
  decodeMeshMessage_encode ownMac (configFrame target)

/-- The command is for the serial adapter's opcodes. -/
theorem configMessage_dataType :
    (configMessage ownMac target).dataType = AdapterTypes.serialAdapter := rfl

/-- The data of the command do not depend on its header. -/
theorem configMessage_data :
    (configMessage ownMac target).data = (configMessage zeroMac zeroMac).data := rfl

/-- The opcode of the command is `OP_CONFIG_SET`. -/
theorem configMessage_op :
    getElem (configMessage ownMac target).data 0 byte0_lt = Opcode.configSet := by
  rw [configMessage_data]
  decide

/-- The data of the command name an address of their own. -/
theorem dataAddress_configMessage :
    Device.dataAddress (configMessage ownMac target) = Vector.replicate 6 5 := by
  rw [Device.dataAddress, configMessage_data]
  decide

/-- The command is no approval. -/
theorem configMessage_not_joinAck :
    (configMessage ownMac target).messageType ≠ MeshMessageType.joinAck := by
  have htype : (configMessage ownMac target).messageType =
      (configMessage zeroMac zeroMac).messageType := rfl
  rw [htype]
  decide

/-- The header has to address the node as the data do. -/
theorem uniform_configMessage : Uniform ownMac (configMessage ownMac target) ↔
    (Addresses ownMac target ↔ Addresses ownMac (Vector.replicate 6 5)) := by
  have htarget : (configMessage ownMac target).targetMacAddress = target := rfl
  have hset : (configMessage ownMac target).data[7] ≠ 0xFF := by
    rw [configMessage_data]
    decide
  rw [Uniform, dataAddress_configMessage, htarget]
  constructor
  · intro h
    exact (h.2 (configMessage_not_joinAck ownMac target) (configMessage_op ownMac target)).1
  · intro h
    exact ⟨fun hjoin => absurd hjoin (configMessage_not_joinAck ownMac target),
      fun _ _ => ⟨h, fun _ => hset⟩⟩

end Frame

/-- The node the data name carries the command out on both ways. -/
theorem agrees_iff_addressed :
    Agree (Vector.replicate 6 5) (configMessage (Vector.replicate 6 5) (Vector.replicate 6 5))
      (fun d => d.handleCompleteFrame plainTls quietEnv serialAdapter
        (configBytes (Vector.replicate 6 5)))
      (fun d => d.onMeshData quietDeviceEnv serialAdapter
        (configMessage (Vector.replicate 6 5) (Vector.replicate 6 5))) :=
  (agrees_iff plainTls quietEnv serialAdapter quietDeviceEnv serialAdapter
    (decode_configBytes _ _) (configMessage_dataType _ _) (.inl (configMessage_op _ _))).mpr
    ((uniform_configMessage _ _).mpr Iff.rfl)

/-- A gateway with another address applies the broadcast frame to itself; a node that received the
same message would ignore it. -/
theorem not_forall_agree :
    ¬∀ (ownMac : MacAddress) (bytes : List UInt8) (msg : MeshMessage) (tls : Mbedtls) (env : Env)
      (adapter : Adapter) (meshEnv : DeviceEnv) (meshAdapter : Adapter),
      SerialAdapter.decodeMeshMessage ownMac bytes = some msg →
      msg.dataType = AdapterTypes.serialAdapter →
      (getElem msg.data 0 byte0_lt = Opcode.configSet ∨
        getElem msg.data 0 byte0_lt = Opcode.nodeIdSet) →
        Agree ownMac msg (fun d => d.handleCompleteFrame tls env adapter bytes)
          (fun d => d.onMeshData meshEnv meshAdapter msg) := by
  intro h
  have hagree := h (Vector.replicate 6 2) (configBytes broadcastMac)
    (configMessage (Vector.replicate 6 2) broadcastMac) plainTls quietEnv serialAdapter
    quietDeviceEnv serialAdapter (decode_configBytes _ _) (configMessage_dataType _ _)
    (.inl (configMessage_op _ _))
  have hserial := @handleCompleteFrame_applies plainTls quietEnv serialAdapter
    (configBytes broadcastMac) (configMessage (Vector.replicate 6 2) broadcastMac)
    (Vector.replicate 6 2) (decode_configBytes _ _) (configMessage_not_joinAck _ _)
    (configMessage_dataType _ _) (configMessage_op _ _) (.inl rfl)
  have haddressed := hagree.addressed.mp (hagree.same.mp hserial)
  rw [dataAddress_configMessage] at haddressed
  exact absurd haddressed (by decide)

end CommandAddress

end LatticeNodes.Analysis
