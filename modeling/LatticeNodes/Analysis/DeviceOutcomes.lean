import Mathlib.Logic.Relation
import LatticeNodes.Analysis.EepromSaves
import LatticeNodes.Analysis.PeerCalls

/-!
# What a step of the device does to the EEPROM

A device function that returns has made some saves and kept the factory's mode (`Kept`).  The
receive step and the serial step can also end in a restart, and then for one reason only: a
commanded adapter type was saved just before (`Answers`).
-/

set_option autoImplicit false

namespace LatticeNodes.Analysis

open LatticeNodes.Program Relation

/-! ## Outcomes -/

/-- The device that a call leaves, restarted or not. -/
def deviceAfter : Outcome → Device
  | .ok d => d
  | .error r => r.device

/-- The EEPROM went through saves, and the factory's mode is as before. -/
structure Kept (d d' : Device) : Prop where
  eeprom : ReflTransGen Saved d.eeprom d'.eeprom
  factoryDevMode : d'.factoryDevMode = d.factoryDevMode

/-- A device over the same EEPROM keeps it, whatever became of its mesh object. -/
theorem Kept.of_eq {d d' : Device} (heeprom : d'.eeprom = d.eeprom)
    (hmode : d'.factoryDevMode = d.factoryDevMode) : Kept d d' :=
  ⟨heeprom ▸ ReflTransGen.refl, hmode⟩

/-- A device keeps its own EEPROM. -/
theorem Kept.refl (d : Device) : Kept d d :=
  Kept.of_eq rfl rfl

/-- What two steps keep, they keep together. -/
theorem Kept.trans {d₁ d₂ d₃ : Device} (h : Kept d₁ d₂) (h' : Kept d₂ d₃) : Kept d₁ d₃ :=
  ⟨h.eeprom.trans h'.eeprom, h'.factoryDevMode.trans h.factoryDevMode⟩

/-- A device keeps its EEPROM through a save. -/
theorem Kept.save (d : Device) {em : EepromManager} (h : Saved d.eeprom em) :
    Kept d { d with eeprom := em } :=
  ⟨ReflTransGen.single h, rfl⟩

/-- The function returned, and kept what it had to. -/
def Returns (d : Device) (outcome : Outcome) : Prop :=
  ∃ d', outcome = .ok d' ∧ Kept d d'

/-- The EEPROM after the adapter type a message commands was saved.
SOURCE: Adapter.cpp:61-62 -/
def commanded (d : Device) (msg : MeshMessage) : EepromManager :=
  AdapterFactory.saveAdapterTypeToEEPROM d.factoryDevMode
    (AdapterFactory.adapterTypeFromEEPROM (getElem msg.data 7 byte7_lt)) d.eeprom

/-- The function returned, or restarted the device for a commanded adapter type. -/
inductive Answers (d : Device) (site : RestartSite) (msg : MeshMessage) : Outcome → Prop
  | ok {d' : Device} (h : Kept d d') : Answers d site msg (.ok d')
  | restart {d' : Device} (heeprom : d'.eeprom = commanded d msg) :
      Answers d site msg (.error ⟨site, d'⟩)

/-- A function that returns answers as a handler may. -/
theorem Returns.answers {d : Device} {outcome : Outcome} (h : Returns d outcome)
    (site : RestartSite) (msg : MeshMessage) : Answers d site msg outcome := by
  obtain ⟨d', rfl, hkept⟩ := h
  exact .ok hkept

/-- A computation that ends in a device which kept the EEPROM returns. -/
theorem returns_ok {d d' : Device} (h : Kept d d') : Returns d (.ok d') :=
  ⟨d', rfl, h⟩

/-- An error that does not restart the device changes nothing. -/
theorem returns_fail (d : Device) {f : Failure} (h : f.restarts = false) :
    Returns d (d.fail f) := by
  refine ⟨d, ?_, Kept.refl d⟩
  rw [Device.fail, h]
  rfl

/-- A computation may start from any device that kept the EEPROM. -/
theorem Kept.returns {d d₁ : Device} {outcome : Outcome} (h : Kept d d₁)
    (h' : Returns d₁ outcome) : Returns d outcome := by
  obtain ⟨d', hok, hkept⟩ := h'
  exact ⟨d', hok, h.trans hkept⟩

/-- Two computations that return do so in a row. -/
theorem Returns.bind {d : Device} {outcome : Outcome} {f : Device → Outcome}
    (h : Returns d outcome) (hf : ∀ d', Kept d d' → Returns d' (f d')) :
    Returns d (outcome.bind f) := by
  obtain ⟨d', rfl, hkept⟩ := h
  exact hkept.returns (hf d' hkept)

/-- A handler may go on with a computation that returns. -/
theorem Answers.bind {d : Device} {site : RestartSite} {msg : MeshMessage} {outcome : Outcome}
    {f : Device → Outcome} (h : Answers d site msg outcome)
    (hf : ∀ d', Kept d d' → Returns d' (f d')) : Answers d site msg (outcome.bind f) := by
  cases h with
  | ok hkept => exact (hkept.returns (hf _ hkept)).answers site msg
  | restart heeprom => exact .restart heeprom

/-- Only the EEPROM and the factory's mode of the device before the step matter. -/
theorem Answers.of_eq {d d₁ : Device} {site : RestartSite} {msg : MeshMessage}
    {outcome : Outcome} (h : Answers d₁ site msg outcome) (heeprom : d₁.eeprom = d.eeprom)
    (hmode : d₁.factoryDevMode = d.factoryDevMode) : Answers d site msg outcome := by
  cases h with
  | ok hkept => exact .ok ((Kept.of_eq heeprom hmode).trans hkept)
  | restart hrestart =>
      apply Answers.restart
      rw [hrestart, commanded, commanded, heeprom, hmode]

/-! ## Mesh calls -/

/-- A quiet effect returns. -/
theorem runEffect_returns (callback : Device → MeshMessage → Outcome) (d : Device) {e : Effect}
    (h : Quiet e) : Returns d (d.runEffect callback e) := by
  cases e with
  | espNowSend target msg => exact returns_ok (Kept.of_eq rfl rfl)
  | externalRecvCallback msg => exact absurd h id
  | enrollmentRelay mac pubKey =>
      apply returns_ok
      unfold Device.relayEnrollmentToServer
      split
      · exact Kept.refl d
      · exact Kept.of_eq rfl rfl
  | saveKnownMasterMac mac =>
      exact returns_ok (Kept.save d (saveCall_saved _ (.knownMasterMac mac)))
  | saveKnownMasterMacSecondary mac =>
      exact returns_ok (Kept.save d (saveCall_saved _ (.knownMasterMacSecondary mac)))
  | saveEnrolledFlag enrolled =>
      exact returns_ok (Kept.save d (saveCall_saved _ (.enrolledFlag enrolled)))
  | savePeerList records numPeers =>
      exact returns_ok (Kept.save d (saveCall_saved _ (.peerList _ numPeers)))
  | fail f => exact returns_fail d h

/-- A list of quiet effects returns. -/
theorem runEffects_returns (callback : Device → MeshMessage → Outcome) (d : Device)
    {effects : List Effect} (h : ∀ e ∈ effects, Quiet e) :
    Returns d (d.runEffects callback effects) := by
  induction effects generalizing d with
  | nil => exact returns_ok (Kept.refl d)
  | cons e es ih =>
      rw [runEffects_cons]
      apply (runEffect_returns callback d (h e List.mem_cons_self)).bind
      intro d' _
      exact ih d' fun e' he' => h e' (List.mem_cons_of_mem _ he')

/-- Storing a mesh object and performing its quiet effects returns. -/
theorem commitMesh_returns (callback : Device → MeshMessage → Outcome) (d : Device)
    {result : Mesh × List Effect} (h : ∀ e ∈ result.2, Quiet e) :
    Returns d (d.commitMesh callback result) := by
  have hinstalled : Kept d { d with mesh := result.1 } := Kept.of_eq rfl rfl
  exact hinstalled.returns (runEffects_returns callback _ h)

/-- Sending adapter data returns, and keeps the EEPROM. -/
theorem transmit_returns (d : Device) (env : Env) (type : AdapterTypes) (data : Payload) :
    Returns d (d.transmit env type data) := by
  obtain ⟨mesh, sent, heq⟩ := transmit_eq d env type data
  exact ⟨_, heq, Kept.of_eq rfl rfl⟩

/-- Broadcasting adapter data returns, and keeps the EEPROM. -/
theorem broadcastAdapterData_returns (d : Device) (env : Env) (type : AdapterTypes)
    (data : Payload) : Returns d (d.broadcastAdapterData env type data) := by
  obtain ⟨mesh, sent, heq⟩ := broadcastAdapterData_eq d env type data
  exact ⟨_, heq, Kept.of_eq rfl rfl⟩

/-- An enrollment registers, sends and fails, and no more. -/
theorem enrollPeer_quiet (m : Mesh) (tls : Mbedtls) (env : Env) (mac : MacAddress)
    (publicKey : Key) : ∀ e ∈ (m.enrollPeer tls env mac publicKey).2, Quiet e := by
  rw [enrollPeer_eq]
  split
  · intro e he
    cases he
  · intro e he
    rcases List.mem_cons.mp he with rfl | he
    · trivial
    · apply RadioOnly.quiet
      rcases List.mem_append.mp he with he | he
      · exact registerPeerWithEspNow_radioOnly e he
      · exact espNowBroadcast_radioOnly _ e he

/-! ## Received messages -/

/-- The command saves the adapter type and restarts the node for it.
SOURCE: Adapter.cpp:60-66, Serial_Adapter.cpp:453-468 -/
theorem applyConfigSet_answers (d : Device) (site : RestartSite) (msg : MeshMessage) :
    Answers d site msg (d.applyConfigSet site msg) :=
  .restart rfl

/-- A node ID is saved through the EEPROM manager, and nothing else is touched. -/
theorem applyNodeIdSet_kept (d : Device) (msg : MeshMessage) : Kept d (d.applyNodeIdSet msg) := by
  unfold Device.applyNodeIdSet
  split
  · exact Kept.save d (saveCall_saved _ (.nodeId _))
  · exact Kept.refl d

/-- Of the opcodes every adapter knows, only `OP_CONFIG_SET` restarts the node.
SOURCE: Adapter.cpp:46-88 -/
theorem baseOpcode_answers (d : Device) (msg : MeshMessage) :
    Answers d .adapterConfigSet msg (d.baseOpcode msg) := by
  unfold Device.baseOpcode
  split
  · split
    · exact applyConfigSet_answers d _ msg
    · exact .ok (Kept.refl d)
  · split
    · exact .ok (applyNodeIdSet_kept d msg)
    · exact .ok (Kept.refl d)

/-- An adapter's send returns. -/
theorem sendDataThroughMesh_returns (d : Device) (env : Env) (adapter : Adapter)
    (type : AdapterTypes) (data : Payload) :
    Returns d (d.sendDataThroughMesh env adapter type data) := by
  unfold Device.sendDataThroughMesh
  split
  · exact transmit_returns d env type data
  · exact returns_fail d rfl

/-- A command to an LED adapter returns.
SOURCE: Adapter.cpp:99-131 -/
theorem ledCommand_returns (d : Device) (env : DeviceEnv) (adapter : Adapter)
    (msg : MeshMessage) : Returns d (d.ledCommand env adapter msg) := by
  unfold Device.ledCommand
  simp only
  split
  · exact sendDataThroughMesh_returns d _ adapter _ _
  · exact returns_ok (Kept.refl d)

/-- What a serial adapter makes of an opcode from the mesh returns.
SOURCE: Serial_Adapter.cpp:153-177 -/
theorem serialOpcode_returns (d : Device) (env : Env) (msg : MeshMessage) :
    Returns d (d.serialOpcode env msg) := by
  unfold Device.serialOpcode
  split
  · exact returns_ok (Kept.refl d)
  · split
    · exact transmit_returns d env _ _
    · split
      · exact returns_ok (Kept.save d (saveCall_saved _ (.txPowerPreset _)))
      · exact returns_ok (Kept.refl d)

/-- Every adapter's own handler returns.
SOURCE: Adapter.cpp:140-142, PIR_Adapter.cpp:124-126 -/
theorem onMeshDataImpl_returns (d : Device) (env : Env) (adapter : Adapter) (msg : MeshMessage) :
    Returns d (d.onMeshDataImpl env adapter msg) := by
  unfold Device.onMeshDataImpl
  split
  · unfold Device.serialOnMeshDataImpl
    apply (serialOpcode_returns d env msg).bind
    intro d' _
    split
    · exact returns_fail d' rfl
    · exact returns_ok (Kept.of_eq rfl rfl)
  · exact returns_ok (Kept.refl d)

/-- A message from the mesh restarts the node for its `OP_CONFIG_SET` only. -/
theorem onMeshData_answers (d : Device) (env : DeviceEnv) (adapter : Adapter)
    (msg : MeshMessage) : Answers d .adapterConfigSet msg (d.onMeshData env adapter msg) := by
  unfold Device.onMeshData
  split
  · apply (baseOpcode_answers d msg).bind
    intro d' _
    split
    · exact returns_ok (Kept.refl d')
    · exact onMeshDataImpl_returns d' _ adapter msg
  · split
    · exact (ledCommand_returns d env adapter msg).answers _ msg
    · split
      · exact .ok (Kept.refl d)
      · exact (onMeshDataImpl_returns d _ adapter msg).answers _ msg

/-- The receive callback is the handler of the adapter behind it. -/
theorem dataRecvCallback_answers (env : DeviceEnv) (d : Device) (msg : MeshMessage) :
    Answers d .adapterConfigSet msg (Device.dataRecvCallback env d msg) := by
  unfold Device.dataRecvCallback
  split
  · exact .ok (Kept.refl d)
  · exact onMeshData_answers d env _ msg

/-- The receive step restarts the device only for a commanded adapter type.
SOURCE: Mesh.cpp:563-604 -/
theorem handleEntry_answers (d : Device) (env : DeviceEnv) (entry : RecvQueueEntry) :
    Answers d .adapterConfigSet entry.msg (d.handleEntry env entry) := by
  unfold Device.handleEntry
  rcases handleEntry_effects d.mesh env.handler entry with ⟨rest, hrest, heffects⟩ | hquiet
  · unfold Device.commitMesh
    rw [heffects, runEffects_cons]
    have hcallback := dataRecvCallback_answers env
      { d with mesh := (d.mesh.handleEntry env.handler entry).1 } entry.msg
    have hsteps := hcallback.bind fun d' _ =>
      runEffects_returns (Device.dataRecvCallback env) d' fun e he => (hrest e he).quiet
    exact hsteps.of_eq rfl rfl
  · exact (commitMesh_returns _ d hquiet).answers _ entry.msg

/-! ## Serial frames -/

/-- Forwarding a frame only sends.
SOURCE: Serial_Adapter.cpp:382-426 -/
theorem forwardFrame_eq (d : Device) (env : Env) (adapter : Adapter) (msg : MeshMessage) :
    ∃ mesh sent, d.forwardFrame env adapter msg = .ok { d with mesh := mesh, sent := sent } := by
  unfold Device.forwardFrame
  split
  · split
    · exact transmit_eq d env _ _
    · exact ⟨_, _, rfl⟩
  · split
    · exact broadcastAdapterData_eq d env _ _
    · exact ⟨_, _, rfl⟩

/-- A power setting from the server returns.
SOURCE: Serial_Adapter.cpp:473-500 -/
theorem serialTxPowerSet_returns (d : Device) (env : Env) (msg : MeshMessage) :
    Returns d (d.serialTxPowerSet env msg) := by
  unfold Device.serialTxPowerSet
  split
  · exact returns_ok (Kept.refl d)
  · simp only
    have hsave := Kept.save d (saveCall_saved d.eeprom (.txPowerPreset msg.data[1]))
    split
    · exact hsave.returns (broadcastAdapterData_returns _ env _ _)
    · exact returns_ok hsave

/-- Of the server's control commands only `OP_CONFIG_SET` restarts the node.
SOURCE: Serial_Adapter.cpp:428-521 -/
theorem serialControl_answers (d : Device) (env : Env) (msg : MeshMessage) :
    Answers d .serialConfigSet msg (d.serialControl env msg) := by
  unfold Device.serialControl
  split
  · exact .ok (Kept.refl d)
  · split
    · exact (transmit_returns d env _ _).answers _ msg
    · split
      · split
        · exact applyConfigSet_answers d _ msg
        · exact .ok (Kept.refl d)
      · split
        · exact (serialTxPowerSet_returns d env msg).answers _ msg
        · split
          · exact .ok (applyNodeIdSet_kept d msg)
          · exact .ok (Kept.refl d)

/-- A frame restarts the device only for an adapter type it commands.
SOURCE: Serial_Adapter.cpp:325-524 -/
theorem handleCompleteFrame_answers (tls : Mbedtls) (d : Device) (env : Env) (adapter : Adapter)
    (bytes : List UInt8) :
    Returns d (d.handleCompleteFrame tls env adapter bytes) ∨
      ∃ msg, SerialAdapter.decodeMeshMessage d.wifiMac bytes = some msg ∧
        Answers d .serialConfigSet msg (d.handleCompleteFrame tls env adapter bytes) := by
  unfold Device.handleCompleteFrame
  split
  · exact .inl (returns_fail d rfl)
  · next msg hdecode =>
    right
    refine ⟨msg, hdecode, ?_⟩
    split
    · split
      · exact .ok (Kept.refl d)
      · exact (commitMesh_returns _ d (enrollPeer_quiet _ _ _ _ _)).answers _ msg
    · obtain ⟨mesh, sent, hforward⟩ := forwardFrame_eq d env adapter msg
      rw [hforward]
      have hcontrol := serialControl_answers { d with mesh := mesh, sent := sent } env msg
      exact hcontrol.of_eq rfl rfl

end LatticeNodes.Analysis
