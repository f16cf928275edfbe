import LatticeNodes.Analysis.BootEpochs
import LatticeNodes.Analysis.DataStages
import LatticeNodes.Analysis.DeviceOutcomes
import LatticeNodes.Analysis.SerialRoundTrip

/-!
# What a received message makes a node send

A node that is no master and whose adapter comes from the factory drains one entry.  Whatever it
relays has at least one hop; the only frame of its own is the answer of a serial adapter to a
health request, and that goes out when there is a route to the master: `handleEntry_own_iff`.
-/

set_option autoImplicit false

namespace LatticeNodes.Analysis

open LatticeNodes.Program

/-- The adapter of a boot: built by the factory, with the transmit function set.
SOURCE: AdapterFactory.cpp:23-39, main.ino:200-210, 280 -/
def FactoryBuilt (adapter : Adapter) : Prop :=
  ∃ type pin built, AdapterFactory.createAdapter type pin = .ok built ∧
    adapter = { built with transmitFnSet := true }

/-- Adapter data that the node with this address built itself. -/
def OwnData (mac : MacAddress) (msg : MeshMessage) : Prop :=
  msg.messageType = MeshMessageType.adapterData ∧ msg.originMacAddress = mac ∧ msg.hopCount = 0

instance (mac : MacAddress) (msg : MeshMessage) : Decidable (OwnData mac msg) :=
  inferInstanceAs (Decidable (_ ∧ _))

/-- The node's own adapter data among the frames a call has sent. -/
def ownFrames (d d' : Device) : List MeshMessage :=
  ((d'.sent.drop d.sent.length).map Prod.snd).filter fun msg => OwnData d.mesh.deviceMacAddress msg

/-- The message is a request for a health report.
SOURCE: Serial_Adapter.cpp:153-158 -/
def AsksHealth (msg : MeshMessage) : Prop :=
  msg.dataType = AdapterTypes.serialAdapter ∧ getElem msg.data 0 byte0_lt = Opcode.healthReq

instance (msg : MeshMessage) : Decidable (AsksHealth msg) :=
  inferInstanceAs (Decidable (_ ∧ _))

/-- The node has a serial adapter. -/
def HasSerial (d : Device) : Prop :=
  ∃ adapter ∈ d.adapter, adapter.adapterType = AdapterTypes.serialAdapter

instance (d : Device) : Decidable (HasSerial d) :=
  inferInstanceAs (Decidable (∃ adapter ∈ d.adapter, _))

/-- The entry is adapter data that pass the gate, are delivered to a serial adapter and ask for a
health report, and there is a route for the answer. -/
def Answered (d : Device) (env : DeviceEnv) (entry : RecvQueueEntry) : Prop :=
  entry.msg.messageType = MeshMessageType.adapterData ∧ AsksHealth entry.msg ∧ HasSerial d ∧
    (d.mesh.passGate entry.msg).isSome = true ∧ Delivers d.mesh entry.msg ∧
      ReachesMaster (d.mesh.updatePeerLastSeen env.handler entry.srcMac) env.callback

/-! ## Frames of a call -/

/-- A call that keeps the adapter and the role; its frames satisfy `P`. -/
structure Sends (d d' : Device) (P : MacAddress × MeshMessage → Prop) : Prop where
  adapter : d'.adapter = d.adapter
  isMaster : d'.mesh.isMaster = d.mesh.isMaster
  relay : RelayKept d.mesh d'.mesh
  sent : ∃ frames, d'.sent = d.sent ++ frames ∧ ∀ f ∈ frames, P f

section Calls

variable {d d' : Device} {P : MacAddress × MeshMessage → Prop}

/-- A device with the same mesh object and adapter that sent nothing more. -/
theorem Sends.nothing (hmesh : d'.mesh = d.mesh) (hadapter : d'.adapter = d.adapter)
    (hsent : d'.sent = d.sent) : Sends d d' P := by
  refine ⟨hadapter, by rw [hmesh], ?_, [], ?_, fun f hf => ?_⟩
  · rw [hmesh]
    exact RelayKept.refl _
  · rw [hsent, List.append_nil]
  · cases hf

/-- Doing nothing sends nothing. -/
theorem Sends.refl (d : Device) : Sends d d P :=
  .nothing rfl rfl rfl

/-- What two steps send is what either does. -/
theorem Sends.trans {d₁ d₂ d₃ : Device} (h : Sends d₁ d₂ P) (h' : Sends d₂ d₃ P) :
    Sends d₁ d₃ P := by
  obtain ⟨frames, hsent, hframes⟩ := h.sent
  obtain ⟨frames', hsent', hframes'⟩ := h'.sent
  refine ⟨h'.adapter.trans h.adapter, h'.isMaster.trans h.isMaster, h.relay.trans h'.relay,
    frames ++ frames', ?_, fun f hf => ?_⟩
  · rw [hsent', hsent, List.append_assoc]
  · rcases List.mem_append.mp hf with hf | hf
    · exact hframes f hf
    · exact hframes' f hf

/-- The frames may be described more loosely. -/
theorem Sends.mono {Q : MacAddress × MeshMessage → Prop} (h : Sends d d' P)
    (hpq : ∀ f, P f → Q f) : Sends d d' Q := by
  obtain ⟨frames, hsent, hframes⟩ := h.sent
  exact ⟨h.adapter, h.isMaster, h.relay, frames, hsent, fun f hf => hpq f (hframes f hf)⟩

/-- Frames that are not the node's own. -/
theorem ownFrames_eq_nil (h : ∃ frames, d'.sent = d.sent ++ frames ∧
    ∀ f ∈ frames, ¬OwnData d.mesh.deviceMacAddress f.2) : ownFrames d d' = [] := by
  obtain ⟨frames, hsent, hframes⟩ := h
  rw [ownFrames, hsent, List.drop_left, List.filter_eq_nil_iff]
  intro msg hmsg
  obtain ⟨f, hf, rfl⟩ := List.mem_map.mp hmsg
  simpa using hframes f hf

/-- An effect that is no callback sends itself at most.
SOURCE: Mesh.cpp:563-604 -/
theorem runEffect_sends {callback : Device → MeshMessage → Outcome} (d : Device) {e : Effect}
    (he : ∀ msg, e ≠ .externalRecvCallback msg) :
    Sends d (deviceAfter (d.runEffect callback e)) fun f => e = .espNowSend f.1 f.2 := by
  cases e with
  | espNowSend target msg =>
      refine ⟨rfl, rfl, RelayKept.refl _, [(target, msg)], rfl, fun f hf => ?_⟩
      rw [List.mem_singleton.mp hf]
  | externalRecvCallback msg => exact absurd rfl (he msg)
  | enrollmentRelay mac pubKey =>
      show Sends d (d.relayEnrollmentToServer mac pubKey) _
      unfold Device.relayEnrollmentToServer
      split
      · exact .refl d
      · exact .nothing rfl rfl rfl
  | fail f =>
      simp only [Device.runEffect, Device.fail]
      split
      · exact .refl d
      · exact .refl d
  | _ => exact .nothing rfl rfl rfl

/-- Effects without a callback send the frames among them, as far as they are carried out. -/
theorem runEffects_sends {callback : Device → MeshMessage → Outcome} (d : Device)
    {effects : List Effect} (h : ∀ msg, Effect.externalRecvCallback msg ∉ effects) :
    Sends d (deviceAfter (d.runEffects callback effects)) (· ∈ sentFrames effects) := by
  induction effects generalizing d with
  | nil => exact .refl d
  | cons e es ih =>
      have he : ∀ msg, e ≠ .externalRecvCallback msg := by
        rintro msg rfl
        exact h msg List.mem_cons_self
      have hes : ∀ msg, Effect.externalRecvCallback msg ∉ es :=
        fun msg hmsg => h msg (List.mem_cons_of_mem e hmsg)
      have hfirst : Sends d (deviceAfter (d.runEffect callback e)) (· ∈ sentFrames (e :: es)) := by
        apply (runEffect_sends d he).mono
        rintro f rfl
        exact mem_sentFrames.mpr List.mem_cons_self
      rw [runEffects_cons]
      cases hrun : d.runEffect callback e with
      | error r =>
          rw [hrun] at hfirst
          exact hfirst
      | ok d₁ =>
          rw [hrun] at hfirst
          apply hfirst.trans
          apply (ih d₁ hes).mono
          intro f hf
          exact mem_sentFrames.mpr (List.mem_cons_of_mem e (mem_sentFrames.mp hf))

end Calls

/-! ## The adapter -/

section Adapter

variable {d : Device}

/-- The factory builds serial and PIR adapters only.
SOURCE: AdapterFactory.cpp:23-39 -/
theorem FactoryBuilt.types {adapter : Adapter} (h : FactoryBuilt adapter) :
    adapter.adapterType = AdapterTypes.serialAdapter ∨
      adapter.adapterType = AdapterTypes.pirAdapter := by
  obtain ⟨type, pin, built, hcreate, rfl⟩ := h
  unfold AdapterFactory.createAdapter at hcreate
  split at hcreate
  · cases hcreate
    exact .inr rfl
  · split at hcreate
    · cases hcreate
      exact .inl rfl
    · cases hcreate

/-- The base class sends nothing.
SOURCE: Adapter.cpp:46-88 -/
theorem baseOpcode_sends (d : Device) (msg : MeshMessage) {P : MacAddress × MeshMessage → Prop} :
    Sends d (deviceAfter (d.baseOpcode msg)) P := by
  unfold Device.baseOpcode
  split
  · split
    · exact .nothing rfl rfl rfl
    · exact .refl d
  · split
    · show Sends d (d.applyNodeIdSet msg) P
      unfold Device.applyNodeIdSet
      split
      · exact .nothing rfl rfl rfl
      · exact .refl d
    · exact .refl d

/-- Only a serial adapter that is asked for its health sends anything.
SOURCE: Serial_Adapter.cpp:143-201 -/
theorem serialOnMeshDataImpl_sends {msg : MeshMessage} (hask : ¬AsksHealth msg) (env : Env)
    {P : MacAddress × MeshMessage → Prop} :
    Sends d (deviceAfter (d.serialOnMeshDataImpl env msg)) P := by
  have hopcode : ∃ d', d.serialOpcode env msg = .ok d' ∧ Sends d d' P := by
    unfold Device.serialOpcode
    split
    · exact ⟨d, rfl, .refl d⟩
    · next hserial =>
      have hother : msg.data[0] ≠ Opcode.healthReq :=
        fun hop => hask ⟨not_not.mp hserial, hop⟩
      rw [if_neg hother]
      split
      · exact ⟨_, rfl, .nothing rfl rfl rfl⟩
      · exact ⟨d, rfl, .refl d⟩
  obtain ⟨d', hok, hsends⟩ := hopcode
  simp only [Device.serialOnMeshDataImpl, hok, Except.bind, encodeMeshMessage_eq]
  exact hsends.trans (.nothing rfl rfl rfl)

/-- Without a health request an adapter's own handler sends nothing.
SOURCE: Adapter.cpp:140-142, PIR_Adapter.cpp:124-126 -/
theorem onMeshDataImpl_sends {adapter : Adapter} {msg : MeshMessage}
    (hask : adapter.adapterType = AdapterTypes.serialAdapter → ¬AsksHealth msg) (env : Env)
    {P : MacAddress × MeshMessage → Prop} :
    Sends d (deviceAfter (d.onMeshDataImpl env adapter msg)) P := by
  unfold Device.onMeshDataImpl
  split
  · next hserial => exact serialOnMeshDataImpl_sends (hask hserial) env
  · exact .refl d

/-- **An adapter of the factory that is not asked for its health sends nothing.**
SOURCE: Adapter.cpp:41-138 -/
theorem onMeshData_sends {adapter : Adapter} (hbuilt : FactoryBuilt adapter) {msg : MeshMessage}
    (hask : adapter.adapterType = AdapterTypes.serialAdapter → ¬AsksHealth msg) (env : DeviceEnv)
    {P : MacAddress × MeshMessage → Prop} :
    Sends d (deviceAfter (d.onMeshData env adapter msg)) P := by
  have hled : adapter.adapterType ≠ AdapterTypes.ledAdapter := by
    rcases hbuilt.types with htype | htype
    · rw [htype]
      decide
    · rw [htype]
      decide
  unfold Device.onMeshData
  split
  · have hbase := @baseOpcode_sends d msg P
    cases hop : d.baseOpcode msg with
    | error r =>
        rw [hop] at hbase
        exact hbase
    | ok d₁ =>
        rw [hop] at hbase
        refine hbase.trans ?_
        simp only [Except.bind]
        split
        · exact .refl d₁
        · exact onMeshDataImpl_sends hask env.callback
  · rw [if_neg (fun h => hled h.2)]
    split
    · exact .refl d
    · exact onMeshDataImpl_sends hask env.callback

/-- The device after a transmit.
SOURCE: Mesh.cpp:667-677 -/
def transmitted (d : Device) (env : Env) (type : AdapterTypes) (data : Payload) : Device :=
  { d with
    mesh := (d.mesh.transmit env type data).1
    sent := d.sent ++ sentFrames (d.mesh.transmit env type data).2 }

/-- A transmission always comes back. -/
theorem transmit_ok (d : Device) (env : Env) (type : AdapterTypes) (data : Payload) :
    d.transmit env type data = .ok (transmitted d env type data) :=
  runEffects_radioOnly Device.noCallback { d with mesh := (d.mesh.transmit env type data).1 }
    (transmit_radioOnly d.mesh env type data)

/-- A serial adapter that is asked for its health transmits a report, and writes the request to
the serial line.
SOURCE: Serial_Adapter.cpp:24-57, 153-201 -/
theorem onMeshData_asked {adapter : Adapter} {msg : MeshMessage}
    (hserial : adapter.adapterType = AdapterTypes.serialAdapter) (hask : AsksHealth msg)
    (env : DeviceEnv) : d.onMeshData env adapter msg =
      .ok ((transmitted d env.callback AdapterTypes.serialAdapter
        (d.healthReport env.callback)).writeFrame (Pb.encodeFields (SerialAdapter.toPb msg))) := by
  obtain ⟨htype, hop⟩ := hask
  have hbase : d.baseOpcode msg = .ok d := by
    rw [Device.baseOpcode, hop, if_neg (by decide), if_neg (by decide)]
  have hreport : d.serialOpcode env.callback msg = .ok (transmitted d env.callback
      AdapterTypes.serialAdapter (d.healthReport env.callback)) := by
    rw [Device.serialOpcode, if_neg (not_not.mpr htype), if_pos hop]
    exact transmit_ok d env.callback _ _
  rw [Device.onMeshData, if_pos htype, hbase]
  simp only [Except.bind, hserial, ne_eq, not_true_eq_false, if_false, Device.onMeshDataImpl,
    if_true, Device.serialOnMeshDataImpl, hreport, encodeMeshMessage_eq]

/-- The frames of a transmit are the node's own adapter data.
SOURCE: Mesh.cpp:639-677 -/
theorem transmit_own {m : Mesh} (hnode : m.isMaster = false) (env : Env) (type : AdapterTypes)
    (data : Payload) : ∀ f ∈ sentFrames (m.transmit env type data).2,
      OwnData m.deviceMacAddress f.2 := by
  intro f hf
  rw [(MeshNetwork.transmit_originates m env type data).frames f hf, MeshNetwork.Call.frame,
    if_neg (by simp [hnode])]
  exact ⟨rfl, rfl, rfl⟩

/-- A node's transmission leaves the device exactly when it has a way to the master.
SOURCE: Mesh.cpp:667-677 -/
theorem transmit_sends_iff {m : Mesh} (hnode : m.isMaster = false) {env : Env}
    {type : AdapterTypes} {data : Payload} :
    sentFrames (m.transmit env type data).2 ≠ [] ↔ ReachesMaster m env := by
  rw [Mesh.transmit, if_neg (by simp [hnode])]
  exact routeToMaster_sends_iff

end Adapter

/-! ## The receive step -/

section Receive

variable {m : Mesh} {env : Env} {entry : RecvQueueEntry}

/-- The callback is called for the data that pass the gate and are delivered.
SOURCE: Mesh.cpp:563-604 -/
theorem handleEntry_calls_iff :
    Effect.externalRecvCallback entry.msg ∈ (m.handleEntry env entry).2 ↔
      entry.msg.messageType = MeshMessageType.adapterData ∧
        (m.passGate entry.msg).isSome = true ∧ Delivers m entry.msg := by
  constructor
  · intro h
    have htype := (handleEntry_callback h).2
    exact ⟨htype, (handleEntry_delivers_iff htype).mp h⟩
  · rintro ⟨htype, hdelivers⟩
    exact (handleEntry_delivers_iff htype).mpr hdelivers

/-- Of what a route depends on, the handling of adapter data changes the time of the sender. -/
theorem reachesMaster_of_handled (htype : entry.msg.messageType = MeshMessageType.adapterData)
    (hgate : (m.passGate entry.msg).isSome = true) (env' : Env) :
    ReachesMaster (m.handleEntry env entry).1 env' ↔
      ReachesMaster (m.updatePeerLastSeen env entry.srcMac) env' := by
  obtain ⟨m₁, hpass⟩ := Option.isSome_iff_exists.mp hgate
  have hreceived : received m env entry = some (m₁.updatePeerLastSeen env entry.srcMac) := by
    rw [received, hpass]
    rfl
  rw [handleEntry_of_received hreceived, dispatch_adapterData _ env htype, processAdapterData_fst,
    passGate_frame hpass]
  unfold Mesh.updatePeerLastSeen
  split
  · exact Iff.rfl
  · exact Iff.rfl

end Receive

/-- A node that is no master, as it runs. -/
structure NodeRuns (d : Device) : Prop where
  isMaster : d.mesh.isMaster = false
  adapter : ∃ adapter, d.adapter = some adapter ∧ FactoryBuilt adapter
  relays : BootEpochs.RelaysOnly d.mesh

section Node

variable {d d' : Device}

/-- A node that sends something stays a running node. -/
theorem NodeRuns.sends (h : NodeRuns d) {P : MacAddress × MeshMessage → Prop}
    (hsends : Sends d d' P) : NodeRuns d' := by
  refine ⟨hsends.isMaster.trans h.isMaster, ?_, h.relays.kept hsends.relay⟩
  rw [hsends.adapter]
  exact h.adapter

/-- A frame that has been relayed is not the node's own. -/
theorem not_ownData_of_relayed {mac : MacAddress} {msg : MeshMessage} (h : msg.hopCount ≠ 0) :
    ¬OwnData mac msg := fun hown => h hown.2.2

/-- The mesh object a handled entry leaves, in the device. -/
def handled (d : Device) (env : DeviceEnv) (entry : RecvQueueEntry) : Device :=
  { d with mesh := (d.mesh.handleEntry env.handler entry).1 }

/-- The device behind the answer to a health request. -/
def reported (d : Device) (env : DeviceEnv) (entry : RecvQueueEntry) : Device :=
  transmitted (handled d env entry) env.callback AdapterTypes.serialAdapter
    ((handled d env entry).healthReport env.callback)

/-- A node that has handled a message stays a running node. -/
theorem NodeRuns.handled (h : NodeRuns d) (env : DeviceEnv) (entry : RecvQueueEntry) :
    NodeRuns (handled d env entry) := by
  have hsame := handleEntry_sameNode d.mesh env.handler entry
  exact ⟨hsame.isMaster.trans h.isMaster, h.adapter,
    (BootEpochs.handleEntry_forwards h.relays env.handler entry).relays⟩

/-- How a drained entry ends: with relays only, or with a report ahead of them. -/
inductive Drained (d : Device) (env : DeviceEnv) (entry : RecvQueueEntry) : Device → Prop
  | relayed {d' : Device}
      (hask : ¬(Effect.externalRecvCallback entry.msg ∈ (d.mesh.handleEntry env.handler entry).2 ∧
        AsksHealth entry.msg ∧ HasSerial d))
      (hsends : Sends (handled d env entry) d' fun f => f.2.hopCount ≠ 0) : Drained d env entry d'
  | reported {d' : Device}
      (hcall : Effect.externalRecvCallback entry.msg ∈ (d.mesh.handleEntry env.handler entry).2)
      (hask : AsksHealth entry.msg) (hserial : HasSerial d)
      (hsends : Sends (reported d env entry) d' fun f => f.2.hopCount ≠ 0) :
      Drained d env entry d'

/-- **One round of the drain.**
SOURCE: Mesh.cpp:563-604, Adapter.cpp:41-138 -/
theorem handleEntry_drained (h : NodeRuns d) (env : DeviceEnv) (entry : RecvQueueEntry) :
    Drained d env entry (deviceAfter (d.handleEntry env entry)) := by
  have hforwards := BootEpochs.handleEntry_forwards h.relays env.handler entry
  obtain ⟨adapter, hadapter, hbuilt⟩ := h.adapter
  unfold Device.handleEntry Device.commitMesh
  rcases handleEntry_effects d.mesh env.handler entry with ⟨rest, hrest, heffects⟩ | hquiet
  · have hcall : Effect.externalRecvCallback entry.msg ∈
        (d.mesh.handleEntry env.handler entry).2 := by
      rw [heffects]
      exact List.mem_cons_self
    have hrelayed : ∀ f ∈ sentFrames rest, f.2.hopCount ≠ 0 := by
      intro f hf
      apply hforwards.frames f
      rw [heffects]
      exact hf
    have hrest' : ∀ msg, Effect.externalRecvCallback msg ∉ rest :=
      fun msg hmsg => hrest _ hmsg
    have hcallback : Device.dataRecvCallback env (handled d env entry) entry.msg =
        (handled d env entry).onMeshData env adapter entry.msg := by
      simp only [Device.dataRecvCallback, handled, hadapter]
    rw [heffects, runEffects_cons]
    show Drained d env entry (deviceAfter ((Device.dataRecvCallback env (handled d env entry)
      entry.msg).bind fun d => d.runEffects (Device.dataRecvCallback env) rest))
    rw [hcallback]
    by_cases hasked : adapter.adapterType = AdapterTypes.serialAdapter ∧ AsksHealth entry.msg
    · obtain ⟨hserial, hask⟩ := hasked
      rw [onMeshData_asked hserial hask env]
      refine .reported hcall hask ⟨adapter, hadapter, hserial⟩ ?_
      have hwritten : Sends (reported d env entry) ((reported d env entry).writeFrame
          (Pb.encodeFields (SerialAdapter.toPb entry.msg))) fun f => f.2.hopCount ≠ 0 :=
        .nothing rfl rfl rfl
      exact hwritten.trans ((runEffects_sends _ hrest').mono hrelayed)
    · have hno : adapter.adapterType = AdapterTypes.serialAdapter → ¬AsksHealth entry.msg :=
        fun hserial hask => hasked ⟨hserial, hask⟩
      refine .relayed ?_ ?_
      · rintro ⟨-, hask, a, ha, hserial⟩
        obtain rfl : a = adapter := Option.some.inj (ha.symm.trans hadapter)
        exact hno hserial hask
      · have hfirst := @onMeshData_sends (handled d env entry) adapter hbuilt entry.msg hno env
          fun f => f.2.hopCount ≠ 0
        cases hrun : (handled d env entry).onMeshData env adapter entry.msg with
        | error r =>
            rw [hrun] at hfirst
            exact hfirst
        | ok d₁ =>
            rw [hrun] at hfirst
            exact hfirst.trans ((runEffects_sends d₁ hrest').mono hrelayed)
  · have hnone : ∀ msg, Effect.externalRecvCallback msg ∉
        (d.mesh.handleEntry env.handler entry).2 := fun msg hmsg => hquiet _ hmsg
    refine .relayed (fun hyes => hnone _ hyes.1) ?_
    exact (runEffects_sends (handled d env entry) hnone).mono hforwards.frames

/-- A node that has transmitted something stays a running node. -/
theorem NodeRuns.transmitted (h : NodeRuns d) (env : Env) (type : AdapterTypes) (data : Payload) :
    NodeRuns (transmitted d env type data) := by
  have horiginates := MeshNetwork.transmit_originates d.mesh env type data
  refine ⟨?_, h.adapter, h.relays.kept horiginates.undisturbed.kept⟩
  rw [LatticeNodes.Analysis.transmitted, Mesh.transmit, if_neg (by simp [h.isMaster])]
  exact h.isMaster

/-- A running node is running after any message. -/
theorem handleEntry_runs (h : NodeRuns d) (env : DeviceEnv) (entry : RecvQueueEntry) :
    NodeRuns (deviceAfter (d.handleEntry env entry)) := by
  cases handleEntry_drained h env entry with
  | relayed hask hsends => exact (h.handled env entry).sends hsends
  | reported hcall hask hserial hsends =>
      exact ((h.handled env entry).transmitted env.callback _ _).sends hsends

/-- **The node's own adapter data are the answers to health requests.**
SOURCE: Mesh.cpp:563-604, 639-677, Serial_Adapter.cpp:153-158 -/
theorem handleEntry_own_iff (h : NodeRuns d) (env : DeviceEnv) (entry : RecvQueueEntry) :
    ownFrames d (deviceAfter (d.handleEntry env entry)) = [] ↔ ¬Answered d env entry := by
  have hmac : (handled d env entry).mesh.deviceMacAddress = d.mesh.deviceMacAddress :=
    (handleEntry_sameNode d.mesh env.handler entry).deviceMacAddress
  cases handleEntry_drained h env entry with
  | relayed hask hsends =>
      have hquiet : ownFrames d (deviceAfter (d.handleEntry env entry)) = [] :=
        ownFrames_eq_nil (hsends.mono fun f hf => not_ownData_of_relayed hf).sent
      have hnot : ¬Answered d env entry := by
        rintro ⟨htype, hasked, hserial, hgate, hdelivers, -⟩
        exact hask ⟨handleEntry_calls_iff.mpr ⟨htype, hgate, hdelivers⟩, hasked, hserial⟩
      exact iff_of_true hquiet hnot
  | reported hcall hask hserial hsends =>
      obtain ⟨htype, hgate, hdelivers⟩ := handleEntry_calls_iff.mp hcall
      have hnode : (handled d env entry).mesh.isMaster = false := (h.handled env entry).isMaster
      have hanswered : Answered d env entry ↔ sentFrames ((handled d env entry).mesh.transmit
          env.callback AdapterTypes.serialAdapter
            ((handled d env entry).healthReport env.callback)).2 ≠ [] := by
        rw [transmit_sends_iff hnode, handled, reachesMaster_of_handled htype hgate]
        exact ⟨fun hyes => hyes.2.2.2.2.2,
          fun hroute => ⟨htype, hask, hserial, hgate, hdelivers, hroute⟩⟩
      obtain ⟨frames, hsent, hframes⟩ := hsends.sent
      have hown := transmit_own hnode env.callback AdapterTypes.serialAdapter
        ((handled d env entry).healthReport env.callback)
      rw [hanswered, ne_eq, not_not, ownFrames, hsent, reported, LatticeNodes.Analysis.transmitted]
      rw [hmac] at hown
      generalize sentFrames ((handled d env entry).mesh.transmit env.callback
        AdapterTypes.serialAdapter ((handled d env entry).healthReport env.callback)).2 = report
        at hown ⊢
      show ((List.drop d.sent.length ((d.sent ++ report) ++ frames)).map Prod.snd).filter _ = [] ↔ _
      rw [List.append_assoc, List.drop_left, List.map_append, List.filter_append,
        List.append_eq_nil_iff, List.filter_eq_nil_iff, List.filter_eq_nil_iff]
      constructor
      · rintro ⟨hnone, -⟩
        refine List.eq_nil_iff_forall_not_mem.mpr fun f hf => ?_
        exact hnone f.2 (List.mem_map_of_mem hf) (decide_eq_true (hown f hf))
      · rintro rfl
        refine ⟨fun msg hmsg => (List.not_mem_nil hmsg).elim, fun msg hmsg => ?_⟩
        obtain ⟨f, hf, rfl⟩ := List.mem_map.mp hmsg
        simpa using not_ownData_of_relayed (hframes f hf)

end Node

end LatticeNodes.Analysis
