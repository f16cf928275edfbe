import LatticeNodes.Analysis.SelfEcho
import LatticeNodes.Analysis.SerialRoundTrip

/-!
# Where a targeted command goes

A network whose master is attached to the server.  The server sends one frame with adapter data
for one address; nothing else is a source of messages.  The handler of the frame drops the address:
a master broadcasts whatever its adapter transmits, so that every node the copies reach is handed
the command.

`delivered_to_target` says what is left of the address: in a run in which nobody sends a copy to a
node other than the target, no other node is handed the command.  `reaches_other` is the converse
for a step of the master.
-/

set_option autoImplicit false

namespace LatticeNodes.Analysis

open LatticeNodes.Program TransitionSystem

namespace TargetedCommand

variable {n : ℕ}

/-! ## The system -/

/-- The frame the server sends, and the node it is attached to. -/
structure Server (n : ℕ) where
  tls : Mbedtls
  master : Fin n
  bytes : List UInt8

/-- The nodes, the copies of the command with the address each was sent to, and who was handed
one. -/
structure State (n : ℕ) where
  device : Fin n → Device
  flights : List (MacAddress × MeshMessage)
  delivered : List (Fin n × MeshMessage)

inductive Event (n : ℕ) where
  /-- The master handles the server's frame. -/
  | command (env : Env)
  /-- Node `v` drains copy `i`. -/
  | deliver (v : Fin n) (i : ℕ) (env : Env) (srcMac : MacAddress)
  /-- Anything else that happens to a node: its timers, its adapter, a restart. -/
  | other (v : Fin n) (d' : Device)

def State.mac (s : State n) (v : Fin n) : MacAddress := (s.device v).mesh.deviceMacAddress

/-- The node with this address hears what is sent to that one. -/
def Hears (mac target : MacAddress) : Prop := target = broadcastMac ∨ target = mac

instance (mac target : MacAddress) : Decidable (Hears mac target) :=
  inferInstanceAs (Decidable (_ ∨ _))

/-- The messages handed to the receive callback. -/
def callbacksOf (effects : List Effect) : List MeshMessage :=
  effects.filterMap fun
    | .externalRecvCallback msg => some msg
    | _ => none

def State.command (s : State n) (server : Server n) (env : Env) (adapter : Adapter) : State n :=
  let d := s.device server.master
  let d' := deviceAfter (d.handleCompleteFrame server.tls env adapter server.bytes)
  { s with
    device := Function.update s.device server.master d'
    flights := s.flights ++ d'.sent.drop d.sent.length }

def State.deliver (s : State n) (v : Fin n) (env : Env) (srcMac : MacAddress)
    (msg : MeshMessage) : State n :=
  let handled := (s.device v).mesh.handleEntry env ⟨srcMac, msg⟩
  { device := Function.update s.device v { s.device v with mesh := handled.1 }
    flights := s.flights ++ sentFrames handled.2
    delivered := s.delivered ++ (callbacksOf handled.2).map fun msg => (v, msg) }

def step (server : Server n) (s : State n) : Event n → Option (State n)
  | .command env => (s.device server.master).adapter.map (s.command server env)
  | .deliver v i env srcMac =>
      s.flights[i]?.bind fun f =>
        if Hears (s.mac v) f.1 then some (s.deliver v env srcMac f.2) else none
  | .other v d' =>
      if d'.mesh.deviceMacAddress = s.mac v ∧ d'.mesh.isMaster = (s.device v).mesh.isMaster then
        some { s with device := Function.update s.device v d' }
      else none

/-- The frame carries adapter data for `target`. -/
def Commands (server : Server n) (target : MacAddress) : Prop :=
  ∃ pb, Pb.decode server.bytes = some pb ∧
    (pb.messageType.toUInt8 : MeshMessageType) = MeshMessageType.adapterData ∧
      pb.targetMacAddress = target

/-- A master attached to the server, and no copy sent yet. -/
structure Start (server : Server n) (s : State n) : Prop where
  isMaster : (s.device server.master).mesh.isMaster = true
  flights : s.flights = []
  delivered : s.delivered = []

def system (server : Server n) : System (State n) (Event n) where
  Init := Start server
  step := step server

/-! ## Statement -/

/-- Among the peers that a frame of this node goes out to, one is heard by a node that is not the
target. -/
def Escapes (s : State n) (target : MacAddress) (m : Mesh) (env : Env) : Prop :=
  ∃ p ∈ m.peers.entries, Reaches m env p.mac ∧
    ∃ w, Hears (s.mac w) p.mac ∧ s.mac w ≠ target

instance (s : State n) (target : MacAddress) (m : Mesh) (env : Env) :
    Decidable (Escapes s target m env) :=
  inferInstanceAs (Decidable (∃ p ∈ m.peers.entries, _ ∧ ∃ _ : Fin n, _ ∧ _))

/-- The master does not send the command to anyone but the target, and no node passes it on to
anyone else. -/
def Aimed (server : Server n) (target : MacAddress) (s : State n) : Event n → Prop
  | .command env => ¬Escapes s target (s.device server.master).mesh env
  | .deliver v i env _ => ∀ f ∈ s.flights[i]?,
      SelfEcho.PassesOn (s.device v).mesh f.2 → ¬Escapes s target (s.device v).mesh env
  | .other _ _ => True

instance (server : Server n) (target : MacAddress) (s : State n) (e : Event n) :
    Decidable (Aimed server target s e) := by
  cases e with
  | command env => exact inferInstanceAs (Decidable (¬_))
  | deliver v i env srcMac =>
      exact inferInstanceAs (Decidable (∀ f ∈ s.flights[i]?, SelfEcho.PassesOn _ f.2 → _))
  | other v d' => exact inferInstanceAs (Decidable True)

/-! ## What the master sends -/

section Command

/-- What a call of the master leaves behind: its peers and role are as before, and new frames are
adapter data for everyone, on their way to a peer. -/
structure Broadcasts (env : Env) (d d' : Device) : Prop where
  peers : d'.mesh.peers = d.mesh.peers
  isMaster : d'.mesh.isMaster = d.mesh.isMaster
  deviceMacAddress : d'.mesh.deviceMacAddress = d.mesh.deviceMacAddress
  sent : ∃ frames, d'.sent = d.sent ++ frames ∧ ∀ g ∈ frames,
    g.2.messageType = MeshMessageType.adapterData ∧ g.2.targetMacAddress = broadcastMac ∧
      ∃ p ∈ d.mesh.peers.entries, Reaches d.mesh env p.mac ∧ g.1 = p.mac

variable {env : Env} {d d' : Device}

/-- A call that sends nothing. -/
theorem Broadcasts.of_eq (hmesh : d'.mesh = d.mesh) (hsent : d'.sent = d.sent) :
    Broadcasts env d d' := by
  refine ⟨by rw [hmesh], by rw [hmesh], by rw [hmesh], [], ?_, fun g hg => ?_⟩
  · rw [hsent, List.append_nil]
  · cases hg

/-- What two steps broadcast, they broadcast together. -/
theorem Broadcasts.trans {d₁ d₂ d₃ : Device} (h : Broadcasts env d₁ d₂)
    (h' : Broadcasts env d₂ d₃) : Broadcasts env d₁ d₃ := by
  obtain ⟨frames, hsent, hframes⟩ := h.sent
  obtain ⟨frames', hsent', hframes'⟩ := h'.sent
  refine ⟨h'.peers.trans h.peers, h'.isMaster.trans h.isMaster,
    h'.deviceMacAddress.trans h.deviceMacAddress, frames ++ frames', ?_, fun g hg => ?_⟩
  · rw [hsent', hsent, List.append_assoc]
  · rcases List.mem_append.mp hg with hg | hg
    · exact hframes g hg
    · obtain ⟨htype, htarget, p, hp, hreaches, haddress⟩ := hframes' g hg
      rw [h.peers] at hp
      refine ⟨htype, htarget, p, hp, ⟨?_, hreaches.2⟩, haddress⟩
      rw [← h.deviceMacAddress]
      exact hreaches.1

/-- `Mesh::broadcastAdapterData` from the device.
SOURCE: Mesh.cpp:776-780 -/
theorem broadcastAdapterData_sent (d : Device) (env : Env) (type : AdapterTypes)
    (data : Payload) :
    ∃ d', d.broadcastAdapterData env type data = .ok d' ∧ Broadcasts env d d' ∧
      d'.sent = d.sent ++ sentFrames (d.mesh.broadcastAdapterData env type data).2 := by
  have hrun := runEffects_radioOnly Device.noCallback
    { d with mesh := (d.mesh.broadcastAdapterData env type data).1 }
    (broadcastAdapterData_radioOnly d.mesh env type data)
  refine ⟨_, hrun, ⟨rfl, rfl, rfl, _, rfl, fun g hg => ?_⟩, rfl⟩
  have hframe := (MeshNetwork.broadcastAdapterData_originates d.mesh env type data).frames g hg
  rw [hframe]
  refine ⟨rfl, rfl, ?_⟩
  simp only [Mesh.broadcastAdapterData, Mesh.broadcastToAllPeers] at hg
  split at hg
  · cases hg
  · exact SelfEcho.sendToPeers_targets hg

/-- A master's transmission is a broadcast.
SOURCE: Mesh.cpp:667-677 -/
theorem transmit_broadcasts (hmaster : d.mesh.isMaster = true) (env : Env) (type : AdapterTypes)
    (data : Payload) : ∃ d', d.transmit env type data = .ok d' ∧ Broadcasts env d d' := by
  obtain ⟨d', hok, hbroadcasts, -⟩ := broadcastAdapterData_sent d env type data
  rw [transmit_of_master hmaster]
  exact ⟨d', hok, hbroadcasts⟩

/-- What a master makes of a transmit power is a broadcast.
SOURCE: Serial_Adapter.cpp:473-500 -/
theorem serialTxPowerSet_broadcasts (d : Device) (env : Env) (msg : MeshMessage) :
    ∃ d', d.serialTxPowerSet env msg = .ok d' ∧ Broadcasts env d d' := by
  unfold Device.serialTxPowerSet
  split
  · exact ⟨d, rfl, Broadcasts.of_eq rfl rfl⟩
  · simp only
    have hsaved : Broadcasts env d
        { d with eeprom := d.eeprom.saveTxPowerPreset msg.data[1] } := Broadcasts.of_eq rfl rfl
    split
    · obtain ⟨d', hok, hbroadcasts, -⟩ := broadcastAdapterData_sent
        { d with eeprom := d.eeprom.saveTxPowerPreset msg.data[1] } env
        AdapterTypes.serialAdapter ((zeroPayload.set 0 Opcode.txPowerSet).set 1 msg.data[1])
      exact ⟨d', hok, hsaved.trans hbroadcasts⟩
    · exact ⟨_, rfl, hsaved⟩

/-- The control opcodes of the frame, on a master.
SOURCE: Serial_Adapter.cpp:428-521 -/
theorem serialControl_broadcasts (hmaster : d.mesh.isMaster = true) (env : Env)
    (msg : MeshMessage) : Broadcasts env d (deviceAfter (d.serialControl env msg)) := by
  unfold Device.serialControl
  split
  · exact Broadcasts.of_eq rfl rfl
  · split
    · obtain ⟨d', hok, hbroadcasts⟩ := transmit_broadcasts hmaster env AdapterTypes.serialAdapter
        (d.healthReport env)
      rw [Device.sendHealthReport, hok]
      exact hbroadcasts
    · split
      · split
        · exact Broadcasts.of_eq rfl rfl
        · exact Broadcasts.of_eq rfl rfl
      · split
        · obtain ⟨d', hok, hbroadcasts⟩ := serialTxPowerSet_broadcasts d env msg
          rw [hok]
          exact hbroadcasts
        · split
          · unfold Device.applyNodeIdSet
            split
            · exact Broadcasts.of_eq rfl rfl
            · exact Broadcasts.of_eq rfl rfl
          · exact Broadcasts.of_eq rfl rfl

/-- The decoded frame, when the server's frame is a command. -/
theorem decode_of_commands {server : Server n} {target : MacAddress}
    (h : Commands server target) (ownMac : MacAddress) :
    ∃ msg, SerialAdapter.decodeMeshMessage ownMac server.bytes = some msg ∧
      msg.messageType = MeshMessageType.adapterData ∧ msg.targetMacAddress = target := by
  obtain ⟨pb, hdecode, htype, htarget⟩ := h
  refine ⟨SerialAdapter.ofPb ownMac pb, ?_, htype, htarget⟩
  rw [SerialAdapter.decodeMeshMessage, hdecode]
  rfl

/-- Adapter data are forwarded, and then looked at for control opcodes. -/
theorem handleCompleteFrame_of_data {tls : Mbedtls} {adapter : Adapter} {bytes : List UInt8}
    {msg : MeshMessage} (hdecode : SerialAdapter.decodeMeshMessage d.wifiMac bytes = some msg)
    (htype : msg.messageType = MeshMessageType.adapterData) :
    d.handleCompleteFrame tls env adapter bytes =
      (if adapter.transmitFnSet then d.transmit env msg.dataType msg.data
        else d.fail ⟨.config, .adapter, 6, "Serial_Adapter: transmit function not set"⟩).bind
          fun d => d.serialControl env msg := by
  have hjoin : ¬msg.messageType = MeshMessageType.joinAck := by
    rw [htype]
    decide
  rw [Device.handleCompleteFrame, hdecode]
  simp only [if_neg hjoin, Device.forwardFrame, if_pos htype]

/-- **A master sends the command to its peers, addressed to everyone.**
SOURCE: Serial_Adapter.cpp:404-426, Mesh.cpp:667-677, 776-780 -/
theorem handleCompleteFrame_broadcasts {server : Server n} {target : MacAddress}
    (h : Commands server target) (hmaster : d.mesh.isMaster = true) (env : Env)
    (adapter : Adapter) : Broadcasts env d
      (deviceAfter (d.handleCompleteFrame server.tls env adapter server.bytes)) := by
  obtain ⟨msg, hdecode, htype, -⟩ := decode_of_commands h d.wifiMac
  rw [handleCompleteFrame_of_data hdecode htype]
  split
  · obtain ⟨d', hok, hbroadcasts⟩ := transmit_broadcasts hmaster env msg.dataType msg.data
    rw [hok]
    exact hbroadcasts.trans
      (serialControl_broadcasts (hbroadcasts.isMaster.trans hmaster) env msg)
  · exact serialControl_broadcasts hmaster env msg

end Command

/-! ## The invariant -/

/-- A copy of the command that only the target hears. -/
structure ForTarget (s : State n) (target : MacAddress) (f : MacAddress × MeshMessage) : Prop where
  heard : ∀ w, Hears (s.mac w) f.1 → s.mac w = target
  messageType : f.2.messageType = MeshMessageType.adapterData
  target : f.2.targetMacAddress = broadcastMac

structure Inv (server : Server n) (target : MacAddress) (s : State n) : Prop where
  isMaster : (s.device server.master).mesh.isMaster = true
  flights : ∀ f ∈ s.flights, ForTarget s target f
  delivered : ∀ r ∈ s.delivered, s.mac r.1 = target

section Steps

variable {server : Server n} {target : MacAddress} {s s' : State n}

/-- Addresses and roles stay as they are. -/
structure SameNodes (s s' : State n) : Prop where
  mac : ∀ w, s'.mac w = s.mac w
  isMaster : ∀ w, (s'.device w).mesh.isMaster = (s.device w).mesh.isMaster

/-- A step of one device keeps the nodes when it keeps address and role. -/
theorem sameNodes_update {v : Fin n} {d' : Device}
    (hdevice : s'.device = Function.update s.device v d')
    (hmac : d'.mesh.deviceMacAddress = s.mac v)
    (hrole : d'.mesh.isMaster = (s.device v).mesh.isMaster) : SameNodes s s' := by
  constructor
  · intro w
    by_cases hw : w = v
    · subst hw
      rw [State.mac, hdevice, Function.update_self, hmac]
    · rw [State.mac, hdevice, Function.update_of_ne hw]
      rfl
  · intro w
    by_cases hw : w = v
    · subst hw
      rw [hdevice, Function.update_self, hrole]
    · rw [hdevice, Function.update_of_ne hw]

/-- A frame for the target stays one. -/
theorem ForTarget.kept (hsame : SameNodes s s') {f : MacAddress × MeshMessage}
    (h : ForTarget s target f) : ForTarget s' target f := by
  refine ⟨fun w hw => ?_, h.messageType, h.target⟩
  rw [hsame.mac] at hw ⊢
  exact h.heard w hw

/-- A frame to a peer does not escape, so only the target hears it. -/
theorem forTarget_of_peer {m : Mesh} {env : Env} (haimed : ¬Escapes s target m env)
    {g : MacAddress × MeshMessage} (htype : g.2.messageType = MeshMessageType.adapterData)
    (htarget : g.2.targetMacAddress = broadcastMac)
    (hpeer : ∃ p ∈ m.peers.entries, Reaches m env p.mac ∧ g.1 = p.mac) : ForTarget s target g := by
  obtain ⟨p, hp, hreaches, haddress⟩ := hpeer
  refine ⟨fun w hw => ?_, htype, htarget⟩
  by_contra hother
  rw [haddress] at hw
  exact haimed ⟨p, hp, hreaches, w, hw, hother⟩

/-- The callbacks among the effects. -/
theorem mem_callbacksOf {effects : List Effect} {msg : MeshMessage} :
    msg ∈ callbacksOf effects ↔ Effect.externalRecvCallback msg ∈ effects := by
  simp only [callbacksOf, List.mem_filterMap]
  constructor
  · rintro ⟨e, he, h⟩
    cases e with
    | externalRecvCallback msg' =>
        cases h
        exact he
    | _ => cases h
  · intro h
    exact ⟨_, h, rfl⟩

/-- A command keeps the nodes. -/
theorem sameNodes_command (hcommands : Commands server target)
    (hmaster : (s.device server.master).mesh.isMaster = true) (env : Env) (adapter : Adapter) :
    SameNodes s (s.command server env adapter) := by
  have hbroadcasts := handleCompleteFrame_broadcasts hcommands hmaster env adapter
  exact sameNodes_update rfl hbroadcasts.deviceMacAddress hbroadcasts.isMaster

/-- A command that does not escape is under way to its target. -/
theorem Inv.command (h : Inv server target s) (hcommands : Commands server target) {env : Env}
    (haimed : ¬Escapes s target (s.device server.master).mesh env) (adapter : Adapter) :
    Inv server target (s.command server env adapter) := by
  have hbroadcasts := handleCompleteFrame_broadcasts hcommands h.isMaster env adapter
  obtain ⟨frames, hsent, hframes⟩ := hbroadcasts.sent
  have hsame := sameNodes_command hcommands h.isMaster env adapter
  have hflights : (s.command server env adapter).flights = s.flights ++ frames := by
    rw [State.command, hsent, List.drop_left]
  refine ⟨(hsame.isMaster _).trans h.isMaster, fun f hf => ?_, fun r hr => ?_⟩
  · rw [hflights] at hf
    rcases List.mem_append.mp hf with hf | hf
    · exact (h.flights f hf).kept hsame
    · obtain ⟨htype, htarget, hpeer⟩ := hframes f hf
      exact (forTarget_of_peer haimed htype htarget hpeer).kept hsame
  · rw [hsame.mac]
    exact h.delivered r hr

/-- A delivery keeps the nodes. -/
theorem sameNodes_deliver (s : State n) (v : Fin n) (env : Env) (srcMac : MacAddress)
    (msg : MeshMessage) : SameNodes s (s.deliver v env srcMac msg) := by
  have hnode := handleEntry_sameNode (s.device v).mesh env ⟨srcMac, msg⟩
  exact sameNodes_update rfl hnode.deviceMacAddress hnode.isMaster

/-- A delivery to the target, or a relay that does not escape, keeps the invariant. -/
theorem Inv.deliver (h : Inv server target s) {v : Fin n} {env : Env} {srcMac : MacAddress}
    {f : MacAddress × MeshMessage} (hf : f ∈ s.flights) (hhears : Hears (s.mac v) f.1)
    (haimed : SelfEcho.PassesOn (s.device v).mesh f.2 →
      ¬Escapes s target (s.device v).mesh env) :
    Inv server target (s.deliver v env srcMac f.2) := by
  have hcopy := h.flights f hf
  have hsame := sameNodes_deliver s v env srcMac f.2
  refine ⟨(hsame.isMaster _).trans h.isMaster, fun g hg => ?_, fun r hr => ?_⟩
  · rcases List.mem_append.mp hg with hg | hg
    · exact (h.flights g hg).kept hsame
    · obtain ⟨hpasses, hpeer⟩ := @SelfEcho.handleEntry_targets (s.device v).mesh env
        ⟨srcMac, f.2⟩ hcopy.messageType hcopy.target g hg
      have hrelay : g.2 = f.2.relayCopy (s.device v).mesh.deviceMacAddress :=
        (handleEntry_frames hg).2
      have htype : g.2.messageType = MeshMessageType.adapterData := by
        rw [hrelay]
        exact hcopy.messageType
      have htarget : g.2.targetMacAddress = broadcastMac := by
        rw [hrelay]
        exact hcopy.target
      exact (forTarget_of_peer (haimed hpasses) htype htarget hpeer).kept hsame
  · rw [hsame.mac]
    rcases List.mem_append.mp hr with hr | hr
    · exact h.delivered r hr
    · obtain ⟨msg, -, rfl⟩ := List.mem_map.mp hr
      exact hcopy.heard v hhears

/-- Every aimed step keeps the invariant. -/
theorem Inv.step (h : Inv server target s) (hcommands : Commands server target) {e : Event n}
    (haimed : Aimed server target s e) (hstep : (system server).step s e = some s') :
    Inv server target s' := by
  cases e with
  | command env =>
      obtain ⟨adapter, -, rfl⟩ := Option.map_eq_some_iff.mp hstep
      exact h.command hcommands haimed adapter
  | deliver v i env srcMac =>
      obtain ⟨f, hf, hdelivered⟩ := Option.bind_eq_some_iff.mp hstep
      simp only [Option.ite_none_right_eq_some, Option.some.injEq] at hdelivered
      obtain ⟨hhears, rfl⟩ := hdelivered
      exact h.deliver (List.mem_of_getElem? hf) hhears (haimed f hf)
  | other v d' =>
      simp only [system, TargetedCommand.step, Option.ite_none_right_eq_some,
        Option.some.injEq] at hstep
      obtain ⟨⟨hmac, hrole⟩, rfl⟩ := hstep
      have hsame : SameNodes s { s with device := Function.update s.device v d' } :=
        sameNodes_update rfl hmac hrole
      refine ⟨(hsame.isMaster _).trans h.isMaster, fun f hf => (h.flights f hf).kept hsame,
        fun r hr => ?_⟩
      rw [hsame.mac]
      exact h.delivered r hr

end Steps

/-! ## Result -/

/-- The runs in which no copy goes out to a node other than the target. -/
def aimedSystem (server : Server n) (target : MacAddress) :
    System (State n) (Event n) :=
  (system server).restrict (fun _ => True) (Aimed server target)

/-- **In a run in which neither the master nor a relaying node sends a copy to anyone else, only
the target is handed the command.**
SOURCE: Serial_Adapter.cpp:404-426, Mesh.cpp:667-677, 776-780, 923-980 -/
theorem delivered_to_target {server : Server n} {target : MacAddress}
    (hcommands : Commands server target) {s : State n}
    (h : (aimedSystem server target).Reachable s) : ∀ r ∈ s.delivered, s.mac r.1 = target := by
  have hinv : Inv server target s := by
    refine h.invariant (fun s hs => ?_) fun s e s' hs hstep => ?_
    · refine ⟨hs.1.isMaster, fun f hf => ?_, fun r hr => ?_⟩
      · rw [hs.1.flights] at hf
        cases hf
      · rw [hs.1.delivered] at hr
        cases hr
    · obtain ⟨haimed, hstep⟩ := System.restrict_step_eq_some_iff.mp hstep
      exact hs.step hcommands haimed hstep
  exact hinv.delivered

/-! ## When the command escapes -/

section Escape

variable {server : Server n} {target : MacAddress} {s : State n} {adapter : Adapter} {env : Env}

/-- The copy that a master with this command sends. -/
def copyOf (m : Mesh) (cmd : MeshMessage) : MeshMessage :=
  MeshNetwork.broadcastFrame m cmd.dataType cmd.data

/-- The copies are in the air behind the step of the master.
SOURCE: Mesh.cpp:627-637, 776-780 -/
theorem mem_flights_command (hmaster : (s.device server.master).mesh.isMaster = true)
    (hset : adapter.transmitFnSet = true) {cmd : MeshMessage}
    (hdecode : SerialAdapter.decodeMeshMessage (s.device server.master).wifiMac server.bytes =
      some cmd)
    (htype : cmd.messageType = MeshMessageType.adapterData) {p : PeerInfo}
    (hp : p ∈ (s.device server.master).mesh.peers.entries)
    (hreaches : Reaches (s.device server.master).mesh env p.mac) :
    (p.mac, copyOf (s.device server.master).mesh cmd) ∈ (s.command server env adapter).flights := by
  generalize hd : s.device server.master = d at *
  obtain ⟨d', hok, hbroadcasts, hsent⟩ :=
    broadcastAdapterData_sent d env cmd.dataType cmd.data
  have hcontrol := serialControl_broadcasts (hbroadcasts.isMaster.trans hmaster) env cmd
  obtain ⟨frames, hframes, -⟩ := hcontrol.sent
  have hafter : (deviceAfter (d.handleCompleteFrame server.tls env adapter server.bytes)).sent =
      d.sent ++ (sentFrames (d.mesh.broadcastAdapterData env cmd.dataType cmd.data).2 ++
        frames) := by
    rw [handleCompleteFrame_of_data hdecode htype, if_pos hset, transmit_of_master hmaster, hok]
    show (deviceAfter (d'.serialControl env cmd)).sent = _
    rw [hframes, hsent, List.append_assoc]
  have hpeers : d.mesh.peers.entries ≠ [] := List.ne_nil_of_mem hp
  have hsends : (p.mac, copyOf d.mesh cmd) ∈
      sentFrames (d.mesh.broadcastAdapterData env cmd.dataType cmd.data).2 := by
    have hloop : (d.mesh.broadcastAdapterData env cmd.dataType cmd.data).2 =
        ((d.mesh.buildMessage cmd.dataType (some cmd.data)
          MeshMessageType.adapterData).2).sendToPeers env (copyOf d.mesh cmd) :=
      if_neg hpeers
    rw [hloop]
    exact SelfEcho.mem_sendToPeers hp hreaches
  rw [State.command, hd, hafter, List.drop_left]
  exact List.mem_append_right _ (List.mem_append_left _ hsends)

/-- A node that hears a copy and lets it through is handed the command.
SOURCE: Mesh.cpp:563-604, 949-961 -/
theorem mem_delivered_deliver {w : Fin n} {msg : MeshMessage} {srcMac : MacAddress}
    (htype : msg.messageType = MeshMessageType.adapterData)
    (hgate : ((s.device w).mesh.passGate msg).isSome = true)
    (hdelivers : Delivers (s.device w).mesh msg) :
    (w, msg) ∈ (s.deliver w env srcMac msg).delivered := by
  have hcallback := (@handleEntry_delivers_iff (s.device w).mesh env ⟨srcMac, msg⟩ htype).mpr
    ⟨hgate, hdelivers⟩
  exact List.mem_append_right _ (List.mem_map_of_mem (mem_callbacksOf.mpr hcallback))

/-- **A command of the master reaches every other node that hears one of its peers' addresses and
lets it through, the target or not.**
SOURCE: Serial_Adapter.cpp:404-426, Mesh.cpp:776-780 -/
theorem reaches_other (hcommands : Commands server target)
    (hmaster : (s.device server.master).mesh.isMaster = true)
    (hadapter : (s.device server.master).adapter = some adapter)
    (hset : adapter.transmitFnSet = true) {cmd : MeshMessage}
    (hdecode : SerialAdapter.decodeMeshMessage (s.device server.master).wifiMac server.bytes =
      some cmd)
    (htype : cmd.messageType = MeshMessageType.adapterData) {p : PeerInfo}
    (hp : p ∈ (s.device server.master).mesh.peers.entries)
    (hreaches : Reaches (s.device server.master).mesh env p.mac) {w : Fin n}
    (hother : w ≠ server.master) (hhears : Hears (s.mac w) p.mac)
    (hgate : ((s.device w).mesh.passGate
      (copyOf (s.device server.master).mesh cmd)).isSome = true)
    (hdelivers : Delivers (s.device w).mesh (copyOf (s.device server.master).mesh cmd)) :
    ∃ es s', (system server).runFrom s es = some s' ∧
      (w, copyOf (s.device server.master).mesh cmd) ∈ s'.delivered ∧ ∀ v, s'.mac v = s.mac v := by
  have hsame := sameNodes_command hcommands hmaster env adapter
  have hmem := mem_flights_command hmaster hset hdecode htype hp hreaches
  generalize hcopy : copyOf (s.device server.master).mesh cmd = copy at *
  obtain ⟨i, hi⟩ := List.getElem?_of_mem hmem
  have hcommand : (system server).step s (.command env) = some (s.command server env adapter) := by
    show (s.device server.master).adapter.map _ = _
    rw [hadapter]
    rfl
  have hkept : (s.command server env adapter).device w = s.device w :=
    Function.update_of_ne hother _ _
  have hdeliver : (system server).step (s.command server env adapter) (.deliver w i env zeroMac) =
      some ((s.command server env adapter).deliver w env zeroMac copy) := by
    show ((s.command server env adapter).flights[i]?).bind _ = _
    rw [hi, Option.bind_some, hsame.mac, if_pos hhears]
  have hcopyType : copy.messageType = MeshMessageType.adapterData := by
    rw [← hcopy]
    rfl
  rw [← hkept] at hgate hdelivers
  refine ⟨[.command env, .deliver w i env zeroMac],
    (s.command server env adapter).deliver w env zeroMac copy, ?_,
    mem_delivered_deliver hcopyType hgate hdelivers, ?_⟩
  · rw [System.runFrom_cons, hcommand, Option.bind_some, System.runFrom_cons, hdeliver]
    rfl
  · intro v
    rw [(sameNodes_deliver _ w env zeroMac copy).mac, hsame.mac]

end Escape

/-! ## Two nodes -/

/-- The master, with one peer. -/
def masterDevice : Device where
  mesh := { Mesh.new with
    deviceMacAddress := Vector.replicate 6 1
    isMaster := true
    bootEpoch := 1
    peers := PeerTable.empty.appendPeer ⟨Vector.replicate 6 2, zeroKey, 0⟩ }
  eeprom := { EepromManager.powerUp blankImage with isInitialized := true }
  adapter := some serialAdapter
  factoryDevMode := false
  wifiMac := Vector.replicate 6 1
  serialOut := []
  sent := []

def nodeDevice : Device :=
  { masterDevice with
    mesh := { Mesh.new with
      deviceMacAddress := Vector.replicate 6 2
      externalRecvCallback := true }
    adapter := some pirAdapter
    wifiMac := Vector.replicate 6 2 }

def pairState : State 2 where
  device := fun v => if v = 0 then masterDevice else nodeDevice
  flights := []
  delivered := []

/-- A command of the server for the node with this address. -/
def commandFrame (b : UInt8) : MeshMessage :=
  { MeshMessage.zero with
    messageType := MeshMessageType.adapterData
    dataType := AdapterTypes.pirAdapter
    targetMacAddress := Vector.replicate 6 b }

def server (b : UInt8) : Server 2 where
  tls := plainTls
  master := 0
  bytes := Pb.encodeFields (SerialAdapter.toPb (commandFrame b))

/-- The pair is a start. -/
theorem start_pair (b : UInt8) : Start (server b) pairState :=
  ⟨rfl, rfl, rfl⟩

/-- The server commands the second node. -/
theorem commands_server (b : UInt8) : Commands (server b) (Vector.replicate 6 b) :=
  ⟨SerialAdapter.toPb (commandFrame b), decode_encodeFields (toPb_canonical _), rfl, rfl⟩

/-- The copy passes the gate. -/
theorem copy_passes (cmd : MeshMessage) :
    (nodeDevice.mesh.passGate (copyOf masterDevice.mesh cmd)).isSome = true := rfl

/-- The copy is delivered. -/
theorem copy_delivers (cmd : MeshMessage) :
    Delivers nodeDevice.mesh (copyOf masterDevice.mesh cmd) := by
  refine ⟨rfl, .inr (.inr rfl), ?_⟩
  rintro ⟨-, hmaster, -⟩
  cases hmaster

/-- The radio takes the peer. -/
theorem peer_reached : Reaches masterDevice.mesh quietEnv (Vector.replicate 6 2) :=
  ⟨by decide, rfl⟩

/-- The network after the master has handled a command. -/
def commanded (b : UInt8) : State 2 := pairState.command (server b) quietEnv serialAdapter

/-- The command leaves the other node as it was. -/
theorem commanded_node (b : UInt8) : (commanded b).device 1 = nodeDevice := by
  have hother : (1 : Fin 2) ≠ (server b).master := by
    show (1 : Fin 2) ≠ 0
    decide
  simp only [commanded, State.command, Function.update_of_ne hother]
  rfl

/-- A command for the master's only peer is handed to it. -/
theorem delivered_to_target_peer :
    ∃ s, (aimedSystem (server 2) (Vector.replicate 6 2)).Reachable s ∧ s.delivered ≠ [] ∧
      ∀ r ∈ s.delivered, s.mac r.1 = Vector.replicate 6 2 := by
  obtain ⟨cmd, hdecode, htype, -⟩ := decode_of_commands (commands_server 2) masterDevice.wifiMac
  have hmem := @mem_flights_command 2 (server 2) pairState serialAdapter quietEnv rfl rfl cmd
    hdecode htype ⟨Vector.replicate 6 2, zeroKey, 0⟩ List.mem_cons_self peer_reached
  obtain ⟨i, hi⟩ := List.getElem?_of_mem hmem
  have haimed : ¬Escapes pairState (Vector.replicate 6 2) masterDevice.mesh quietEnv := by decide
  have hnoPeer : ¬Escapes (commanded 2) (Vector.replicate 6 2) nodeDevice.mesh quietEnv := by
    rintro ⟨p, hp, -⟩
    cases hp
  have hcommand : (aimedSystem (server 2) (Vector.replicate 6 2)).step pairState
      (.command quietEnv) = some (commanded 2) :=
    System.restrict_step_eq_some_iff.mpr ⟨haimed, rfl⟩
  have hhears : Hears ((commanded 2).mac 1) (Vector.replicate 6 2) := by
    rw [State.mac, commanded_node]
    exact .inr rfl
  have hdeliver : (aimedSystem (server 2) (Vector.replicate 6 2)).step (commanded 2)
      (.deliver 1 i quietEnv zeroMac) =
        some ((commanded 2).deliver 1 quietEnv zeroMac (copyOf masterDevice.mesh cmd)) := by
    apply System.restrict_step_eq_some_iff.mpr
    refine ⟨fun f _ _ => ?_, ?_⟩
    · rw [commanded_node]
      exact hnoPeer
    · show ((commanded 2).flights[i]?).bind _ = _
      rw [commanded, hi, Option.bind_some, ← commanded, if_pos hhears]
      rfl
  have hstart : (aimedSystem (server 2) (Vector.replicate 6 2)).Reachable pairState :=
    .init ⟨start_pair 2, trivial⟩
  have hreach := (hstart.step hcommand).step hdeliver
  have hmem' := @mem_delivered_deliver 2 (commanded 2) quietEnv 1 (copyOf masterDevice.mesh cmd)
    zeroMac rfl (by rw [commanded_node]; exact copy_passes cmd)
    (by rw [commanded_node]; exact copy_delivers cmd)
  exact ⟨_, hreach, List.ne_nil_of_mem hmem', delivered_to_target (commands_server 2) hreach⟩

/-- A command for a third node is handed to the master's peer.
SOURCE: Serial_Adapter.cpp:404-426, Mesh.cpp:776-780 -/
theorem not_delivered_to_target :
    ∃ target s, Commands (server 3) target ∧ target ≠ broadcastMac ∧ target ≠ s.mac 0 ∧
      (system (server 3)).Reachable s ∧ ∃ r ∈ s.delivered, s.mac r.1 ≠ target := by
  obtain ⟨cmd, hdecode, htype, -⟩ := decode_of_commands (commands_server 3) masterDevice.wifiMac
  obtain ⟨es, s, hrun, hdelivered, hmac⟩ :=
    @reaches_other 2 (server 3) _ pairState _ quietEnv (commands_server 3) rfl rfl rfl cmd
      hdecode htype
      ⟨Vector.replicate 6 2, zeroKey, 0⟩ List.mem_cons_self peer_reached 1 (by decide) (.inr rfl)
      (copy_passes cmd) (copy_delivers cmd)
  have hreach := System.Reachable.runFrom (.init (start_pair 3)) hrun
  refine ⟨Vector.replicate 6 3, s, commands_server 3, by decide, ?_, hreach, _, hdelivered, ?_⟩
  · rw [hmac]
    decide
  · rw [hmac]
    show pairState.mac 1 ≠ Vector.replicate 6 3
    decide

end TargetedCommand

end LatticeNodes.Analysis
