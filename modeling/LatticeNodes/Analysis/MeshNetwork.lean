import LatticeNodes.Analysis.PeerCalls
import LatticeNodes.Analysis.RelayStages
import LatticeNodes.Library.TransitionSystem

/-!
# A network of nodes

Any number of nodes that originate messages, drain frames, and dispatch pending relays.  A frame
that was sent stays available: it may reach any node its address admits, late, again, or never,
so that every order, loss and reordering is a run.

Every frame carries the history of where it comes from: which message it is a copy of, and
through how many relays.  `CopyOf` compares the history with what the frame itself says;
`relay_keeps_content` is the result.
-/

set_option autoImplicit false

namespace LatticeNodes.Analysis

open LatticeNodes.Program TransitionSystem

namespace MeshNetwork

/-! ## Originating calls -/

/-- The calls that build a message of their own. -/
inductive Call where
  | transmit (type : AdapterTypes) (data : Payload)
  | broadcastAdapterData (type : AdapterTypes) (data : Payload)
  | broadcastMasterBeacon
  | sendEnrollmentRequest
  | enrollPeer (tls : Mbedtls) (mac : MacAddress) (publicKey : Key)

def Call.run (m : Mesh) (env : Env) : Call → Mesh × List Effect
  | .transmit type data => m.transmit env type data
  | .broadcastAdapterData type data => m.broadcastAdapterData env type data
  | .broadcastMasterBeacon => m.broadcastMasterBeacon env
  | .sendEnrollmentRequest => (m, m.sendEnrollmentRequest env)
  | .enrollPeer tls mac publicKey => m.enrollPeer tls env mac publicKey

/-- A call changes the peer table, the radio's registry, and the counters of what it sends. -/
theorem Call.run_frame (m : Mesh) (env : Env) (c : Call) :
    (c.run m env).1 =
      { m with
        peers := (c.run m env).1.peers
        espNowPeers := (c.run m env).1.espNowPeers
        txSeqNum := (c.run m env).1.txSeqNum
        lastBeaconMillis := (c.run m env).1.lastBeaconMillis } := by
  cases c with
  | transmit type data =>
      simp only [Call.run, Mesh.transmit]
      split
      · rfl
      · rfl
  | broadcastAdapterData type data => rfl
  | broadcastMasterBeacon =>
      simp only [Call.run]
      rw [broadcastMasterBeacon_frame]
  | sendEnrollmentRequest => rfl
  | enrollPeer tls mac publicKey =>
      simp only [Call.run]
      rw [enrollPeer_frame]

/-- SOURCE: Mesh.cpp:776-779 -/
def broadcastFrame (m : Mesh) (type : AdapterTypes) (data : Payload) : MeshMessage :=
  { (m.buildMessage type (some data) MeshMessageType.adapterData).1 with
    targetMacAddress := broadcastMac }

/-- SOURCE: Mesh.cpp:690-693 -/
def beaconFrame (m : Mesh) : MeshMessage :=
  let built :=
    (m.buildMessage AdapterTypes.unknownAdapter none MeshMessageType.masterBeacon).1
  { built with data := built.data.set 0 1 byte0_lt, hopCount := 0 }

/-- The message a call builds. -/
def Call.frame (m : Mesh) : Call → MeshMessage
  | .transmit type data =>
      if m.isMaster then broadcastFrame m type data
      else (m.buildMessage type (some data) MeshMessageType.adapterData).1
  | .broadcastAdapterData type data => broadcastFrame m type data
  | .broadcastMasterBeacon => beaconFrame m
  | .sendEnrollmentRequest => m.enrollmentRequest
  | .enrollPeer _ mac publicKey => m.joinAck mac publicKey

/-- A call leaves the deferred relay and the replay cache alone. -/
structure Undisturbed (m m' : Mesh) : Prop where
  kept : RelayKept m m'
  replayCache : m'.replayCache = m.replayCache

instance (m m' : Mesh) : Decidable (Undisturbed m m') :=
  decidable_of_iff (RelayKept m m' ∧ m'.replayCache = m.replayCache)
    ⟨fun ⟨hkept, hcache⟩ => ⟨hkept, hcache⟩, fun ⟨hkept, hcache⟩ => ⟨hkept, hcache⟩⟩

/-- Doing nothing disturbs nothing. -/
theorem Undisturbed.refl (m : Mesh) : Undisturbed m m :=
  ⟨RelayKept.refl m, rfl⟩

/-- The call sends copies of one message, and does nothing else to the relays. -/
structure Originates (m : Mesh) (frame : MeshMessage) (result : Mesh × List Effect) : Prop where
  undisturbed : Undisturbed m result.1
  frames : ∀ f ∈ sentFrames result.2, f.2 = frame

/-- Sending nothing is no message of its own. -/
theorem Originates.nothing (m : Mesh) (frame : MeshMessage) : Originates m frame (m, []) := by
  refine ⟨Undisturbed.refl m, fun f hf => ?_⟩
  cases hf

/-- A broadcast sends the one frame that was built. -/
theorem originates_broadcast {m m' : Mesh} {env : Env} {frame : MeshMessage}
    (h : Undisturbed m m') : Originates m frame (m', Mesh.espNowBroadcast env frame) := by
  refine ⟨h, fun f hf => ?_⟩
  rw [espNowBroadcast_frames hf]

/-- An enrollment sends the acknowledgement.
SOURCE: Mesh.cpp:1035-1075 -/
theorem enrollPeer_originates (m : Mesh) (tls : Mbedtls) (env : Env) (mac : MacAddress)
    (publicKey : Key) :
    Originates m (m.joinAck mac publicKey) (m.enrollPeer tls env mac publicKey) := by
  have hundisturbed : Undisturbed m (m.enrollPeer tls env mac publicKey).1 := by
    rw [enrollPeer_frame]
    exact ⟨⟨rfl, rfl, rfl, fun h => ⟨h, rfl⟩⟩, rfl⟩
  refine ⟨hundisturbed, fun f hf => ?_⟩
  rw [enrollPeer_eq] at hf
  split at hf
  · cases hf
  · next t _ =>
    have hsaved : sentFrames (.savePeerList t.records t.entries.length ::
        ((reregister { m with peers := t } tls env mac publicKey).2 ++ Mesh.espNowBroadcast env
          ((reregister { m with peers := t } tls env mac publicKey).1.joinAck mac publicKey))) =
        sentFrames (Mesh.espNowBroadcast env
          ((reregister { m with peers := t } tls env mac publicKey).1.joinAck mac
            publicKey)) := by
      show sentFrames (_ ++ _) = _
      rw [sentFrames_append, reregister, registerPeerWithEspNow_silent, List.nil_append]
    rw [hsaved] at hf
    rw [espNowBroadcast_frames hf, reregister_frame]
    rfl

/-- A broadcast of adapter data sends them.
SOURCE: Mesh.cpp:776-780 -/
theorem broadcastAdapterData_originates (m : Mesh) (env : Env) (type : AdapterTypes)
    (data : Payload) :
    Originates m (broadcastFrame m type data) (m.broadcastAdapterData env type data) := by
  refine ⟨⟨⟨rfl, rfl, rfl, fun h => ⟨h, rfl⟩⟩, rfl⟩, fun f hf => ?_⟩
  unfold Mesh.broadcastAdapterData Mesh.broadcastToAllPeers at hf
  simp only at hf
  split at hf
  · cases hf
  · exact sendToPeers_frames hf

/-- A transmission sends the message that was built.
SOURCE: Mesh.cpp:667-677 -/
theorem transmit_originates (m : Mesh) (env : Env) (type : AdapterTypes) (data : Payload) :
    Originates m (Call.frame m (.transmit type data)) (m.transmit env type data) := by
  unfold Mesh.transmit
  simp only [Call.frame]
  split
  · exact broadcastAdapterData_originates m env type data
  · refine ⟨⟨⟨rfl, rfl, rfl, fun h => ⟨h, rfl⟩⟩, rfl⟩, fun f hf => ?_⟩
    rw [routeToMaster_frames hf, Mesh.addressToMaster, if_pos rfl]
    rfl

/-- A beacon sends the beacon.
SOURCE: Mesh.cpp:684-703 -/
theorem broadcastMasterBeacon_originates (m : Mesh) (env : Env) :
    Originates m (beaconFrame m) (m.broadcastMasterBeacon env) := by
  unfold Mesh.broadcastMasterBeacon
  split
  · exact Originates.nothing m _
  · apply originates_broadcast
    exact ⟨⟨rfl, rfl, rfl, fun h => ⟨h, rfl⟩⟩, rfl⟩

/-- **Every frame of a call is the message it builds.** -/
theorem Call.run_originates (m : Mesh) (env : Env) (c : Call) :
    Originates m (c.frame m) (c.run m env) := by
  cases c with
  | transmit type data => exact transmit_originates m env type data
  | broadcastAdapterData type data => exact broadcastAdapterData_originates m env type data
  | broadcastMasterBeacon => exact broadcastMasterBeacon_originates m env
  | sendEnrollmentRequest => exact originates_broadcast (Undisturbed.refl m)
  | enrollPeer tls mac publicKey => exact enrollPeer_originates m tls env mac publicKey

/-- A message starts with no hops, from the node that built it. -/
theorem Call.frame_origin (m : Mesh) (c : Call) :
    (c.frame m).hopCount = 0 ∧ (c.frame m).lastHopMacAddress = m.deviceMacAddress ∧
      (c.frame m).originMacAddress = m.deviceMacAddress ∧
      ((c.frame m).protoVersion = 0 ∨ (c.frame m).protoVersion = Config.protoVersion) := by
  cases c with
  | transmit type data =>
      simp only [Call.frame]
      split
      · exact ⟨rfl, rfl, rfl, .inr rfl⟩
      · exact ⟨rfl, rfl, rfl, .inr rfl⟩
  | broadcastAdapterData type data => exact ⟨rfl, rfl, rfl, .inr rfl⟩
  | broadcastMasterBeacon => exact ⟨rfl, rfl, rfl, .inr rfl⟩
  | sendEnrollmentRequest => exact ⟨rfl, rfl, rfl, .inl rfl⟩
  | enrollPeer tls mac publicKey => exact ⟨rfl, rfl, rfl, .inl rfl⟩

/-! ## The network -/

/-- A frame that was sent, with its history: it is a copy of message `origin`, `relays` relays
later. -/
structure Flight (n : ℕ) where
  transmitter : Fin n
  target : MacAddress
  msg : MeshMessage
  origin : ℕ
  relays : ℕ

/-- A message as it was built. -/
structure Built (n : ℕ) where
  builder : Fin n
  call : Call
  frame : MeshMessage

/-- A drained entry: the message it is a copy of, whether it passed the gate, and whether the
send loop of `relayDownlink` is where it then leads. -/
structure Drained where
  origin : ℕ
  msg : MeshMessage
  passed : Bool
  relayable : Bool

/-- The nodes and what they have sent.  `pendingOf` is the history of a pending relay,
`drained` what a node has drained, newest first. -/
structure State (n : ℕ) where
  mesh : Fin n → Mesh
  flights : List (Flight n)
  built : List (Built n)
  pendingOf : Fin n → ℕ × ℕ
  drained : Fin n → List Drained

inductive Event (n : ℕ) where
  | call (v : Fin n) (env : Env) (c : Call)
  /-- Node `v` drains a copy of frame `i`. -/
  | deliver (v : Fin n) (i : ℕ) (env : Env)
  /-- `loop()` dispatches the pending relay. -/
  | dispatch (v : Fin n) (env : Env)
  /-- Any other work: the routes, roles, peers and keys may change. -/
  | work (v : Fin n) (m' : Mesh)

section Network

variable {n : ℕ}

def flightsOf (v : Fin n) (origin relays : ℕ) (effects : List Effect) : List (Flight n) :=
  (sentFrames effects).map fun f => ⟨v, f.1, f.2, origin, relays⟩

def State.originate (s : State n) (v : Fin n) (env : Env) (c : Call) : State n :=
  let result := c.run (s.mesh v) env
  { s with
    mesh := Function.update s.mesh v result.1
    flights := s.flights ++ flightsOf v s.built.length 0 result.2
    built := s.built ++ [⟨v, c, c.frame (s.mesh v)⟩] }

/-- The entry that the frame becomes in the receive queue. -/
def State.entryOf (s : State n) (f : Flight n) : RecvQueueEntry :=
  ⟨(s.mesh f.transmitter).deviceMacAddress, f.msg⟩

def State.drain (s : State n) (v : Fin n) (env : Env) (f : Flight n) : State n :=
  let result := (s.mesh v).handleEntry env (s.entryOf f)
  { s with
    mesh := Function.update s.mesh v result.1
    flights := s.flights ++ flightsOf v f.origin (f.relays + 1) result.2
    pendingOf :=
      if SchedulesEntry (s.mesh v) env (s.entryOf f) then
        Function.update s.pendingOf v (f.origin, f.relays + 1)
      else s.pendingOf
    drained := Function.update s.drained v
      (⟨f.origin, f.msg, ((s.mesh v).passGate f.msg).isSome, Relayable (s.mesh v) f.msg⟩ ::
        s.drained v) }

def State.dispatchAt (s : State n) (v : Fin n) (env : Env) : State n :=
  let result := (s.mesh v).dispatchRelay env
  { s with
    mesh := Function.update s.mesh v result.1
    flights := s.flights ++ flightsOf v (s.pendingOf v).1 (s.pendingOf v).2 result.2 }

/-- A frame reaches the nodes its address admits. -/
def Admits (mac : MacAddress) (f : Flight n) : Prop :=
  f.target = broadcastMac ∨ f.target = mac

instance (mac : MacAddress) (f : Flight n) : Decidable (Admits mac f) :=
  inferInstanceAs (Decidable (_ ∨ _))

def step (s : State n) : Event n → Option (State n)
  | .call v env c => some (s.originate v env c)
  | .deliver v i env =>
      s.flights[i]?.bind fun f =>
        if Admits (s.mesh v).deviceMacAddress f then some (s.drain v env f) else none
  | .dispatch v env => some (s.dispatchAt v env)
  | .work v m' =>
      if Undisturbed (s.mesh v) m' then
        some { s with mesh := Function.update s.mesh v m' }
      else none

end Network

/-- Nothing was sent yet, and nothing waits to be relayed. -/
structure Start {n : ℕ} (s : State n) : Prop where
  flights : s.flights = []
  built : s.built = []
  noRelay : ∀ v, (s.mesh v).relayPending = false
  drained : ∀ v, s.drained v = []

def system (n : ℕ) : System (State n) (Event n) where
  Init := Start
  step := step

/-! ## Copies -/

/-- The message is a copy of message `origin`, `relays` relays later, sent by the node with
address `mac`. -/
structure CopyOf {n : ℕ} (built : List (Built n)) (mac : MacAddress) (origin relays : ℕ)
    (msg : MeshMessage) : Prop where
  content : ∃ b, built[origin]? = some b ∧ msg.SameContent b.frame
  hopCount : msg.hopCount.toNat = relays
  bounded : relays ≤ Config.maxHops.toNat
  lastHop : msg.lastHopMacAddress = mac

section Copies

variable {n : ℕ} {built : List (Built n)} {mac : MacAddress} {origin relays : ℕ}
  {msg : MeshMessage}

/-- More messages that are built leave a copy one. -/
theorem CopyOf.extend (h : CopyOf built mac origin relays msg) {built' : List (Built n)}
    (hextends : built <+: built') : CopyOf built' mac origin relays msg := by
  obtain ⟨b, hb, hsame⟩ := h.content
  obtain ⟨more, rfl⟩ := hextends
  refine ⟨⟨b, ?_, hsame⟩, h.hopCount, h.bounded, h.lastHop⟩
  obtain ⟨hlt, -⟩ := List.getElem?_eq_some_iff.mp hb
  rw [List.getElem?_append_left hlt]
  exact hb

/-- **The relay copy of a copy.**  The hop guard keeps the 8-bit counter from wrapping. -/
theorem CopyOf.relayCopy (h : CopyOf built mac origin relays msg)
    (hhop : msg.hopCount < Config.maxHops) (mac' : MacAddress) :
    CopyOf built mac' origin (relays + 1) (msg.relayCopy mac') := by
  have hlt : msg.hopCount.toNat < Config.maxHops.toNat := UInt8.lt_iff_toNat_lt.mp hhop
  have hmax : Config.maxHops.toNat = 10 := rfl
  have hrelays := h.hopCount
  refine ⟨h.content, ?_, by omega, rfl⟩
  have hnext : (msg.hopCount + 1).toNat = (msg.hopCount.toNat + 1) % 2 ^ 8 := UInt8.toNat_add _ _
  calc (msg.relayCopy mac').hopCount.toNat = (msg.hopCount.toNat + 1) % 2 ^ 8 := hnext
    _ = relays + 1 := by omega

/-- A message that was just built is a copy of itself, relayed by nobody. -/
theorem copyOf_built {m : Mesh} (v : Fin n) (c : Call) (hmac : m.deviceMacAddress = mac) :
    CopyOf (built ++ [⟨v, c, c.frame m⟩]) mac built.length 0 (c.frame m) := by
  obtain ⟨hhop, hlast, -, -⟩ := c.frame_origin m
  refine ⟨⟨⟨v, c, c.frame m⟩, ?_, rfl⟩, ?_, Nat.zero_le _, hlast.trans hmac⟩
  · exact List.getElem?_concat_length
  · rw [hhop]
    rfl

end Copies

/-! ## The invariant -/

/-- The message is the one its call built at that node. -/
def BuiltBy {n : ℕ} (mesh : Fin n → Mesh) (b : Built n) : Prop :=
  ∃ m : Mesh, m.deviceMacAddress = (mesh b.builder).deviceMacAddress ∧ b.frame = b.call.frame m

/-- What is in flight and what waits to be relayed are copies of what was built. -/
structure Faithful {n : ℕ} (s : State n) : Prop where
  flights : ∀ f ∈ s.flights,
    CopyOf s.built (s.mesh f.transmitter).deviceMacAddress f.origin f.relays f.msg
  pending : ∀ v, (s.mesh v).relayPending = true →
    CopyOf s.built (s.mesh v).deviceMacAddress (s.pendingOf v).1 (s.pendingOf v).2
      (s.mesh v).relayPendingMsg
  built : ∀ b ∈ s.built, BuiltBy s.mesh b

section Runs

variable {n : ℕ} {s : State n}

/-- Only node `v` changes, and only `v` sends. -/
structure OnlyAt (s : State n) (v : Fin n) (s' : State n) : Prop where
  mesh : ∀ w, w ≠ v → s'.mesh w = s.mesh w
  deviceMacAddress : (s'.mesh v).deviceMacAddress = (s.mesh v).deviceMacAddress
  pendingOf : ∀ w, w ≠ v → s'.pendingOf w = s.pendingOf w
  built : s.built <+: s'.built

/-- A step of one node keeps all addresses. -/
theorem OnlyAt.macs {v : Fin n} {s' : State n} (h : OnlyAt s v s') (w : Fin n) :
    (s'.mesh w).deviceMacAddress = (s.mesh w).deviceMacAddress := by
  by_cases hw : w = v
  · rw [hw, h.deviceMacAddress]
  · rw [h.mesh w hw]

/-- The node stays faithful when what it sends and keeps pending are copies of what was
built. -/
theorem Faithful.install (h : Faithful s) {v : Fin n} {s' : State n} (hat : OnlyAt s v s')
    (hbuilt : ∀ b ∈ s'.built, b ∈ s.built ∨ BuiltBy s.mesh b)
    (hflights : ∀ f ∈ s'.flights, f ∈ s.flights ∨ f.transmitter = v ∧
      CopyOf s'.built (s.mesh v).deviceMacAddress f.origin f.relays f.msg)
    (hpending : (s'.mesh v).relayPending = true →
      CopyOf s'.built (s.mesh v).deviceMacAddress (s'.pendingOf v).1 (s'.pendingOf v).2
        (s'.mesh v).relayPendingMsg) : Faithful s' := by
  refine ⟨?_, ?_, ?_⟩
  · intro f hf
    rw [hat.macs]
    rcases hflights f hf with hold | ⟨hfrom, hcopy⟩
    · exact (h.flights f hold).extend hat.built
    · rw [hfrom]
      exact hcopy
  · intro w hw
    rw [hat.macs]
    by_cases hv : w = v
    · subst hv
      exact hpending hw
    · rw [hat.mesh w hv] at hw ⊢
      rw [hat.pendingOf w hv]
      exact (h.pending w hw).extend hat.built
  · intro b hb
    obtain ⟨m, hm, hframe⟩ : BuiltBy s.mesh b := (hbuilt b hb).elim (h.built b) id
    exact ⟨m, hm.trans (hat.macs b.builder).symm, hframe⟩

/-- What a relay that is kept, or sent, must be a copy of. -/
theorem Faithful.pending_of_kept (h : Faithful s) {v : Fin n} {m' : Mesh}
    (hkept : RelayKept (s.mesh v) m') (hpending : m'.relayPending = true) :
    CopyOf s.built (s.mesh v).deviceMacAddress (s.pendingOf v).1 (s.pendingOf v).2
      m'.relayPendingMsg := by
  obtain ⟨hbefore, hmsg⟩ := hkept.pending hpending
  rw [hmsg]
  exact h.pending v hbefore

/-- The flights a node adds are copies when its frames are. -/
theorem mem_flights_append {f : Flight n} {v : Fin n} {effects : List Effect}
    {built : List (Built n)} {origin relays : ℕ}
    (hsent : ∀ g ∈ sentFrames effects,
      CopyOf built (s.mesh v).deviceMacAddress origin relays g.2)
    (hf : f ∈ s.flights ++ flightsOf v origin relays effects) :
    f ∈ s.flights ∨ f.transmitter = v ∧
      CopyOf built (s.mesh v).deviceMacAddress f.origin f.relays f.msg := by
  rcases List.mem_append.mp hf with hold | hnew
  · exact .inl hold
  · obtain ⟨g, hg, rfl⟩ := List.mem_map.mp hnew
    exact .inr ⟨rfl, hsent g hg⟩

/-- An originating call. -/
theorem Faithful.originate (h : Faithful s) (v : Fin n) (env : Env) (c : Call) :
    Faithful (s.originate v env c) := by
  have hcall := c.run_originates (s.mesh v) env
  have hself : (s.originate v env c).mesh v = (c.run (s.mesh v) env).1 :=
    Function.update_self v _ s.mesh
  have hat : OnlyAt s v (s.originate v env c) := by
    refine ⟨fun w hw => Function.update_of_ne hw _ _, ?_, fun w _ => rfl,
      List.prefix_append _ _⟩
    rw [hself]
    exact hcall.undisturbed.kept.deviceMacAddress
  apply h.install hat
  · intro b hb
    rcases List.mem_append.mp hb with hold | hnew
    · exact .inl hold
    · rw [List.mem_singleton.mp hnew]
      exact .inr ⟨s.mesh v, rfl, rfl⟩
  · intro f hf
    refine mem_flights_append (fun g hg => ?_) hf
    rw [hcall.frames g hg]
    exact copyOf_built v c rfl
  · intro hpending
    rw [hself] at hpending ⊢
    exact (h.pending_of_kept hcall.undisturbed.kept hpending).extend hat.built

/-- A drained frame.
SOURCE: Mesh.cpp:563-604 -/
theorem Faithful.drain (h : Faithful s) (v : Fin n) (env : Env) {f : Flight n}
    (hf : f ∈ s.flights) : Faithful (s.drain v env f) := by
  have hcopy := h.flights f hf
  have hself : (s.drain v env f).mesh v = ((s.mesh v).handleEntry env (s.entryOf f)).1 :=
    Function.update_self v _ s.mesh
  have hpendingOf : (s.drain v env f).pendingOf =
      if SchedulesEntry (s.mesh v) env (s.entryOf f) then
        Function.update s.pendingOf v (f.origin, f.relays + 1) else s.pendingOf := rfl
  have hat : OnlyAt s v (s.drain v env f) := by
    refine ⟨fun w hw => Function.update_of_ne hw _ _, ?_, fun w hw => ?_, List.prefix_refl _⟩
    · rw [hself]
      exact (handleEntry_sameNode (s.mesh v) env (s.entryOf f)).deviceMacAddress
    · rw [hpendingOf]
      split
      · exact Function.update_of_ne hw _ _
      · rfl
  apply h.install hat
  · exact fun b hb => .inl hb
  · intro g hg
    refine mem_flights_append (fun sent hsent => ?_) hg
    obtain ⟨hhop, hmsg⟩ := handleEntry_frames hsent
    rw [hmsg]
    exact hcopy.relayCopy hhop _
  · intro hpending
    rw [hself] at hpending ⊢
    rw [hpendingOf]
    rcases handleEntry_relay (s.mesh v) env (s.entryOf f) with ⟨hyes, hdone⟩ | ⟨hno, hkept⟩
    · rw [if_pos hyes, Function.update_self, hdone.pending.2, hdone.deviceMacAddress]
      exact hcopy.relayCopy hdone.hopCount _
    · rw [if_neg hno]
      exact h.pending_of_kept hkept hpending

/-- A dispatched relay.
SOURCE: Mesh.cpp:1099-1105 -/
theorem Faithful.dispatchAt (h : Faithful s) (v : Fin n) (env : Env) :
    Faithful (s.dispatchAt v env) := by
  have hself : (s.dispatchAt v env).mesh v = ((s.mesh v).dispatchRelay env).1 :=
    Function.update_self v _ s.mesh
  have hkept := dispatchRelay_relayKept (s.mesh v) env
  have hat : OnlyAt s v (s.dispatchAt v env) := by
    refine ⟨fun w hw => Function.update_of_ne hw _ _, ?_, fun w _ => rfl, List.prefix_refl _⟩
    rw [hself]
    exact hkept.deviceMacAddress
  apply h.install hat
  · exact fun b hb => .inl hb
  · intro f hf
    refine mem_flights_append (fun g hg => ?_) hf
    obtain ⟨hpending, rfl⟩ := dispatchRelay_frames hg
    exact h.pending v hpending
  · intro hpending
    rw [hself] at hpending ⊢
    exact h.pending_of_kept hkept hpending

/-- Any other work. -/
theorem Faithful.work (h : Faithful s) (v : Fin n) {m' : Mesh} (hwork : Undisturbed (s.mesh v) m') :
    Faithful { s with mesh := Function.update s.mesh v m' } := by
  have hself : Function.update s.mesh v m' v = m' := Function.update_self v _ s.mesh
  have hat : OnlyAt s v { s with mesh := Function.update s.mesh v m' } := by
    refine ⟨fun w hw => Function.update_of_ne hw _ _, ?_, fun w _ => rfl, List.prefix_refl _⟩
    simp only [hself]
    exact hwork.kept.deviceMacAddress
  apply h.install hat
  · exact fun b hb => .inl hb
  · exact fun f hf => .inl hf
  · intro hpending
    simp only [hself] at hpending ⊢
    exact h.pending_of_kept hwork.kept hpending

/-- One case for each event. -/
theorem Faithful.step {s' : State n} {e : Event n} (h : Faithful s) (hstep : step s e = some s') :
    Faithful s' := by
  cases e with
  | call v env c =>
      cases hstep
      exact h.originate v env c
  | deliver v i env =>
      obtain ⟨f, hf, hdrain⟩ := Option.bind_eq_some_iff.mp hstep
      simp only [Option.ite_none_right_eq_some, Option.some.injEq] at hdrain
      obtain ⟨-, rfl⟩ := hdrain
      exact h.drain v env (List.mem_of_getElem? hf)
  | dispatch v env =>
      cases hstep
      exact h.dispatchAt v env
  | work v m' =>
      simp only [MeshNetwork.step, Option.ite_none_right_eq_some, Option.some.injEq] at hstep
      obtain ⟨hwork, rfl⟩ := hstep
      exact h.work v hwork

/-- **Copies are faithful in every reachable state.** -/
theorem faithful_of_reachable (h : (system n).Reachable s) : Faithful s := by
  refine h.invariant ?_ fun s e s' hs hstep => hs.step hstep
  intro s hs
  refine ⟨?_, ?_, ?_⟩
  · intro f hf
    rw [hs.flights] at hf
    cases hf
  · intro v hv
    rw [hs.noRelay v] at hv
    cases hv
  · intro b hb
    rw [hs.built] at hb
    cases hb

/-! ## Result -/

/-- **Relaying preserves content and is hop-bounded.**  Every frame sent is the message its
node built, hop count and last hop apart; the hop count is the number of relays, at most
`MAX_HOPS`; the last hop is the node that sent it.
SOURCE: Mesh.cpp:639-665, 831-980 -/
theorem relay_keeps_content (h : (system n).Reachable s) {f : Flight n} (hf : f ∈ s.flights) :
    ∃ b, s.built[f.origin]? = some b ∧ BuiltBy s.mesh b ∧ f.msg.SameContent b.frame ∧
      f.msg.hopCount.toNat = f.relays ∧ f.relays ≤ Config.maxHops.toNat ∧
      f.msg.lastHopMacAddress = (s.mesh f.transmitter).deviceMacAddress := by
  have hfaithful := faithful_of_reachable h
  have hcopy := hfaithful.flights f hf
  obtain ⟨b, hb, hsame⟩ := hcopy.content
  exact ⟨b, hb, hfaithful.built b (List.mem_of_getElem? hb), hsame, hcopy.hopCount,
    hcopy.bounded, hcopy.lastHop⟩

end Runs

/-! ## Two nodes -/

instance pair_neZero : NeZero 2 := ⟨by decide⟩

def pairMac (v : Fin 2) : MacAddress := Vector.replicate 6 (UInt8.ofNat (v.val + 1))

/-- A master and a node that are each other's peers. -/
def pairMesh (v : Fin 2) : Mesh :=
  { Mesh.new with
    deviceMacAddress := pairMac v
    peers := PeerTable.empty.appendPeer ⟨pairMac (v + 1), zeroKey, 0⟩
    isMaster := v = 0
    bootEpoch := 1 }

def pairState : State 2 where
  mesh := pairMesh
  flights := []
  built := []
  pendingOf := fun _ => (0, 0)
  drained := fun _ => []

/-- The pair is a start. -/
theorem start_pairState : Start pairState :=
  ⟨rfl, rfl, fun _ => rfl, fun _ => rfl⟩

def newMac : MacAddress := Vector.replicate 6 7

/-- The master approves a third node; the acknowledgement goes from the master to the node, back
to the master, and to the node again. -/
def ackEvents : List (Event 2) :=
  [.call 0 quietEnv (.enrollPeer plainTls newMac zeroKey), .deliver 1 0 quietEnv,
    .deliver 0 1 quietEnv, .deliver 1 2 quietEnv]

/-- An acknowledgement that was relayed twice still is what was built. -/
theorem relay_keeps_content_ack :
    ∃ s f, (system 2).Reachable s ∧ f ∈ s.flights ∧ f.relays = 2 ∧
      ∃ b, s.built[f.origin]? = some b ∧ BuiltBy s.mesh b ∧ f.msg.SameContent b.frame ∧
        f.msg.hopCount.toNat = f.relays ∧ f.relays ≤ Config.maxHops.toNat ∧
        f.msg.lastHopMacAddress = (s.mesh f.transmitter).deviceMacAddress := by
  have hrun : ∃ s f, (system 2).runFrom pairState ackEvents = some s ∧ s.flights[2]? = some f ∧
      f.relays = 2 :=
    ⟨_, _, rfl, rfl, rfl⟩
  obtain ⟨s, f, hrun, hf, hrelays⟩ := hrun
  have hreach := System.Reachable.runFrom (.init start_pairState) hrun
  have hmem := List.mem_of_getElem? hf
  exact ⟨s, f, hreach, hmem, hrelays, relay_keeps_content hreach hmem⟩

end MeshNetwork

end LatticeNodes.Analysis
