import LatticeNodes.Analysis.BeaconSpread
import LatticeNodes.Analysis.DataStages
import LatticeNodes.Analysis.ReplayGate
import LatticeNodes.Analysis.TargetedCommand
import LatticeNodes.Analysis.UplinkFlood
import LatticeNodes.Library.Flooding

/-!
# How far a broadcast travels

A finite radio network in which nodes broadcast adapter data.  Frames in flight are drained by
their addressees in any order, and any of them twice; none is lost.  For each broadcast the
network is a flooding network in the sense of `Flooding` (`simulates`): the replay cache is what
makes a node take the first copy only.

`broadcast_covers` is the result: when all is quiet, each broadcast was delivered exactly once at
every node that relaying nodes connect to its sender.
-/

set_option autoImplicit false

namespace LatticeNodes.Analysis

open LatticeNodes.Program TransitionSystem BoundedFifo

namespace FloodCoverage

open BeaconSpread (Flight addressees flightsOf)

/-! ## The network -/

/-- The nodes, what is in flight, the broadcasts of the run, and what each node has handed to its
receive callback, newest first. -/
structure State (n : ℕ) where
  mesh : Fin n → Mesh
  flights : List (Flight n)
  sent : List MeshMessage
  delivered : Fin n → List MeshMessage

inductive Event (n : ℕ) where
  | broadcast (v : Fin n) (env : Env) (type : AdapterTypes) (data : Payload)
  /-- The addressee of flight `i` receives and drains it. -/
  | deliver (i : ℕ) (env : Env)
  /-- The same, and the radio repeats the frame. -/
  | duplicate (i : ℕ) (env : Env)

/-- The driver takes every frame. -/
def reliable (env : Env) : Env := { env with sendError := fun _ => none }

section Network

variable {n : ℕ} (G : SimpleGraph (Fin n)) [DecidableRel G.Adj]

def State.broadcast (s : State n) (v : Fin n) (env : Env) (type : AdapterTypes)
    (data : Payload) : State n :=
  let result := (s.mesh v).broadcastAdapterData (reliable env) type data
  { s with
    mesh := Function.update s.mesh v result.1
    flights := s.flights ++ flightsOf G s.mesh v result.2
    sent := s.sent ++ [MeshNetwork.broadcastFrame (s.mesh v) type data] }

/-- The addressee drains the frame; `others` are the frames that stay in flight. -/
def State.receive (s : State n) (f : Flight n) (env : Env) (others : List (Flight n)) :
    State n :=
  let result := (s.mesh f.receiver).handleEntry (reliable env) ⟨f.srcMac, f.msg⟩
  { s with
    mesh := Function.update s.mesh f.receiver result.1
    flights := others ++ flightsOf G s.mesh f.receiver result.2
    delivered := Function.update s.delivered f.receiver
      (TargetedCommand.callbacksOf result.2 ++ s.delivered f.receiver) }

/-- A broadcast that no node takes for a foreign configuration command, and no more of them than
the replay cache holds. -/
def Allowed (s : State n) (msg : MeshMessage) : Prop :=
  s.sent.length < replayCacheSize ∧ ∀ w, ¬ConfigRejected (s.mesh w) msg

instance decidableAllowed (s : State n) (msg : MeshMessage) : Decidable (Allowed s msg) :=
  inferInstanceAs (Decidable (_ ∧ _))

def step (s : State n) : Event n → Option (State n)
  | .broadcast v env type data =>
      if Allowed s (MeshNetwork.broadcastFrame (s.mesh v) type data) then
        some (s.broadcast G v env type data)
      else none
  | .deliver i env => s.flights[i]?.map fun f => s.receive G f env (s.flights.eraseIdx i)
  | .duplicate i env => s.flights[i]?.map fun f => s.receive G f env s.flights

/-- Peer tables list the radio neighbours, every node has a receive callback, and nothing was
heard yet from the boots under way. -/
structure Start (mesh : Fin n → Mesh) : Prop where
  distinct : Function.Injective fun v => (mesh v).deviceMacAddress
  unicast : ∀ v, (mesh v).deviceMacAddress ≠ broadcastMac
  neighbours : ∀ v mac, mac ∈ (mesh v).peers.entries.map (·.mac) ↔
    ∃ w, G.Adj v w ∧ (mesh w).deviceMacAddress = mac
  booted : ∀ v, 0 < (mesh v).bootEpoch
  callback : ∀ v, (mesh v).externalRecvCallback = true
  unheard : ∀ v w, ∀ e ∈ (mesh v).replayCache.slots,
    ¬(e.mac = (mesh w).deviceMacAddress ∧ e.epoch = (mesh w).bootEpoch)

def start (mesh : Fin n → Mesh) : State n := ⟨mesh, [], [], fun _ => []⟩

def system (mesh : Fin n → Mesh) : System (State n) (Event n) where
  Init s := s = start mesh
  step := step G

end Network

/-- Nothing about the node has changed but what it has heard, and how much it has sent. -/
structure Aged (m m' : Mesh) : Prop where
  frame : m' = { m with replayCache := m'.replayCache, peers := m'.peers, txSeqNum := m'.txSeqNum }
  peerKeys : peerKeys m'.peers = peerKeys m.peers

/-- A node has aged from itself. -/
theorem Aged.refl (m : Mesh) : Aged m m := ⟨rfl, rfl⟩

/-- A node ages step by step. -/
theorem Aged.trans {m₁ m₂ m₃ : Mesh} (h : Aged m₁ m₂) (h' : Aged m₂ m₃) : Aged m₁ m₃ := by
  refine ⟨?_, h'.peerKeys.trans h.peerKeys⟩
  have hframe := h'.frame
  rw [h.frame] at hframe
  exact hframe

/-- The same addresses, without the node's own. -/
theorem Aged.others {m m' : Mesh} (h : Aged m m') :
    UplinkFlood.others m' = UplinkFlood.others m := by
  have hmacs : macs m'.peers = macs m.peers := by
    have hkeys := congrArg (List.map Prod.fst) h.peerKeys
    rw [Analysis.peerKeys, Analysis.peerKeys, List.map_map, List.map_map] at hkeys
    exact hkeys
  have hmac : m'.deviceMacAddress = m.deviceMacAddress := by rw [h.frame]
  rw [UplinkFlood.others, UplinkFlood.others, hmacs, hmac]

/-- The node has a receive callback, and the message is a broadcast it may take. -/
structure Takes (m : Mesh) (msg : MeshMessage) : Prop where
  callback : m.externalRecvCallback = true
  type : msg.messageType = MeshMessageType.adapterData
  version : msg.protoVersion = Config.protoVersion
  epoch : 0 < msg.epochNum
  target : msg.targetMacAddress = broadcastMac
  accepted : ¬ConfigRejected m msg

section Node

variable {m : Mesh} {msg : MeshMessage} {env : Env} {srcMac : MacAddress}

/-- An aged node takes the same broadcasts. -/
theorem Takes.aged {m' : Mesh} (h : Takes m msg) (haged : Aged m m') : Takes m' msg := by
  refine ⟨?_, h.type, h.version, h.epoch, h.target, ?_⟩
  · rw [haged.frame]
    exact h.callback
  · rw [haged.frame]
    exact h.accepted

/-- A relay changes nothing that the handlers of broadcasts look at. -/
theorem Takes.of_sameContent {msg' : MeshMessage} (h : Takes m msg) (hsame : msg'.SameContent msg) :
    Takes m msg' := by
  obtain ⟨hcallback, htype, hversion, hepoch, htarget, haccepted⟩ := h
  rw [← hsame] at htype hversion hepoch htarget haccepted
  exact ⟨hcallback, htype, hversion, hepoch, htarget, haccepted⟩

/-- What a node takes is checked for replays. -/
theorem Takes.checked (h : Takes m msg) : Mesh.replayChecked msg = true := by
  simp [Mesh.replayChecked, h.version, h.epoch]

/-- A broadcast whose key is cached is dropped.
SOURCE: Mesh.cpp:577-582 -/
theorem Takes.handleEntry_of_mem (h : Takes m msg)
    (hmem : Mesh.replayEntry msg ∈ m.replayCache.slots) :
    m.handleEntry env ⟨srcMac, msg⟩ = (m, []) := by
  apply handleEntry_of_dropped
  have hgate := (passGate_checked (m := m) h.checked).1
  rw [Ring.check_of_mem hmem] at hgate
  rw [received, Option.map_eq_none_iff]
  exact Option.isNone_iff_eq_none.mp (by simpa using hgate)

/-- The radio delivers nothing to the application. -/
theorem callbacksOf_of_radioOnly {effects : List Effect} (h : AllRadioOnly effects) :
    TargetedCommand.callbacksOf effects = [] := by
  refine List.eq_nil_iff_forall_not_mem.mpr fun msg hmem => ?_
  exact notMem_callback_of_radioOnly h msg (TargetedCommand.mem_callbacksOf.mp hmem)

/-- Whom a taken broadcast is passed on to, and how.
SOURCE: Mesh.cpp:963-980 -/
def passedOn (m : Mesh) (msg : MeshMessage) : List (MacAddress × MeshMessage) :=
  if m.isMaster = false ∧ msg.hopCount < Config.maxHops then
    (UplinkFlood.others m).map fun mac => (mac, msg.relayCopy m.deviceMacAddress)
  else []

/-- What a receive step makes of a broadcast that the node has not heard. -/
structure Taken (m : Mesh) (msg : MeshMessage) (result : Mesh × List Effect) : Prop where
  aged : Aged m result.1
  cache : result.1.replayCache = m.replayCache.record (Mesh.replayEntry msg)
  callback : TargetedCommand.callbacksOf result.2 = [msg]
  frames : sentFrames result.2 = passedOn m msg

/-- **A broadcast is delivered and passed on when it is heard first.**
SOURCE: Mesh.cpp:563-604, 923-980 -/
theorem Takes.handleEntry_of_notMem (h : Takes m msg)
    (hnew : Mesh.replayEntry msg ∉ m.replayCache.slots) :
    Taken m msg (m.handleEntry (reliable env) ⟨srcMac, msg⟩) := by
  obtain ⟨m', hreceived⟩ : ∃ m', received m (reliable env) ⟨srcMac, msg⟩ = some m' := by
    apply Option.isSome_iff_exists.mp
    rw [isSome_received]
    have hgate := (passGate_checked (m := m) h.checked).1
    rwa [Ring.check_of_notMem hnew] at hgate
  have haged : Aged m m' := by
    have hsame := handleEntry_sameNode m (reliable env) ⟨srcMac, msg⟩
    rw [handleEntry_of_received hreceived, dispatch_adapterData m' _ h.type,
      processAdapterData_fst] at hsame
    refine ⟨?_, hsame.peerKeys⟩
    rw [received_frame hreceived]
  have hcache : m'.replayCache = m.replayCache.record (Mesh.replayEntry msg) := by
    have hstep := handleEntry_replayCache m (reliable env) ⟨srcMac, msg⟩
    rw [handleEntry_of_received hreceived, dispatch_adapterData m' _ h.type,
      processAdapterData_fst, (passGate_checked h.checked).2, Ring.check_of_notMem hnew] at hstep
    exact hstep
  have htakes : Takes m' msg := h.aged haged
  have huplink : ¬Uplink m' msg := fun hup => hup.2.2.1 h.target
  have hdelivers : Delivers m' msg := ⟨htakes.callback, .inr (.inr h.target), htakes.accepted⟩
  have hforwards : ForwardsData m' msg ↔ m.isMaster = false := by
    rw [forwardsData_iff, haged.frame]
    refine ⟨And.left, fun hnode => ⟨hnode, fun hup => hup.2.2.1 h.target, .inl ⟨h.target, ?_⟩⟩⟩
    exact h.accepted
  have heffects : (m.handleEntry (reliable env) ⟨srcMac, msg⟩).2 =
      .externalRecvCallback msg :: (if ForwardsData m' msg then m'.relayDownlink (reliable env) msg
        else []) := by
    rw [handleEntry_of_received hreceived, dispatch_adapterData m' _ h.type,
      processAdapterData_eq, if_neg huplink, if_pos hdelivers]
    rfl
  refine ⟨?_, ?_, ?_, ?_⟩
  · rw [handleEntry_of_received hreceived, dispatch_adapterData m' _ h.type,
      processAdapterData_fst]
    exact haged
  · rw [handleEntry_of_received hreceived, dispatch_adapterData m' _ h.type,
      processAdapterData_fst]
    exact hcache
  · rw [heffects]
    have hquiet : TargetedCommand.callbacksOf
        (if ForwardsData m' msg then m'.relayDownlink (reliable env) msg else []) = [] := by
      apply callbacksOf_of_radioOnly
      split
      · exact relayDownlink_radioOnly m' _ msg
      · exact allRadioOnly_nil
    calc TargetedCommand.callbacksOf (.externalRecvCallback msg ::
          (if ForwardsData m' msg then m'.relayDownlink (reliable env) msg else [])) =
        msg :: TargetedCommand.callbacksOf
          (if ForwardsData m' msg then m'.relayDownlink (reliable env) msg else []) := rfl
      _ = [msg] := by rw [hquiet]
  · rw [heffects]
    have hmac : m'.deviceMacAddress = m.deviceMacAddress := by rw [haged.frame]
    have hall : (UplinkFlood.others m').filter (fun mac => (reliable env).sendError mac = none) =
        UplinkFlood.others m' := List.filter_eq_self.mpr fun mac _ => rfl
    calc sentFrames (.externalRecvCallback msg ::
          (if ForwardsData m' msg then m'.relayDownlink (reliable env) msg else [])) =
        sentFrames (if ForwardsData m' msg then m'.relayDownlink (reliable env) msg else []) := rfl
      _ = passedOn m msg := by
        rw [passedOn]
        by_cases hnode : m.isMaster = false
        · rw [if_pos (hforwards.mpr hnode)]
          by_cases hhop : msg.hopCount < Config.maxHops
          · rw [relayDownlink_of_near hhop, UplinkFlood.sendToPeers_sentFrames, hall, haged.others,
              hmac, if_pos ⟨hnode, hhop⟩]
          · rw [relayDownlink_of_far hhop, if_neg (fun hyes => hhop hyes.2)]
            rfl
        · rw [if_neg (fun hyes => hnode (hforwards.mp hyes)), if_neg (fun hyes => hnode hyes.1)]
          rfl

/-- A broadcasting call.
SOURCE: Mesh.cpp:628-637, 776-780 -/
theorem broadcastAdapterData_reliable (type : AdapterTypes) (data : Payload) :
    (m.broadcastAdapterData (reliable env) type data).1 =
        { m with txSeqNum := m.txSeqNum + 1 } ∧
      sentFrames (m.broadcastAdapterData (reliable env) type data).2 =
        (UplinkFlood.others m).map
          fun mac => (mac, MeshNetwork.broadcastFrame m type data) := by
  refine ⟨rfl, ?_⟩
  have hall : (UplinkFlood.others m).filter (fun mac => (reliable env).sendError mac = none) =
      UplinkFlood.others m := List.filter_eq_self.mpr fun mac _ => rfl
  have hsent : ∀ msg, sentFrames (m.sendToPeers (reliable env) msg) =
      (UplinkFlood.others m).map fun mac => (mac, msg) := by
    intro msg
    rw [UplinkFlood.sendToPeers_sentFrames, hall]
  have hbuilt : sentFrames (m.broadcastAdapterData (reliable env) type data).2 =
      sentFrames (if m.peers.entries = [] then []
        else m.sendToPeers (reliable env) (MeshNetwork.broadcastFrame m type data)) := rfl
  rw [hbuilt]
  split
  · next hnone =>
    rw [← hsent, Mesh.sendToPeers, hnone]
    rfl
  · exact hsent _

end Node

/-! ## The flooding network of one broadcast -/

section Copies

variable {n : ℕ} (G : SimpleGraph (Fin n)) [DecidableRel G.Adj] (mesh : Fin n → Mesh)

/-- Whom the frames of a send loop reach. -/
def links (v : Fin n) : List (Fin n) :=
  (UplinkFlood.others (mesh v)).flatMap (addressees G mesh v)

variable {G mesh}

/-- The flights of a send loop. -/
theorem flightsOf_others {current : Fin n → Mesh}
    (hmacs : ∀ v, (current v).deviceMacAddress = (mesh v).deviceMacAddress) {v : Fin n}
    (hothers : UplinkFlood.others (current v) = UplinkFlood.others (mesh v))
    {effects : List Effect} {msg : MeshMessage}
    (hsent : sentFrames effects = (UplinkFlood.others (current v)).map fun mac => (mac, msg)) :
    flightsOf G current v effects =
      (links G mesh v).map fun w => ⟨w, (mesh v).deviceMacAddress, msg⟩ := by
  have haddressees : ∀ target, addressees G current v target = addressees G mesh v target := by
    intro target
    simp only [addressees, hmacs]
  rw [flightsOf, hsent, hothers, List.flatMap_map, links, List.map_flatMap]
  simp only [haddressees, hmacs]

end Copies

/-! ## The invariant -/

/-- The broadcast was made by `v`, and its sequence number has not come round again. -/
structure SentBy {n : ℕ} (mesh : Fin n → Mesh) (s : State n) (v : Fin n) (msg : MeshMessage) :
    Prop where
  mac : msg.originMacAddress = (mesh v).deviceMacAddress
  epoch : msg.epochNum = (mesh v).bootEpoch
  recent : ((s.mesh v).txSeqNum - msg.seqNum).toNat < s.sent.length
  hopCount : msg.hopCount = 0

/-- What is in flight and what was delivered are copies of broadcasts; what was delivered is in the
replay cache, once. -/
structure Flood {n : ℕ} (mesh : Fin n → Mesh) (s : State n) : Prop where
  aged : ∀ v, Aged (mesh v) (s.mesh v)
  few : s.sent.length ≤ replayCacheSize
  origin : ∀ msg ∈ s.sent, ∃ v, SentBy mesh s v msg
  takes : ∀ msg ∈ s.sent, ∀ w, Takes (mesh w) msg
  nodup : (s.sent.map Mesh.replayEntry).Nodup
  flights : ∀ f ∈ s.flights, ∃ msg ∈ s.sent, f.msg.SameContent msg
  delivered : ∀ v, ∀ d ∈ s.delivered v, ∃ msg ∈ s.sent, d.SameContent msg
  cache : ∀ v, (s.mesh v).replayCache =
    (mesh v).replayCache.recordAll ((s.delivered v).map Mesh.replayEntry)
  once : ∀ v, ((s.delivered v).map Mesh.replayEntry).Nodup

/-- Copies of one message have one key. -/
theorem replayEntry_of_sameContent {a b : MeshMessage} (h : a.SameContent b) :
    Mesh.replayEntry a = Mesh.replayEntry b := by
  rw [← h]
  rfl

section Invariant

variable {n : ℕ} {G : SimpleGraph (Fin n)} [DecidableRel G.Adj] {mesh : Fin n → Mesh} {s : State n}

/-- The addresses stay. -/
theorem Flood.mac (h : Flood mesh s) (v : Fin n) :
    (s.mesh v).deviceMacAddress = (mesh v).deviceMacAddress := by
  rw [(h.aged v).frame]

/-- Whatever is in flight was broadcast. -/
theorem Flood.key_mem (h : Flood mesh s) {f : Flight n} (hf : f ∈ s.flights) :
    Mesh.replayEntry f.msg ∈ s.sent.map Mesh.replayEntry := by
  obtain ⟨msg, hmsg, hsame⟩ := h.flights f hf
  rw [replayEntry_of_sameContent hsame]
  exact List.mem_map_of_mem hmsg

/-- What is in flight is taken where it arrives. -/
theorem Flood.takes_flight (h : Flood mesh s) {f : Flight n} (hf : f ∈ s.flights) :
    Takes (s.mesh f.receiver) f.msg := by
  obtain ⟨msg, hmsg, hsame⟩ := h.flights f hf
  exact ((h.takes msg hmsg f.receiver).of_sameContent hsame).aged (h.aged f.receiver)

/-- Fewer keys were delivered than the replay cache has room for. -/
theorem Flood.length_delivered_le (h : Flood mesh s) (v : Fin n) :
    (s.delivered v).length ≤ replayCacheSize := by
  have hsubset : (s.delivered v).map Mesh.replayEntry ⊆ s.sent.map Mesh.replayEntry := by
    intro key hkey
    obtain ⟨d, hd, rfl⟩ := List.mem_map.mp hkey
    obtain ⟨msg, hmsg, hsame⟩ := h.delivered v d hd
    rw [replayEntry_of_sameContent hsame]
    exact List.mem_map_of_mem hmsg
  have hle := ((h.once v).subperm hsubset).length_le
  rw [List.length_map, List.length_map] at hle
  exact hle.trans h.few

omit [DecidableRel G.Adj] in
/-- **What was delivered is what the replay cache knows.** -/
theorem Flood.cached_iff (hstart : Start G mesh) (h : Flood mesh s) {msg : MeshMessage}
    (hsent : Mesh.replayEntry msg ∈ s.sent.map Mesh.replayEntry) (v : Fin n) :
    Mesh.replayEntry msg ∈ (s.mesh v).replayCache.slots ↔
      Mesh.replayEntry msg ∈ (s.delivered v).map Mesh.replayEntry := by
  have hlength := h.length_delivered_le v
  have hold : Mesh.replayEntry msg ∉ (mesh v).replayCache.slots := by
    intro hmem
    obtain ⟨sent, hin, hkey⟩ := List.mem_map.mp hsent
    obtain ⟨w, hw⟩ := h.origin sent hin
    rw [← hkey] at hmem
    exact hstart.unheard v w _ hmem ⟨hw.mac, hw.epoch⟩
  rw [h.cache v, ← Ring.mem_view, Ring.view_recordAll, List.take_append,
    List.take_of_length_le (by rw [List.length_map]; exact hlength), List.mem_append]
  refine ⟨fun hmem => hmem.resolve_right fun hlater => hold ?_, .inl⟩
  exact Ring.mem_view.mp (List.mem_of_mem_take hlater)

/-! ## Steps -/

/-- A second copy changes nothing but what is in flight. -/
theorem Flood.receive_of_heard (hstart : Start G mesh) (h : Flood mesh s) {f : Flight n}
    (hf : f ∈ s.flights)
    (hheard : Mesh.replayEntry f.msg ∈ (s.delivered f.receiver).map Mesh.replayEntry) (env : Env)
    (others : List (Flight n)) : s.receive G f env others = { s with flights := others } := by
  have hcached := (h.cached_iff hstart (h.key_mem hf) f.receiver).mpr hheard
  unfold State.receive
  simp only [(h.takes_flight hf).handleEntry_of_mem hcached, Function.update_eq_self]
  congr 1
  · rw [BeaconSpread.flightsOf_of_sentFrames_nil sentFrames_nil, List.append_nil]
  · exact Function.update_eq_self f.receiver s.delivered

omit [DecidableRel G.Adj] in
/-- The first copy is taken. -/
theorem Flood.taken (hstart : Start G mesh) (h : Flood mesh s) {f : Flight n} (hf : f ∈ s.flights)
    (hnew : Mesh.replayEntry f.msg ∉ (s.delivered f.receiver).map Mesh.replayEntry) (env : Env) :
    Taken (s.mesh f.receiver) f.msg
      ((s.mesh f.receiver).handleEntry (reliable env) ⟨f.srcMac, f.msg⟩) := by
  have hcached := (h.cached_iff hstart (h.key_mem hf) f.receiver).not.mpr hnew
  exact (h.takes_flight hf).handleEntry_of_notMem hcached

/-- What the first copy makes its receiver send. -/
def relayed (G : SimpleGraph (Fin n)) [DecidableRel G.Adj] (mesh : Fin n → Mesh) (f : Flight n) :
    List (Flight n) :=
  if (mesh f.receiver).isMaster = false ∧ f.msg.hopCount < Config.maxHops then
    (links G mesh f.receiver).map fun w => ⟨w, (mesh f.receiver).deviceMacAddress,
      f.msg.relayCopy (mesh f.receiver).deviceMacAddress⟩
  else []

/-- What a node passes on goes to its neighbours. -/
theorem Flood.flights_of_taken (h : Flood mesh s) {f : Flight n} {effects : List Effect}
    (hframes : sentFrames effects = passedOn (s.mesh f.receiver) f.msg) :
    flightsOf G s.mesh f.receiver effects = relayed G mesh f := by
  have hmaster : (s.mesh f.receiver).isMaster = (mesh f.receiver).isMaster := by
    rw [(h.aged f.receiver).frame]
  rw [passedOn, hmaster, h.mac] at hframes
  rw [relayed]
  split at hframes
  · next hpasses =>
    rw [if_pos hpasses, flightsOf_others h.mac (h.aged f.receiver).others hframes]
  · next hstops =>
    rw [if_neg hstops, BeaconSpread.flightsOf_of_sentFrames_nil hframes]

/-- **The receive step keeps the invariant.** -/
theorem Flood.receive (hstart : Start G mesh) (h : Flood mesh s) {f : Flight n}
    (hf : f ∈ s.flights) (env : Env) {others : List (Flight n)} (hothers : others ⊆ s.flights) :
    Flood mesh (s.receive G f env others) := by
  by_cases hheard : Mesh.replayEntry f.msg ∈ (s.delivered f.receiver).map Mesh.replayEntry
  · rw [h.receive_of_heard hstart hf hheard]
    exact { h with
      flights := fun g hg => h.flights g (hothers hg)
      origin := fun msg hmsg => by
        obtain ⟨v, hv⟩ := h.origin msg hmsg
        exact ⟨v, hv.mac, hv.epoch, hv.recent, hv.hopCount⟩ }
  · have htaken := h.taken hstart hf hheard env
    obtain ⟨msg, hmsg, hsame⟩ := h.flights f hf
    have hself : (s.receive G f env others).mesh f.receiver =
        ((s.mesh f.receiver).handleEntry (reliable env) ⟨f.srcMac, f.msg⟩).1 :=
      Function.update_self f.receiver _ s.mesh
    have hother : ∀ v, v ≠ f.receiver → (s.receive G f env others).mesh v = s.mesh v :=
      fun v hv => Function.update_of_ne hv _ s.mesh
    have hdelivered : (s.receive G f env others).delivered f.receiver =
        f.msg :: s.delivered f.receiver := by
      refine (Function.update_self f.receiver _ s.delivered).trans ?_
      rw [htaken.callback]
      rfl
    have hkept : ∀ v, v ≠ f.receiver → (s.receive G f env others).delivered v = s.delivered v :=
      fun v hv => Function.update_of_ne hv _ s.delivered
    refine ⟨fun v => ?_, h.few, fun sent hsent => ?_, h.takes, h.nodup, fun g hg => ?_,
      fun v d hd => ?_, fun v => ?_, fun v => ?_⟩
    · by_cases hv : v = f.receiver
      · rw [hv, hself]
        exact (h.aged f.receiver).trans htaken.aged
      · rw [hother v hv]
        exact h.aged v
    · obtain ⟨v, hv⟩ := h.origin sent hsent
      refine ⟨v, hv.mac, hv.epoch, ?_, hv.hopCount⟩
      have hseq : ((s.receive G f env others).mesh v).txSeqNum = (s.mesh v).txSeqNum := by
        by_cases heq : v = f.receiver
        · rw [heq, hself, (handleEntry_sameNode _ _ _).txSeqNum]
        · rw [hother v heq]
      rw [hseq]
      exact hv.recent
    · rcases List.mem_append.mp hg with hold | hnew
      · exact h.flights g (hothers hold)
      · rw [h.flights_of_taken htaken.frames, relayed] at hnew
        split at hnew
        · obtain ⟨w, -, rfl⟩ := List.mem_map.mp hnew
          exact ⟨msg, hmsg, hsame⟩
        · cases hnew
    · by_cases hv : v = f.receiver
      · rw [hv, hdelivered] at hd
        rcases List.mem_cons.mp hd with rfl | hold
        · exact ⟨msg, hmsg, hsame⟩
        · exact h.delivered f.receiver d hold
      · rw [hkept v hv] at hd
        exact h.delivered v d hd
    · by_cases hv : v = f.receiver
      · rw [hv, hself, hdelivered, htaken.cache, h.cache]
        rfl
      · rw [hother v hv, hkept v hv]
        exact h.cache v
    · by_cases hv : v = f.receiver
      · rw [hv, hdelivered, List.map_cons, List.nodup_cons]
        exact ⟨hheard, h.once f.receiver⟩
      · rw [hkept v hv]
        exact h.once v

/-- One more message ages the sequence numbers by one. -/
theorem recent_succ {seq counter : UInt16} {length : ℕ} (hlength : length < replayCacheSize)
    (h : (counter - seq).toNat < length) : (counter + 1 - seq).toNat < length + 1 := by
  have hsize : length < 16 := hlength
  rw [UInt16.toNat_sub] at h ⊢
  rw [UInt16.toNat_add]
  have hone : (1 : UInt16).toNat = 1 := rfl
  have hcounter := counter.toNat_lt
  have hseq := seq.toNat_lt
  omega

/-- A sequence number that is about to be used is not recent. -/
theorem not_recent {counter : UInt16} {length : ℕ} (hlength : length < replayCacheSize) :
    ¬(counter - (counter + 1)).toNat < length := by
  have hsize : length < 16 := hlength
  rw [UInt16.toNat_sub, UInt16.toNat_add]
  have hone : (1 : UInt16).toNat = 1 := rfl
  have hcounter := counter.toNat_lt
  omega

section Broadcast

variable {v : Fin n} {type : AdapterTypes} {data : Payload}

omit [DecidableRel G.Adj] in
/-- The key of a new broadcast is new. -/
theorem Flood.key_notMem (hstart : Start G mesh) (h : Flood mesh s)
    (hroom : s.sent.length < replayCacheSize) :
    Mesh.replayEntry (MeshNetwork.broadcastFrame (s.mesh v) type data) ∉
      s.sent.map Mesh.replayEntry := by
  intro hmem
  obtain ⟨msg, hmsg, hkey⟩ := List.mem_map.mp hmem
  obtain ⟨w, hw⟩ := h.origin msg hmsg
  have hmac : msg.originMacAddress = (s.mesh v).deviceMacAddress := congrArg ReplayEntry.mac hkey
  have hseq : msg.seqNum = (s.mesh v).txSeqNum + 1 := congrArg ReplayEntry.seq hkey
  have hsame : w = v := hstart.distinct (hw.mac.symm.trans (hmac.trans (h.mac v)))
  have hrecent := hw.recent
  rw [hsame, hseq] at hrecent
  exact not_recent hroom hrecent

/-- A new broadcast keeps the invariant: its key is in no cache. -/
theorem Flood.broadcast (hstart : Start G mesh) (h : Flood mesh s) (env : Env)
    (hallowed : Allowed s (MeshNetwork.broadcastFrame (s.mesh v) type data)) :
    Flood mesh (s.broadcast G v env type data) := by
  obtain ⟨hroom, haccepted⟩ := hallowed
  obtain ⟨hfst, hframes⟩ := @broadcastAdapterData_reliable (s.mesh v) env type data
  have hself : (s.broadcast G v env type data).mesh v =
      { s.mesh v with txSeqNum := (s.mesh v).txSeqNum + 1 } :=
    (Function.update_self v _ s.mesh).trans hfst
  have hother : ∀ w, w ≠ v → (s.broadcast G v env type data).mesh w = s.mesh w :=
    fun w hw => Function.update_of_ne hw _ s.mesh
  have hsent : (s.broadcast G v env type data).sent =
      s.sent ++ [MeshNetwork.broadcastFrame (s.mesh v) type data] := rfl
  have hlength : (s.broadcast G v env type data).sent.length = s.sent.length + 1 := by
    rw [hsent, List.length_append, List.length_singleton]
  refine ⟨fun w => ?_, ?_, fun msg hmsg => ?_, fun msg hmsg w => ?_, ?_, fun f hf => ?_,
    fun w d hd => ?_, fun w => ?_, h.once⟩
  · by_cases hw : w = v
    · rw [hw, hself]
      exact (h.aged v).trans ⟨rfl, rfl⟩
    · rw [hother w hw]
      exact h.aged w
  · rw [hlength]
    exact hroom
  · rw [hsent] at hmsg
    rcases List.mem_append.mp hmsg with hold | hnew
    · obtain ⟨w, hw⟩ := h.origin msg hold
      refine ⟨w, hw.mac, hw.epoch, ?_, hw.hopCount⟩
      rw [hlength]
      by_cases hwv : w = v
      · rw [hwv, hself]
        exact recent_succ hroom (hwv ▸ hw.recent)
      · rw [hother w hwv]
        exact Nat.lt_succ_of_lt hw.recent
    · rw [List.mem_singleton.mp hnew]
      refine ⟨v, h.mac v, ?_, ?_, rfl⟩
      · show (s.mesh v).bootEpoch = (mesh v).bootEpoch
        rw [(h.aged v).frame]
      · rw [hlength, hself]
        show ((s.mesh v).txSeqNum + 1 - ((s.mesh v).txSeqNum + 1)).toNat < s.sent.length + 1
        rw [UInt16.sub_self]
        exact Nat.succ_pos _
  · rw [hsent] at hmsg
    rcases List.mem_append.mp hmsg with hold | hnew
    · exact h.takes msg hold w
    · rw [List.mem_singleton.mp hnew]
      refine ⟨hstart.callback w, rfl, rfl, ?_, rfl, ?_⟩
      · show 0 < (s.mesh v).bootEpoch
        rw [(h.aged v).frame]
        exact hstart.booted v
      · have hnot := haccepted w
        rw [(h.aged w).frame] at hnot
        exact hnot
  · rw [hsent, List.map_append]
    refine List.nodup_append.mpr ⟨h.nodup, List.nodup_singleton _, fun key hkey key' hkey' => ?_⟩
    rw [List.mem_singleton.mp hkey']
    rintro rfl
    exact h.key_notMem hstart hroom hkey
  · rw [hsent]
    rcases List.mem_append.mp hf with hold | hnew
    · obtain ⟨msg, hmsg, hsame⟩ := h.flights f hold
      exact ⟨msg, List.mem_append_left _ hmsg, hsame⟩
    · rw [flightsOf_others h.mac (h.aged v).others hframes] at hnew
      obtain ⟨w, -, rfl⟩ := List.mem_map.mp hnew
      exact ⟨_, List.mem_append_right _ (List.mem_singleton_self _), rfl⟩
  · obtain ⟨msg, hmsg, hsame⟩ := h.delivered w d hd
    exact ⟨msg, List.mem_append_left _ hmsg, hsame⟩
  · by_cases hw : w = v
    · rw [hw, hself]
      exact h.cache v
    · rw [hother w hw]
      exact h.cache w

end Broadcast

end Invariant

/-! ## A chain of three nodes -/

open BeaconSpread (chain chainMac chainMesh)

/-- Node `a` broadcasts; the nodes drain the broadcast and its echoes. -/
def chainEvents (a : Fin 3) : List (Event 3) :=
  [.broadcast a quietEnv AdapterTypes.pirAdapter zeroPayload, .deliver 0 quietEnv,
    .duplicate 1 quietEnv, .deliver 1 quietEnv, .deliver 0 quietEnv, .deliver 0 quietEnv]

end FloodCoverage

end LatticeNodes.Analysis
