import LatticeNodes.Analysis.BeaconSpread
import LatticeNodes.Analysis.MeshNetwork
import LatticeNodes.Library.Cascade

/-!
# How much traffic a message makes

The radio network with every kind of message and every originating call.  A node that drains a
frame sends at most one frame for each peer, one hop further on, and a pending relay is sent
once; so the frames that a message sets off form a tree no deeper than `MAX_HOPS`, whatever is
dropped, reordered or looped, and whatever becomes of the routes, roles and peer tables.

`receptions_le` is the account of a run: its receptions are paid for by what was in flight at its
start and by the messages built since.
-/

set_option autoImplicit false

namespace LatticeNodes.Analysis

open LatticeNodes.Program TransitionSystem Cascade

namespace TrafficBound

open BeaconSpread (State Flight flightsOf addressees install)

/-! ## The network -/

inductive Event (n : ℕ) where
  | call (v : Fin n) (env : Env) (c : MeshNetwork.Call)
  /-- The addressee of flight `i` receives and drains it. -/
  | deliver (i : ℕ) (env : Env)
  | lose (i : ℕ)
  /-- `loop()` dispatches the pending relay of a node. -/
  | dispatch (v : Fin n) (env : Env)
  /-- Any other work: the routes, roles, peers and keys may change. -/
  | work (v : Fin n) (m' : Mesh)

section Network

variable {n : ℕ} (G : SimpleGraph (Fin n)) [DecidableRel G.Adj]

def step (s : State n) : Event n → Option (State n)
  | .call v env c => some (install G s v (c.run (s.mesh v) env))
  | .deliver i env =>
      s.flights[i]?.map fun f =>
        install G { s with flights := s.flights.eraseIdx i } f.receiver
          ((s.mesh f.receiver).handleEntry env ⟨f.srcMac, f.msg⟩)
  | .lose i => s.flights[i]?.map fun _ => { s with flights := s.flights.eraseIdx i }
  | .dispatch v env => some (install G s v ((s.mesh v).dispatchRelay env))
  | .work v m' =>
      if MeshNetwork.Undisturbed (s.mesh v) m' then
        some { s with mesh := Function.update s.mesh v m' }
      else none

/-- The network in any state. -/
def system : System (State n) (Event n) where
  Init _ := True
  step := step G

end Network

/-! ## What a run costs -/

def Event.receptions {n : ℕ} : Event n → ℕ
  | .deliver _ _ => 1
  | _ => 0

/-- The frames drained in a run. -/
def receptions {n : ℕ} (es : List (Event n)) : ℕ := (es.map Event.receptions).sum

/-- The frames that one node sends at once, each to everyone in range. -/
def fan (n : ℕ) : ℕ := Config.maxPeers * n

/-- What a frame may set off. -/
def load (n : ℕ) (msg : MeshMessage) : ℕ :=
  tree (fan n) (Config.maxHops.toNat - msg.hopCount.toNat)

/-- What a message may set off. -/
def burst (n : ℕ) : ℕ := fan n * tree (fan n) Config.maxHops.toNat

def Event.income {n : ℕ} : Event n → ℕ
  | .call _ _ _ => burst n
  | _ => 0

/-- The messages built in a run, each with what it may set off. -/
def originated {n : ℕ} (es : List (Event n)) : ℕ := (es.map Event.income).sum

/-- What the pending relay may set off. -/
def waiting (n : ℕ) (m : Mesh) : ℕ := if m.relayPending then n * load n m.relayPendingMsg else 0

/-- What is in flight and what waits to be relayed may set off. -/
def potential {n : ℕ} (s : State n) : ℕ :=
  (s.flights.map fun f => load n f.msg).sum + ∑ v, waiting n (s.mesh v)

/-! ## Frames of one step -/

section Frames

variable {m : Mesh} {env : Env}

/-- A send is one frame at most.
SOURCE: Mesh.cpp:613-625 -/
theorem sendMessage_length_le (m : Mesh) (env : Env) (target : MacAddress) (msg : MeshMessage) :
    (sentFrames (m.sendMessage env target msg)).length ≤ 1 := by
  unfold Mesh.sendMessage
  split
  · exact Nat.zero_le 1
  · split
    · exact Nat.le_refl 1
    · exact Nat.zero_le 1

/-- A broadcast is one frame at most.
SOURCE: Mesh.cpp:698-701 -/
theorem espNowBroadcast_length_le (env : Env) (msg : MeshMessage) :
    (sentFrames (Mesh.espNowBroadcast env msg)).length ≤ 1 := by
  unfold Mesh.espNowBroadcast
  split
  · exact Nat.le_refl 1
  · exact Nat.zero_le 1

/-- A message on its way up is one frame at most.
SOURCE: Mesh.cpp:648-652 -/
theorem routeToMaster_length_le (m : Mesh) (env : Env) (msg : MeshMessage) :
    (sentFrames (m.routeToMaster env msg)).length ≤ 1 := by
  unfold Mesh.routeToMaster
  split
  · split
    · exact sendMessage_length_le m env _ msg
    · exact Nat.zero_le 1
  · exact Nat.zero_le 1

/-- A send loop sends at most one frame for each peer. -/
theorem sendToPeers_length_le (m : Mesh) (env : Env) (msg : MeshMessage) :
    (sentFrames (m.sendToPeers env msg)).length ≤ Config.maxPeers := by
  refine Nat.le_trans ?_ m.peers.bounded
  unfold Mesh.sendToPeers
  induction m.peers.entries with
  | nil => exact Nat.le_refl 0
  | cons p ps ih =>
      rw [List.flatMap_cons, sentFrames_append, List.length_append, List.length_cons]
      have hone : (sentFrames (if p.mac = m.deviceMacAddress then []
          else m.sendMessage env p.mac msg)).length ≤ 1 := by
        split
        · exact Nat.zero_le 1
        · exact sendMessage_length_le m env p.mac msg
      omega

/-- A message passed up is one frame at most. -/
theorem relayUplink_length_le (m : Mesh) (env : Env) (msg : MeshMessage) :
    (sentFrames (m.relayUplink env msg).2).length ≤ 1 := by
  unfold Mesh.relayUplink
  split
  · exact Nat.zero_le 1
  · exact routeToMaster_length_le m env _

/-- SOURCE: Mesh.cpp:563-604 -/
theorem handleEntry_length_le (m : Mesh) (env : Env) (entry : RecvQueueEntry) :
    (sentFrames (m.handleEntry env entry).2).length ≤ Config.maxPeers := by
  have hpeers : 1 ≤ Config.maxPeers := by decide
  rcases handleEntry_floods m env entry with
    ⟨-, -, m', -, -, before, hquiet, heq⟩ | ⟨-, hnone | ⟨m', -, heq⟩⟩
  · rw [heq, sentFrames_append, hquiet, List.nil_append]
    exact sendToPeers_length_le m' env _
  · rw [hnone]
    exact Nat.zero_le _
  · rw [heq]
    exact (relayUplink_length_le m' env entry.msg).trans hpeers

/-- The dispatch of the pending relay sends it once, and then it is no longer pending.
SOURCE: Mesh.cpp:1099-1105 -/
theorem dispatchRelay_cases (m : Mesh) (env : Env) :
    m.dispatchRelay env = (m, []) ∨
      m.relayPending = true ∧ (m.dispatchRelay env).1.relayPending = false ∧
        (sentFrames (m.dispatchRelay env).2).length ≤ 1 := by
  unfold Mesh.dispatchRelay
  split
  · next hdue =>
    right
    refine ⟨(Bool.and_eq_true_iff.mp hdue).1, rfl, ?_⟩
    exact routeToMaster_length_le _ env _
  · exact .inl rfl

/-- A call sends at most one frame for each peer. -/
theorem call_length_le (m : Mesh) (env : Env) (c : MeshNetwork.Call) :
    (sentFrames (c.run m env).2).length ≤ Config.maxPeers := by
  have hpeers : 1 ≤ Config.maxPeers := by decide
  have hbroadcast : ∀ type data,
      (sentFrames (m.broadcastAdapterData env type data).2).length ≤ Config.maxPeers := by
    intro type data
    unfold Mesh.broadcastAdapterData Mesh.broadcastToAllPeers
    simp only
    split
    · exact Nat.zero_le _
    · exact sendToPeers_length_le _ env _
  cases c with
  | transmit type data =>
      simp only [MeshNetwork.Call.run, Mesh.transmit]
      split
      · exact hbroadcast type data
      · exact (routeToMaster_length_le _ env _).trans hpeers
  | broadcastAdapterData type data => exact hbroadcast type data
  | broadcastMasterBeacon =>
      simp only [MeshNetwork.Call.run, Mesh.broadcastMasterBeacon]
      split
      · exact Nat.zero_le _
      · exact (espNowBroadcast_length_le env _).trans hpeers
  | sendEnrollmentRequest => exact (espNowBroadcast_length_le env _).trans hpeers
  | enrollPeer tls mac publicKey =>
      simp only [MeshNetwork.Call.run]
      rw [enrollPeer_eq]
      split
      · exact Nat.zero_le _
      · have hsilent : ∀ (records : List UInt8) (numPeers : ℕ) (rest : List Effect),
            sentFrames (.savePeerList records numPeers :: rest) = sentFrames rest :=
          fun _ _ _ => rfl
        rw [hsilent, sentFrames_append, reregister, registerPeerWithEspNow_silent, List.nil_append]
        exact (espNowBroadcast_length_le env _).trans hpeers

end Frames

/-! ## The account of one step -/

section Account

variable {n : ℕ} {G : SimpleGraph (Fin n)} [DecidableRel G.Adj] {s : State n}

/-- A frame reaches at most everyone. -/
theorem flightsOf_load_le (G : SimpleGraph (Fin n)) [DecidableRel G.Adj] (current : Fin n → Mesh)
    (v : Fin n) {effects : List Effect} {count bound : ℕ}
    (hlength : (sentFrames effects).length ≤ count)
    (hload : ∀ g ∈ sentFrames effects, load n g.2 ≤ bound) :
    ((flightsOf G current v effects).map fun f => load n f.msg).sum ≤ count * n * bound := by
  apply sum_map_le
  · refine length_flatMap_le hlength fun g _ => ?_
    rw [List.length_map]
    calc (addressees G current v g.1).length ≤ (List.finRange n).length :=
          List.length_filter_le _ _
      _ = n := List.length_finRange
  · intro f hf
    obtain ⟨g, hg, hmem⟩ := List.mem_flatMap.mp hf
    obtain ⟨w, -, rfl⟩ := List.mem_map.mp hmem
    exact hload g hg

/-- Replacing one node's mesh object: its pending relay and what it sends are all that changes. -/
theorem potential_install (s : State n) (v : Fin n) (result : Mesh × List Effect) :
    potential (install G s v result) + waiting n (s.mesh v) =
      potential s + waiting n result.1 +
        ((flightsOf G s.mesh v result.2).map fun f => load n f.msg).sum := by
  have hsum := sum_update (waiting n) s.mesh v result.1
  have hflights : ((install G s v result).flights.map fun f => load n f.msg).sum =
      (s.flights.map fun f => load n f.msg).sum +
        ((flightsOf G s.mesh v result.2).map fun f => load n f.msg).sum := by
    rw [install, List.map_append, List.sum_append]
  have hmesh : (install G s v result).mesh = Function.update s.mesh v result.1 := rfl
  rw [potential, potential, hflights, hmesh]
  omega

/-- Work that keeps the pending relay keeps what it may set off. -/
theorem waiting_of_kept {m m' : Mesh} (h : RelayKept m m') : waiting n m' ≤ waiting n m := by
  unfold waiting
  split
  · next hpending =>
    obtain ⟨hbefore, hmsg⟩ := h.pending hpending
    rw [if_pos hbefore, hmsg]
  · exact Nat.zero_le _

/-- The relay copy of a frame has one hop less to go. -/
theorem load_of_near {msg : MeshMessage} (hhop : msg.hopCount < Config.maxHops) (mac : MacAddress) :
    load n msg = 1 + fan n * load n (msg.relayCopy mac) := by
  have hlt : msg.hopCount.toNat < 10 := UInt8.lt_iff_toNat_lt.mp hhop
  have hnext : (msg.relayCopy mac).hopCount.toNat = msg.hopCount.toNat + 1 := by
    show (msg.hopCount + 1).toNat = _
    rw [UInt8.toNat_add]
    have hone : (1 : UInt8).toNat = 1 := rfl
    omega
  have hmax : Config.maxHops.toNat = 10 := rfl
  obtain ⟨k, hk⟩ : ∃ k, 10 - msg.hopCount.toNat = k + 1 := ⟨9 - msg.hopCount.toNat, by omega⟩
  have hrest : 10 - (msg.hopCount.toNat + 1) = k := by omega
  rw [load, load, hnext, hmax, hk, hrest, tree_succ]

/-- A broadcast fans out to all nodes at most. -/
theorem le_fan (n : ℕ) : n ≤ fan n := Nat.le_mul_of_pos_left n (by decide)

/-- **A drained frame pays for what it sets off.**
SOURCE: Mesh.cpp:563-604, 831-980 -/
theorem receive_account (m : Mesh) (env : Env) (srcMac : MacAddress) (msg : MeshMessage)
    (current : Fin n → Mesh) (v : Fin n) :
    waiting n (m.handleEntry env ⟨srcMac, msg⟩).1 +
        ((flightsOf G current v (m.handleEntry env ⟨srcMac, msg⟩).2).map
          fun f => load n f.msg).sum + 1 ≤ waiting n m + load n msg := by
  have hpos : 0 < load n msg := tree_pos _ _
  rcases handleEntry_relay m env ⟨srcMac, msg⟩ with ⟨⟨htype, -⟩, hscheduled⟩ | ⟨-, hkept⟩
  · have hnone : flightsOf G current v (m.handleEntry env ⟨srcMac, msg⟩).2 = [] :=
      BeaconSpread.flightsOf_of_sentFrames_nil (BeaconSpread.handleEntry_sentFrames htype)
    have hwaiting : waiting n (m.handleEntry env ⟨srcMac, msg⟩).1 ≤
        fan n * load n (msg.relayCopy m.deviceMacAddress) := by
      rw [waiting, if_pos hscheduled.pending.1, hscheduled.pending.2, hscheduled.deviceMacAddress]
      exact Nat.mul_le_mul_right _ (le_fan n)
    have hhop : msg.hopCount < Config.maxHops := hscheduled.hopCount
    have hload := load_of_near (n := n) hhop m.deviceMacAddress
    rw [hnone, List.map_nil, List.sum_nil]
    omega
  · have hwaiting : waiting n (m.handleEntry env ⟨srcMac, msg⟩).1 ≤ waiting n m :=
      waiting_of_kept hkept
    by_cases hhop : msg.hopCount < Config.maxHops
    · have hsame : ∀ g ∈ sentFrames (m.handleEntry env ⟨srcMac, msg⟩).2,
          load n g.2 ≤ load n (msg.relayCopy m.deviceMacAddress) := by
        intro g hg
        rw [(handleEntry_frames hg).2]
      have hsent := flightsOf_load_le G current v (handleEntry_length_le m env ⟨srcMac, msg⟩) hsame
      have hload := load_of_near (n := n) hhop m.deviceMacAddress
      rw [fan] at hload
      omega
    · have hnone : sentFrames (m.handleEntry env ⟨srcMac, msg⟩).2 = [] := by
        refine List.eq_nil_iff_forall_not_mem.mpr fun g hg => hhop (handleEntry_frames hg).1
      rw [BeaconSpread.flightsOf_of_sentFrames_nil hnone, List.map_nil, List.sum_nil]
      omega

/-- The dispatch of a pending relay sets off what was waiting. -/
theorem dispatch_account (m : Mesh) (env : Env) (current : Fin n → Mesh) (v : Fin n) :
    waiting n (m.dispatchRelay env).1 +
        ((flightsOf G current v (m.dispatchRelay env).2).map fun f => load n f.msg).sum ≤
      waiting n m := by
  rcases dispatchRelay_cases m env with heq | ⟨hpending, hdone, hlength⟩
  · rw [heq]
    exact Nat.le_refl _
  · have hsame : ∀ g ∈ sentFrames (m.dispatchRelay env).2,
        load n g.2 ≤ load n m.relayPendingMsg := by
      intro g hg
      rw [(dispatchRelay_frames hg).2]
    have hsent := flightsOf_load_le G current v hlength hsame
    have hwaiting : waiting n m = n * load n m.relayPendingMsg := if_pos hpending
    have hafter : waiting n (m.dispatchRelay env).1 = 0 := by
      rw [waiting, hdone]
      rfl
    rw [Nat.one_mul] at hsent
    omega

/-- A call sets off one burst. -/
theorem call_account (m : Mesh) (env : Env) (c : MeshNetwork.Call) (current : Fin n → Mesh)
    (v : Fin n) :
    waiting n (c.run m env).1 +
        ((flightsOf G current v (c.run m env).2).map fun f => load n f.msg).sum ≤
      waiting n m + burst n := by
  have hcall := c.run_originates m env
  have hwaiting : waiting n (c.run m env).1 ≤ waiting n m :=
    waiting_of_kept hcall.undisturbed.kept
  have hload : load n (c.frame m) = tree (fan n) Config.maxHops.toNat := by
    rw [load, (c.frame_origin m).1]
    rfl
  have hsame : ∀ g ∈ sentFrames (c.run m env).2,
      load n g.2 ≤ tree (fan n) Config.maxHops.toNat := by
    intro g hg
    rw [hcall.frames g hg, hload]
  have hsent := flightsOf_load_le G current v (call_length_le m env c) hsame
  have hburst : burst n = Config.maxPeers * n * tree (fan n) Config.maxHops.toNat := rfl
  omega

/-- One case for each event. -/
theorem step_account {s' : State n} {e : Event n} (h : (system G).step s e = some s') :
    potential s' + e.receptions ≤ potential s + e.income := by
  cases e with
  | call v env c =>
      cases h
      have hinstall := potential_install (G := G) s v (c.run (s.mesh v) env)
      have hcall := call_account (G := G) (s.mesh v) env c s.mesh v
      simp only [Event.receptions, Event.income]
      omega
  | deliver i env =>
      obtain ⟨f, hi, rfl⟩ := Option.map_eq_some_iff.mp h
      have hreceive := receive_account (G := G) (s.mesh f.receiver) env f.srcMac f.msg s.mesh
        f.receiver
      have hsum := sum_update (waiting n) s.mesh f.receiver
        ((s.mesh f.receiver).handleEntry env ⟨f.srcMac, f.msg⟩).1
      simp only [Event.receptions, Event.income, potential, install, List.map_append,
        List.sum_append]
      rw [sum_map_eraseIdx hi]
      omega
  | lose i =>
      obtain ⟨f, hi, rfl⟩ := Option.map_eq_some_iff.mp h
      simp only [Event.receptions, Event.income, potential]
      rw [sum_map_eraseIdx hi]
      omega
  | dispatch v env =>
      cases h
      have hinstall := potential_install (G := G) s v ((s.mesh v).dispatchRelay env)
      have hdispatch := dispatch_account (G := G) (s.mesh v) env s.mesh v
      simp only [Event.receptions, Event.income]
      omega
  | work v m' =>
      simp only [system, step, Option.ite_none_right_eq_some, Option.some.injEq] at h
      obtain ⟨hwork, rfl⟩ := h
      have hkept : waiting n m' ≤ waiting n (s.mesh v) := waiting_of_kept hwork.kept
      have hsum := sum_update (waiting n) s.mesh v m'
      have hafter : potential { s with mesh := Function.update s.mesh v m' } =
          (s.flights.map fun f => load n f.msg).sum +
            ∑ w, waiting n (Function.update s.mesh v m' w) := rfl
      rw [hafter]
      simp only [Event.receptions, Event.income, potential]
      omega

/-! ## Result -/

/-- **Traffic is bounded by the messages built.**  In every run, with frames lost and reordered and
nodes changing as they like, the frames drained are at most what was in flight and waiting at the
start may set off, and a burst for each message built since.
SOURCE: Mesh.cpp:563-604, 831-980, 1091-1111 -/
theorem receptions_le {s' : State n} {es : List (Event n)}
    (h : (system G).runFrom s es = some s') :
    receptions es ≤ potential s + originated es := by
  have haccount := System.runFrom_potential (fun s e s' => step_account (G := G)) h
  unfold receptions originated
  omega

end Account

/-! ## A chain of three nodes -/

open BeaconSpread (chain chainMesh laterEnv)

/-- The beacon of `a`, its relay by `b`, and an enrollment request of `c` that is lost. -/
def chainEvents (a b c : Fin 3) : List (Event 3) :=
  [.call a laterEnv .broadcastMasterBeacon, .deliver 0 laterEnv, .dispatch b laterEnv,
    .deliver 0 laterEnv, .call c laterEnv .sendEnrollmentRequest, .lose 0]

/-- A run of the chain, counted. -/
theorem receptions_le_chain :
    ∃ s', (system chain).runFrom ⟨chainMesh, []⟩ (chainEvents 0 1 2) = some s' ∧
      s'.flights = [] ∧ receptions (chainEvents 0 1 2) ≤
        potential (⟨chainMesh, []⟩ : State 3) + originated (chainEvents 0 1 2) := by
  have hrun : ∃ s', (system chain).runFrom ⟨chainMesh, []⟩ (chainEvents 0 1 2) = some s' ∧
      s'.flights = [] :=
    ⟨_, rfl, rfl⟩
  obtain ⟨s', hs, hquiet⟩ := hrun
  exact ⟨s', hs, hquiet, receptions_le hs⟩

end TrafficBound

end LatticeNodes.Analysis
