import LatticeNodes.Analysis.PeerCalls
import LatticeNodes.Library.TransitionSystem

/-!
# The radio's registry and the peer table

The ESP-NOW driver as a map from addresses to registrations (`encryption`), with calls that fail
exactly when the address is not there to delete.  The broadcast address is an entry like any
other, so the calls that renew or delete a peer reach it as well: `mirrors_iff` says which runs
keep the registry in step with the table.
-/

set_option autoImplicit false

namespace LatticeNodes.Analysis

open LatticeNodes.Program

namespace RadioRegistry

/-! ## Statement -/

/-- Whether an address is registered, and with encryption or without. -/
def encryption (m : Mesh) (mac : MacAddress) : Option Bool :=
  (m.espNowPeers.find? (·.peerAddr == mac)).map (·.encrypt)

/-- The registry mirrors the table. -/
structure Mirrors (m : Mesh) : Prop where
  broadcast : encryption m broadcastMac = some false
  peers : ∀ p ∈ m.peers.entries, encryption m p.mac = some (p.publicKey != zeroKey)

/-- The readings with what the driver answers: a deletion succeeds when the address is there, and
`add_peer` is only called when it is not. -/
def driver (m : Mesh) (env : Env) : Env :=
  { env with
    addPeerError := fun _ => none
    delPeerError := fun mac =>
      if (encryption m mac).isSome then none else some "ESP_ERR_ESPNOW_NOT_FOUND" }

inductive Call where
  | addPeer (env : Env) (mac : MacAddress)
  | removePeer (env : Env) (mac : MacAddress)
  | enrollPeer (env : Env) (mac : MacAddress) (publicKey : Key)

def Call.run (tls : Mbedtls) (m : Mesh) : Call → Mesh
  | .addPeer env mac => (m.addPeer tls (driver m env) mac).1
  | .removePeer env mac => (m.removePeer (driver m env) mac).1
  | .enrollPeer env mac publicKey => (m.enrollPeer tls (driver m env) mac publicKey).1

def runCalls (tls : Mbedtls) (m : Mesh) (calls : List Call) : Mesh :=
  calls.foldl (Call.run tls) m

/-- The mesh object after `setupEspNow()`. -/
def setup (tls : Mbedtls) (env : Env) (m : Mesh) : Mesh :=
  (m.setupEspNow tls (driver m env) none).2.1

/-- The call leaves the broadcast address alone: it neither deletes it nor registers it with a
key. -/
def SparesBroadcast (m : Mesh) : Call → Prop
  | .addPeer _ _ => True
  | .removePeer _ mac => mac ≠ broadcastMac
  | .enrollPeer _ mac publicKey => mac = broadcastMac → publicKey = zeroKey ∨
      mac ∉ macs m.peers ∧ Config.maxPeers ≤ m.peers.entries.length

/-! ## The registry -/

section Registry

variable {m : Mesh} {tls : Mbedtls} {env : Env} {mac mac' : MacAddress} {publicKey : Key}

/-- The driver knows an address exactly when it has an encryption for it. -/
theorem registered_iff :
    m.espNowPeers.any (·.peerAddr == mac) = true ↔ (encryption m mac).isSome = true := by
  rw [encryption, Option.isSome_map, List.find?_isSome, List.any_eq_true]

/-- A registration that is there is kept. -/
theorem encryption_register (hadd : ∀ mac, env.addPeerError mac = none) :
    encryption (m.registerPeerWithEspNow tls env mac publicKey).1 mac' =
      if (encryption m mac).isSome = false ∧ mac' = mac then some (publicKey != zeroKey)
      else encryption m mac' := by
  unfold Mesh.registerPeerWithEspNow
  by_cases hknown : m.espNowPeers.any (·.peerAddr == mac) = true
  · have hsome := registered_iff.mp hknown
    rw [if_pos hknown, hsome]
    simp
  · have hnone : (encryption m mac).isSome = false := by
      rw [← Bool.not_eq_true, ← registered_iff]
      exact hknown
    rw [if_neg hknown, hnone]
    simp only [hadd mac, true_and]
    by_cases hsame : mac' = mac
    · subst hsame
      have hfind : m.espNowPeers.find? (·.peerAddr == mac') = none := by
        rw [← Option.not_isSome_iff_eq_none]
        simpa [encryption] using hnone
      simp [encryption, hfind]
    · have hother : (mac == mac') = false := by simpa using Ne.symm hsame
      rw [if_neg hsame]
      simp [encryption, hother]

/-- A deletion takes out the address and nothing else. -/
theorem encryption_delete (hdel : env.delPeerError mac = none) :
    encryption (m.espNowDelPeer env mac) mac' =
      if mac' = mac then none else encryption m mac' := by
  simp only [Mesh.espNowDelPeer, hdel, encryption, List.find?_filter]
  by_cases hsame : mac' = mac
  · subst hsame
    rw [if_pos rfl, Option.map_eq_none_iff, List.find?_eq_none]
    simp
  · rw [if_neg hsame]
    congr 2
    funext e
    by_cases haddr : e.peerAddr = mac'
    · simp [haddr, hsame]
    · simp [haddr]

/-- After an enrollment the address is registered with the key.
SOURCE: Mesh.cpp:1054-1058 -/
theorem encryption_reregister (hadd : ∀ mac, env.addPeerError mac = none)
    (hdel : (encryption m mac).isSome = true → env.delPeerError mac = none) :
    encryption (reregister m tls env mac publicKey).1 mac' =
      if mac' = mac then some (publicKey != zeroKey) else encryption m mac' := by
  unfold reregister
  by_cases hknown : m.espNowPeers.any (·.peerAddr == mac) = true
  · have hdeleted : ∀ mac', encryption (m.espNowDelPeer env mac) mac' =
        if mac' = mac then none else encryption m mac' :=
      fun _ => encryption_delete (hdel (registered_iff.mp hknown))
    rw [if_pos hknown, encryption_register hadd, hdeleted, hdeleted]
    by_cases hsame : mac' = mac
    · simp [hsame]
    · simp [hsame]
  · have hnone : (encryption m mac).isSome = false := by
      rw [← Bool.not_eq_true, ← registered_iff]
      exact hknown
    rw [if_neg hknown, encryption_register hadd, hnone]
    simp

/-- The driver deletes a peer exactly when it knows it. -/
theorem driver_delete (m : Mesh) (env : Env) (mac : MacAddress) :
    (driver m env).delPeerError mac = none ↔ (encryption m mac).isSome = true := by
  simp [driver, Option.isSome_iff_ne_none]

end Registry

/-! ## One call -/

/-- What holds as long as the broadcast address is left alone. -/
structure InStep (m : Mesh) : Prop where
  mirrors : Mirrors m
  distinct : (macs m.peers).Nodup
  /-- Nothing else is registered. -/
  known : ∀ mac, (encryption m mac).isSome = true → mac = broadcastMac ∨ mac ∈ macs m.peers

section Calls

variable {m : Mesh} {tls : Mbedtls} {env : Env} {mac : MacAddress} {publicKey : Key}

/-- The peers of a table have its addresses. -/
theorem mem_macs_of_mem {t : PeerTable} {p : PeerInfo} (h : p ∈ t.entries) : p.mac ∈ macs t :=
  List.mem_map.mpr ⟨p, h, rfl⟩

/-- A call on one address: the others keep their registrations and their entries, and the
address itself is in step. -/
theorem InStep.change {m' : Mesh} (h : InStep m) (mac : MacAddress)
    (hothers : ∀ mac', mac' ≠ mac → encryption m' mac' = encryption m mac')
    (hbroadcast : mac = broadcastMac → encryption m' mac = some false)
    (hdistinct : (macs m'.peers).Nodup)
    (hentries : ∀ p ∈ m'.peers.entries,
      p.mac = mac ∧ encryption m' mac = some (p.publicKey != zeroKey) ∨
        p.mac ≠ mac ∧ p ∈ m.peers.entries)
    (hmacs : ∀ mac', mac' ≠ mac → mac' ∈ macs m.peers → mac' ∈ macs m'.peers)
    (hknown : (encryption m' mac).isSome = true → mac = broadcastMac ∨ mac ∈ macs m'.peers) :
    InStep m' := by
  refine ⟨⟨?_, fun p hp => ?_⟩, hdistinct, fun mac' hregistered => ?_⟩
  · by_cases hb : broadcastMac = mac
    · rw [hb]
      exact hbroadcast hb.symm
    · rw [hothers _ hb]
      exact h.mirrors.broadcast
  · rcases hentries p hp with ⟨hmac, hkey⟩ | ⟨hne, hold⟩
    · rw [hmac]
      exact hkey
    · rw [hothers _ hne]
      exact h.mirrors.peers p hold
  · by_cases hsame : mac' = mac
    · subst hsame
      exact hknown hregistered
    · rw [hothers _ hsame] at hregistered
      exact (h.known mac' hregistered).imp id (hmacs mac' hsame)

/-- SOURCE: Mesh.cpp:706-723 -/
theorem InStep.addPeer (h : InStep m) (tls : Mbedtls) (env : Env) (mac : MacAddress) :
    InStep (m.addPeer tls (driver m env) mac).1 := by
  unfold Mesh.addPeer
  split
  · exact h
  · next hnew =>
    split
    · exact h
    · next hroom =>
      have hnew' : (m.peers.findPeer mac).isSome = false := by simpa using hnew
      have hlt := Nat.lt_of_not_le hroom
      have habsent : mac ∉ macs m.peers := by
        rw [mem_macs, hnew']
        exact Bool.false_ne_true
      have hentries := entries_appendPeer hlt ⟨mac, zeroKey, 0⟩
      have hadd : ∀ mac, (driver m env).addPeerError mac = none := fun _ => rfl
      -- registered already: then it is the broadcast address, without encryption
      have hmac : encryption (Mesh.registerPeerWithEspNow
          { m with peers := m.peers.appendPeer ⟨mac, zeroKey, 0⟩ } tls (driver m env) mac
            zeroKey).1 mac = some false := by
        rw [encryption_register hadd]
        show (if (encryption m mac).isSome = false ∧ mac = mac then some (zeroKey != zeroKey)
          else encryption m mac) = some false
        by_cases hregistered : (encryption m mac).isSome = true
        · rw [if_neg (by simp [hregistered])]
          rcases h.known mac hregistered with rfl | hmem
          · exact h.mirrors.broadcast
          · exact absurd hmem habsent
        · rw [if_pos ⟨by simpa using hregistered, rfl⟩]
          simp
      have hpeers : (Mesh.registerPeerWithEspNow
          { m with peers := m.peers.appendPeer ⟨mac, zeroKey, 0⟩ } tls (driver m env) mac
            zeroKey).1.peers = m.peers.appendPeer ⟨mac, zeroKey, 0⟩ := by
        rw [registerPeerWithEspNow_frame]
      refine h.change mac (fun mac' hne => ?_) (fun _ => hmac) ?_ (fun p hp => ?_)
        (fun mac' _ hmem => ?_) (fun _ => .inr ?_)
      · rw [encryption_register hadd, if_neg fun hc => hne hc.2]
        rfl
      · rw [hpeers]
        exact nodup_append h.distinct hnew' hlt
      · rw [hpeers, hentries] at hp
        rcases List.mem_append.mp hp with hold | hlast
        · right
          refine ⟨?_, hold⟩
          rintro rfl
          exact habsent (mem_macs_of_mem hold)
        · rw [List.mem_singleton.mp hlast, hmac]
          simp
      · rw [hpeers, macs, hentries, List.map_append]
        exact List.mem_append_left _ hmem
      · rw [hpeers, macs, hentries]
        simp

/-- SOURCE: Mesh.cpp:310-322 -/
theorem InStep.removePeer (h : InStep m) (env : Env) (hother : mac ≠ broadcastMac) :
    InStep (m.removePeer (driver m env) mac).1 := by
  have hencryption : ∀ mac', encryption (m.removePeer (driver m env) mac).1 mac' =
      if mac' = mac then none else encryption m mac' := by
    intro mac'
    unfold Mesh.removePeer
    cases herror : (driver m env).delPeerError mac with
    | none => exact encryption_delete herror
    | some err =>
        show encryption m mac' = _
        have habsent : (encryption m mac).isSome = false := by
          rw [← Bool.not_eq_true, ← driver_delete m env, herror]
          exact Option.some_ne_none err
        by_cases hsame : mac' = mac
        · rw [if_pos hsame, hsame]
          simpa using habsent
        · rw [if_neg hsame]
  have hpeers : (m.removePeer (driver m env) mac).1.peers = m.peers.remove mac := by
    unfold Mesh.removePeer
    simp only
    split
    · rw [espNowDelPeer_frame]
    · rfl
  have hkept : ∀ p, p ∈ (m.peers.remove mac).entries ↔ p ∈ m.peers.entries ∧ p.mac ≠ mac := by
    intro p
    rw [(remove_perm h.distinct mac).mem_iff, List.mem_filter]
    simp
  refine h.change mac (fun mac' hne => ?_) (fun hb => absurd hb hother) ?_ (fun p hp => ?_)
    (fun mac' hne hmem => ?_) (fun hregistered => ?_)
  · rw [hencryption, if_neg hne]
  · rw [hpeers]
    exact nodup_remove h.distinct mac
  · rw [hpeers] at hp
    obtain ⟨hmem, hne⟩ := (hkept p).mp hp
    exact .inr ⟨hne, hmem⟩
  · obtain ⟨p, hp, rfl⟩ := List.mem_map.mp hmem
    rw [hpeers]
    exact mem_macs_of_mem ((hkept p).mpr ⟨hp, hne⟩)
  · rw [hencryption, if_pos rfl] at hregistered
    cases hregistered

/-- The table of an enrollment: the entry of the address has the key, the others are as
before. -/
theorem enrolledPeers_spec {t t' : PeerTable} (hdistinct : (macs t).Nodup)
    (h : enrolledPeers t mac publicKey = some t') :
    (macs t').Nodup ∧ (∀ mac', mac' ∈ macs t' ↔ mac' = mac ∨ mac' ∈ macs t) ∧
      ∀ p ∈ t'.entries, p.mac = mac ∧ p.publicKey = publicKey ∨ p.mac ≠ mac ∧ p ∈ t.entries := by
  unfold enrolledPeers at h
  split at h
  · next hknown =>
    cases h
    have hmacs : macs (t.modify mac fun p => { p with publicKey := publicKey }) = macs t :=
      macs_modify t mac fun _ => rfl
    rw [hmacs]
    refine ⟨hdistinct, fun mac' => ⟨.inr, ?_⟩, fun p hp => ?_⟩
    · rintro (rfl | hmem)
      · exact mem_macs.mpr hknown
      · exact hmem
    · have hlist : (t.modify mac fun p => { p with publicKey := publicKey }).entries =
          t.entries.map fun p => if p.mac = mac then { p with publicKey := publicKey } else p :=
        modifyFirst_eq_map hdistinct
      rw [hlist] at hp
      obtain ⟨q, hq, rfl⟩ := List.mem_map.mp hp
      by_cases hmac : q.mac = mac
      · simp [hmac]
      · simp [hmac, hq]
  · next hnew =>
    split at h
    · cases h
    · next hroom =>
      cases h
      have hlt := Nat.lt_of_not_le hroom
      have hentries := entries_appendPeer hlt ⟨mac, publicKey, 0⟩
      have hnew' : (t.findPeer mac).isSome = false := by simpa using hnew
      refine ⟨nodup_append hdistinct hnew' hlt, fun mac' => ?_, fun p hp => ?_⟩
      · rw [macs, hentries, List.map_append, List.mem_append, or_comm]
        simp [macs]
      · rw [hentries] at hp
        rcases List.mem_append.mp hp with hold | hlast
        · right
          refine ⟨?_, hold⟩
          rintro rfl
          rw [← Bool.not_eq_true, ← mem_macs] at hnew'
          exact hnew' (mem_macs_of_mem hold)
        · rw [List.mem_singleton.mp hlast]
          exact .inl ⟨rfl, rfl⟩

/-- The registrations after an enrollment.
SOURCE: Mesh.cpp:1035-1058 -/
theorem enrollPeer_encryption {t : PeerTable}
    (ht : enrolledPeers m.peers mac publicKey = some t) (env : Env) (mac' : MacAddress) :
    encryption (m.enrollPeer tls (driver m env) mac publicKey).1 mac' =
      if mac' = mac then some (publicKey != zeroKey) else encryption m mac' := by
  have hmesh : (m.enrollPeer tls (driver m env) mac publicKey).1 =
      (reregister { m with peers := t } tls (driver m env) mac publicKey).1 := by
    simp only [enrollPeer_eq, ht]
  rw [hmesh]
  exact encryption_reregister (fun _ => rfl) (driver_delete m env mac).mpr

/-- An enrollment finds no room exactly for a new address in a full table.
SOURCE: Mesh.cpp:1035-1075 -/
theorem enrolledPeers_eq_none_iff {t : PeerTable} : enrolledPeers t mac publicKey = none ↔
    mac ∉ macs t ∧ Config.maxPeers ≤ t.entries.length := by
  rw [mem_macs, enrolledPeers]
  by_cases hknown : (t.findPeer mac).isSome = true
  · simp [hknown]
  · simp [hknown]

/-- An enrollment of another address than broadcast keeps driver and table in step.
SOURCE: Mesh.cpp:1035-1075 -/
theorem InStep.enrollPeer (h : InStep m) (tls : Mbedtls) (env : Env)
    (hspares : SparesBroadcast m (.enrollPeer env mac publicKey)) :
    InStep (m.enrollPeer tls (driver m env) mac publicKey).1 := by
  cases ht : enrolledPeers m.peers mac publicKey with
  | none =>
      have hmesh : m.enrollPeer tls (driver m env) mac publicKey = (m, []) := by
        simp only [enrollPeer_eq, ht]
      rw [hmesh]
      exact h
  | some t =>
      obtain ⟨hdistinct, hmacs, hentries⟩ := enrolledPeers_spec h.distinct ht
      have hencryption := @enrollPeer_encryption m tls mac publicKey t ht env
      have hpeers : (m.enrollPeer tls (driver m env) mac publicKey).1.peers = t := by
        simp only [enrollPeer_eq, ht]
        exact reregister_peers
      have hzero : mac = broadcastMac → publicKey = zeroKey := by
        intro hmac
        refine (hspares hmac).resolve_right fun hfull => ?_
        rw [enrolledPeers_eq_none_iff.mpr hfull] at ht
        cases ht
      refine h.change mac (fun mac' hne => ?_) (fun hb => ?_) ?_ (fun p hp => ?_)
        (fun mac' _ hmem => ?_) (fun _ => .inr ?_)
      · rw [hencryption, if_neg hne]
      · rw [hencryption, if_pos rfl, hzero hb]
        simp
      · rw [hpeers]
        exact hdistinct
      · rw [hpeers] at hp
        rw [hencryption, if_pos rfl]
        rcases hentries p hp with ⟨hmac, hkey⟩ | hother
        · rw [hkey]
          exact .inl ⟨hmac, rfl⟩
        · exact .inr hother
      · rw [hpeers, hmacs]
        exact .inr hmem
      · rw [hpeers, hmacs]
        exact .inl rfl

/-- **A call that leaves the broadcast address alone keeps the registry in step.** -/
theorem InStep.run (h : InStep m) (tls : Mbedtls) {c : Call} (hspares : SparesBroadcast m c) :
    InStep (c.run tls m) := by
  cases c with
  | addPeer env mac => exact h.addPeer tls env mac
  | removePeer env mac => exact h.removePeer env hspares
  | enrollPeer env mac publicKey => exact h.enrollPeer tls env hspares

/-- **Any other call takes the broadcast address out of step.** -/
theorem not_mirrors_run (h : Mirrors m) (tls : Mbedtls) {c : Call}
    (hnot : ¬SparesBroadcast m c) : ¬Mirrors (c.run tls m) := by
  intro hafter
  have hbroadcast := hafter.broadcast
  cases c with
  | addPeer env mac => exact hnot trivial
  | removePeer env mac =>
      have hmac : mac = broadcastMac := not_not.mp hnot
      subst hmac
      have hdel : (driver m env).delPeerError broadcastMac = none := by
        rw [driver_delete, h.broadcast]
        rfl
      have hdeleted : encryption (m.removePeer (driver m env) broadcastMac).1 broadcastMac =
          none := by
        simp only [Mesh.removePeer, hdel]
        rw [encryption_delete hdel, if_pos rfl]
      rw [Call.run, hdeleted] at hbroadcast
      cases hbroadcast
  | enrollPeer env mac publicKey =>
      simp only [SparesBroadcast, Classical.not_imp, not_or] at hnot
      obtain ⟨rfl, hkey, haccepted⟩ := hnot
      cases ht : enrolledPeers m.peers broadcastMac publicKey with
      | none => exact haccepted (enrolledPeers_eq_none_iff.mp ht)
      | some t =>
          have hencryption := @enrollPeer_encryption m tls broadcastMac publicKey t ht env
            broadcastMac
          rw [Call.run, hencryption, if_pos rfl] at hbroadcast
          simp [hkey] at hbroadcast

end Calls

/-! ## After `setupEspNow()` -/

section Setup

variable {m : Mesh} {tls : Mbedtls} {env : Env} {mac : MacAddress}

/-- SOURCE: Mesh.cpp:501-512 -/
theorem encryption_registerBroadcast (hadd : ∀ mac, env.addPeerError mac = none)
    (hempty : m.espNowPeers = []) :
    encryption (m.registerBroadcast env) mac = if mac = broadcastMac then some false else none := by
  have hregistered : (m.registerBroadcast env).espNowPeers =
      [⟨broadcastMac, false, Vector.replicate 16 0⟩] := by
    simp [Mesh.registerBroadcast, hempty, hadd]
  rw [encryption, hregistered]
  by_cases hb : mac = broadcastMac
  · subst hb
    simp
  · have hother : (broadcastMac == mac) = false := by simpa using Ne.symm hb
    simp [hother, hb]

/-- The loop over the table registers each address that is new, with the first of its keys.
SOURCE: Mesh.cpp:514-516 -/
theorem encryption_registerPeers (hadd : ∀ mac, env.addPeerError mac = none)
    (ps : List PeerInfo) :
    encryption (Mesh.registerPeers tls env m ps).1 mac =
      (encryption m mac).or
        ((ps.find? fun p => p.mac = mac).map fun p => p.publicKey != zeroKey) := by
  induction ps generalizing m with
  | nil => simp [Mesh.registerPeers]
  | cons p ps ih =>
      have hrest : encryption (Mesh.registerPeers tls env m (p :: ps)).1 mac =
          encryption (Mesh.registerPeers tls env
            (m.registerPeerWithEspNow tls env p.mac p.publicKey).1 ps).1 mac := rfl
      rw [hrest, ih, encryption_register hadd]
      by_cases hsame : mac = p.mac
      · subst hsame
        cases hold : encryption m p.mac with
        | none => simp
        | some encrypt => simp
      · have hother : ¬p.mac = mac := fun h => hsame h.symm
        simp [hsame, hother]

/-- Registering the peers leaves the table.
SOURCE: Mesh.cpp:514-516 -/
theorem registerPeers_peers (ps : List PeerInfo) :
    (Mesh.registerPeers tls env m ps).1.peers = m.peers := by
  obtain ⟨registered, heq⟩ := registerPeers_frame tls env m ps
  rw [heq]

/-- Setting up the radio leaves the table.
SOURCE: Mesh.cpp:492-521 -/
theorem setup_peers : (setup tls env m).peers = m.peers := by
  have hsetup : setup tls env m = (Mesh.registerPeers tls (driver m env)
      (m.registerBroadcast (driver m env)) m.peers.entries).1 := rfl
  rw [hsetup, registerPeers_peers]
  unfold Mesh.registerBroadcast
  split
  · rfl
  · split <;> rfl

/-- The driver encrypts for every peer with a key, and not for broadcast.
SOURCE: Mesh.cpp:492-521 -/
theorem encryption_setup (hempty : m.espNowPeers = []) :
    encryption (setup tls env m) mac = if mac = broadcastMac then some false
      else (m.peers.findPeer mac).map fun p => p.publicKey != zeroKey := by
  have hadd : ∀ mac, (driver m env).addPeerError mac = none := fun _ => rfl
  have hsetup : setup tls env m = (Mesh.registerPeers tls (driver m env)
      (m.registerBroadcast (driver m env)) m.peers.entries).1 := rfl
  rw [hsetup, encryption_registerPeers hadd, encryption_registerBroadcast hadd hempty]
  by_cases hb : mac = broadcastMac
  · simp [hb]
  · simp [hb, PeerTable.findPeer]

/-- In a distinct table a peer is found by its address. -/
theorem findPeer_of_mem {t : PeerTable} (hdistinct : (macs t).Nodup) {p : PeerInfo}
    (hp : p ∈ t.entries) : t.findPeer p.mac = some p := by
  obtain ⟨q, hq⟩ := Option.isSome_iff_exists.mp (findPeer_isSome_iff.mpr ⟨p, hp, rfl⟩)
  obtain ⟨hmem, hmac⟩ := mem_of_findPeer hq
  rw [hq, List.inj_on_of_nodup_map hdistinct hmem hp hmac]

/-- The table may hold the broadcast address, but without a key. -/
theorem inStep_setup (hempty : m.espNowPeers = []) (hdistinct : (macs m.peers).Nodup)
    (hbroadcast : ∀ p ∈ m.peers.entries, p.mac = broadcastMac → p.publicKey = zeroKey) :
    InStep (setup tls env m) := by
  refine ⟨⟨?_, fun p hp => ?_⟩, ?_, fun mac hregistered => ?_⟩
  · rw [encryption_setup hempty, if_pos rfl]
  · rw [setup_peers] at hp
    rw [encryption_setup hempty]
    by_cases hb : p.mac = broadcastMac
    · rw [if_pos hb, hbroadcast p hp hb]
      simp
    · rw [if_neg hb, findPeer_of_mem hdistinct hp]
      rfl
  · rw [setup_peers]
    exact hdistinct
  · rw [encryption_setup hempty] at hregistered
    rw [setup_peers, mem_macs]
    by_cases hb : mac = broadcastMac
    · exact .inl hb
    · rw [if_neg hb, Option.isSome_map] at hregistered
      exact .inr hregistered

end Setup

/-! ## Runs -/

/-- **The registry mirrors the table through a run exactly when the broadcast address has no key
in the loaded table and no call deletes it or registers it with a key.**
SOURCE: Mesh.cpp:131-160, 310-322, 492-521, 705-726, 1035-1075 -/
theorem mirrors_iff (tls : Mbedtls) (env : Env) (m : Mesh) (hempty : m.espNowPeers = [])
    (hdistinct : (macs m.peers).Nodup) (calls : List Call) :
    (∀ before after, calls = before ++ after →
      Mirrors (runCalls tls (setup tls env m) before)) ↔
    (∀ p ∈ m.peers.entries, p.mac = broadcastMac → p.publicKey = zeroKey) ∧
      ∀ before c after, calls = before ++ c :: after →
        SparesBroadcast (runCalls tls (setup tls env m) before) c := by
  have hrun : InStep (setup tls env m) → ((∀ before after, calls = before ++ after →
      Mirrors (runCalls tls (setup tls env m) before)) ↔
        ∀ before c after, calls = before ++ c :: after →
          SparesBroadcast (runCalls tls (setup tls env m) before) c) :=
    fun hsetup => TransitionSystem.foldl_holds_iff (fun _ h => h.mirrors)
      (fun _ _ h hspares => h.run tls hspares)
      (fun _ _ h hnot => not_mirrors_run h.mirrors tls hnot) hsetup calls
  constructor
  · intro hmirrors
    have hstart : Mirrors (setup tls env m) := hmirrors [] calls rfl
    have hbroadcast : ∀ p ∈ m.peers.entries, p.mac = broadcastMac → p.publicKey = zeroKey := by
      intro p hp hb
      rw [← @setup_peers m tls env] at hp
      have hkey := hstart.peers p hp
      rw [hb, hstart.broadcast] at hkey
      simpa using hkey
    exact ⟨hbroadcast, (hrun (inStep_setup hempty hdistinct hbroadcast)).mp hmirrors⟩
  · rintro ⟨hbroadcast, hspares⟩
    exact (hrun (inStep_setup hempty hdistinct hbroadcast)).mpr hspares

/-! ## A table with two peers -/

def plainPeer (n : UInt8) (publicKey : Key) : PeerInfo := ⟨Vector.replicate 6 n, publicKey, 0⟩

/-- One peer has a key and the other does not. -/
def twoPeers : Mesh :=
  { Mesh.new with
    peers := (PeerTable.empty.appendPeer (plainPeer 2 (Vector.replicate 32 7))).appendPeer
      (plainPeer 3 zeroKey) }

/-- A peer comes, the second one gets a key, the first one goes and comes back with another. -/
def peerCalls : List Call :=
  [.addPeer quietEnv (Vector.replicate 6 4),
    .enrollPeer quietEnv (Vector.replicate 6 3) (Vector.replicate 32 8),
    .removePeer quietEnv (Vector.replicate 6 2),
    .enrollPeer quietEnv (Vector.replicate 6 2) (Vector.replicate 32 9)]

/-- No call is on the broadcast address, so the registry mirrors the table throughout. -/
theorem mirrors_iff_peers :
    (runCalls plainTls (setup plainTls quietEnv twoPeers) peerCalls).peers.entries =
        [plainPeer 4 zeroKey, plainPeer 3 (Vector.replicate 32 8),
          plainPeer 2 (Vector.replicate 32 9)] ∧
      ∀ before after, peerCalls = before ++ after →
        Mirrors (runCalls plainTls (setup plainTls quietEnv twoPeers) before) := by
  refine ⟨by decide +kernel,
    (mirrors_iff plainTls quietEnv twoPeers rfl (by decide) peerCalls).mpr ⟨by decide, ?_⟩⟩
  intro before c after heq
  have hmem : c ∈ peerCalls := by
    rw [heq]
    exact List.mem_append_right before List.mem_cons_self
  simp only [peerCalls, List.mem_cons, List.not_mem_nil, or_false] at hmem
  rcases hmem with rfl | rfl | rfl | rfl
  · exact trivial
  · exact fun hbroadcast => absurd hbroadcast (by decide)
  · exact (by decide : (Vector.replicate 6 2 : MacAddress) ≠ broadcastMac)
  · exact fun hbroadcast => absurd hbroadcast (by decide)

/-- A JOIN_ACK that names the broadcast address and a key encrypts the broadcast entry.
SOURCE: Mesh.cpp:1035-1058 -/
theorem not_mirrors_keyedBroadcast :
    Mesh.new.espNowPeers = [] ∧ (macs Mesh.new.peers).Nodup ∧
      ¬Mirrors (runCalls plainTls (setup plainTls quietEnv Mesh.new)
        [.enrollPeer quietEnv broadcastMac (Vector.replicate 32 1)]) := by
  have hencrypted : encryption (runCalls plainTls (setup plainTls quietEnv Mesh.new)
      [.enrollPeer quietEnv broadcastMac (Vector.replicate 32 1)]) broadcastMac = some true := by
    decide
  refine ⟨rfl, List.nodup_nil, fun h => ?_⟩
  rw [h.broadcast] at hencrypted
  cases hencrypted

end RadioRegistry

end LatticeNodes.Analysis
