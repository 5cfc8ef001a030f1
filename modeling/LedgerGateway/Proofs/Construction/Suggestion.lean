import LedgerGateway.Construction.Suggestion
import LedgerGateway.Proofs.Node

/-!
# Why a transfer is not completed

The options of a transfer were checked before. What can still go wrong depends on the node: it
may fail, its price may be too large to be multiplied, and the fee may turn out higher than
the sender wants.
-/

namespace LedgerGateway.Suggestion

open Talk (FailsOnly)

/-- A price times a multiplier, rounded up to whole units. -/
def scaled (price : UInt64) (m : Binary64) : Nat := (price.toNat * factor m + (scale - 1)) / scale

/-- Neither the product nor the price that comes out of it is too large. -/
def Scalable (price : UInt64) (m : Binary64) : Prop :=
  price.toNat * factor m < bound ∧ scaled price m < UInt64.size

instance (price : UInt64) (m : Binary64) : Decidable (Scalable price m) :=
  inferInstanceAs (Decidable (_ ∧ _))

/-- Where the multiplier is one, size is all that stands in the way. -/
theorem scaledPrice_of_isMultiplier {m : Binary64} (h : m.isMultiplier = true) (price : UInt64) :
    scaledPrice price m =
      if Scalable price m then .ok (.ofNat (scaled price m))
      else .error (.invalidGasPrice (.overflow price m)) := by
  rw [scaledPrice, h]
  rfl

variable {o : TransferOptions}

end LedgerGateway.Suggestion
