import SpatialStore.Step
import SpatialStore.Failure

/-! Handles. A handle names one slot of one pool and can be bound to another slot at any time. A pool
lends a bounded number of them and lends a returned number again, the one returned last first. -/

namespace SpatialStore

structure Handle where
  slot : Option Nat := none
  /-- The pool's modification count when the handle was bound. -/
  boundAt : Nat := 0
  poolId : Nat
  number : Nat
  deriving DecidableEq

def Handle.describe (handle : Handle) : String :=
  s!"PoolRef \x7b slot: {slotText handle.slot}, bound_at: {handle.boundAt}, " ++
    s!"pool_id: {handle.poolId}, ref_id: {handle.number} \x7d"

structure Lending where
  /-- Numbers that were returned, the last one first. -/
  returned : List Nat := []
  issued : Nat := 0
  outstanding : Nat := 0
  limit : Nat

namespace Lending

def numbers : Nat := 0x100000000

def acquire : Step PoolFailure Lending Nat := fun lending =>
  if lending.limit ≤ lending.outstanding then
    .error (.refused (.handlesExhausted lending.limit)) lending
  else match lending.returned with
    | number :: rest =>
      .ok number { lending with returned := rest, outstanding := lending.outstanding + 1 }
    | [] =>
      if lending.issued + 1 < numbers then
        .ok lending.issued { lending with
          issued := lending.issued + 1, outstanding := lending.outstanding + 1 }
      else .error (.fault .overflow) lending

def release (lending : Lending) (number : Nat) : Lending :=
  { lending with
    returned := number :: lending.returned, outstanding := lending.outstanding - 1 }

end Lending

end SpatialStore
