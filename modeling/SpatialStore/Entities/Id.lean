import Std.Data.TreeMap

/-! Identifiers of entities. They stay with an entity when its record moves. -/

namespace SpatialStore

structure EntityId where
  raw : UInt32
  deriving DecidableEq

namespace EntityId

instance : Ord EntityId := ⟨fun first second => compare first.raw second.raw⟩

theorem compare_eq (first second : EntityId) :
    compare first second = compare first.raw second.raw := rfl

instance : Std.TransOrd EntityId where
  eq_swap {first second} := by
    rw [compare_eq, compare_eq]
    exact Std.OrientedCmp.eq_swap
  isLE_trans {first second third} := by
    rw [compare_eq, compare_eq, compare_eq]
    exact Std.TransCmp.isLE_trans

instance : Std.LawfulEqOrd EntityId where
  compare_self {id} := by
    rw [compare_eq]
    exact Std.ReflCmp.compare_self
  eq_of_compare {first second} same := by
    rw [compare_eq] at same
    have raws : first.raw = second.raw := Std.LawfulEqCmp.eq_of_compare same
    cases first
    cases second
    exact congrArg EntityId.mk raws

/-- The identifier that no entity has. -/
def null : EntityId := ⟨0xffffffff⟩

def isNull (id : EntityId) : Bool := id.raw = 0xffffffff

def text (id : EntityId) : String := s!"#{id.raw.toNat}"

end EntityId

end SpatialStore
