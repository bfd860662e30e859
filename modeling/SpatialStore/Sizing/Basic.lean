import SpatialStore.Failure

/-! How large a pool starts, how far it may grow, how many handles it lends, and how many slots a chunk
of a chunked array has. -/

namespace SpatialStore

structure Sizing where
  initialCapacity : Nat := 16
  maxCapacity : Option Nat := none
  maxHandles : Nat := 1024
  chunkSlots : Nat := 4096
  deriving DecidableEq

namespace Sizing

def ofCapacity (capacity : Nat) : Sizing := { initialCapacity := capacity }

/-- What is wrong with a sizing; of several faults, the first named here. -/
def issue? (sizing : Sizing) : Option SizingIssue :=
  if sizing.maxHandles = 0 then some .noHandles
  else if sizing.chunkSlots = 0 then some .noChunkSlots
  else match sizing.maxCapacity with
    | none => none
    | some maximum =>
      if maximum < sizing.initialCapacity then
        some (.initialAboveMaximum sizing.initialCapacity maximum)
      else none

def validate (sizing : Sizing) : Except Refusal Unit :=
  match sizing.issue? with
  | none => .ok ()
  | some issue => .error (.invalidSizing issue)

theorem validate_eq_ok_iff {sizing : Sizing} :
    sizing.validate = .ok () ↔ 0 < sizing.maxHandles ∧ 0 < sizing.chunkSlots ∧
      ∀ maximum, sizing.maxCapacity = some maximum → sizing.initialCapacity ≤ maximum := by
  unfold validate issue?
  by_cases handles : sizing.maxHandles = 0
  · simp [handles]
  · rw [if_neg handles]
    by_cases chunks : sizing.chunkSlots = 0
    · simp [chunks]
    · rw [if_neg chunks]
      cases limited : sizing.maxCapacity with
      | none => simp [Nat.pos_of_ne_zero handles, Nat.pos_of_ne_zero chunks]
      | some maximum =>
        by_cases above : maximum < sizing.initialCapacity
        · simp [above]
        · simp [above, Nat.pos_of_ne_zero handles, Nat.pos_of_ne_zero chunks, Nat.le_of_not_lt above]

end Sizing

end SpatialStore
