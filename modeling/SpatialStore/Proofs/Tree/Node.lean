import SpatialStore.Proofs.Bytes.Packed
import SpatialStore.Tree.Node

/-! What a node keeps: the links and the record it was made with, and, with its validity in the same word,
the splitting dimension, as long as that takes no more than thirty bits. -/

namespace SpatialStore

namespace KdNode

variable {S : Type} {N : Nat}

/-- The dimensions for which there is room beside the validity. -/
def dimensions : Nat := 0x40000000

theorem toInt_flagsOf {dimension : Nat} (fits : dimension < dimensions) (valid : Bool) :
    (flagsOf dimension valid).toInt = 2 * dimension + if valid then 0 else 1 := by
  have small : 2 * dimension + (if valid then 0 else 1) < 2 ^ 31 := by
    unfold dimensions at fits
    split <;> omega
  rw [flagsOf, Int32.toInt_ofNat_of_lt small]
  cases valid with
  | true => simp
  | false => simp

theorem dimension_lt (node : KdNode S N) : node.dimension < dimensions := by
  have small := node.flags.toInt_lt
  unfold dimension dimensions
  omega

section

variable {node : KdNode S N} {dimension : Nat} {valid : Bool}

theorem dimension_of_flags (fits : dimension < dimensions) (flags : node.flags = flagsOf dimension valid) :
    node.dimension = dimension := by
  rw [KdNode.dimension, flags, toInt_flagsOf fits]
  split <;> omega

/-- Validity has a bit of its own, whatever becomes of the dimension. -/
theorem valid_of_flags (flags : node.flags = flagsOf dimension valid) : node.valid = valid := by
  have parity : (flagsOf dimension valid).toInt % 2 = if valid then 0 else 1 := by
    rw [flagsOf, Int32.toInt_ofNat', Int.bmod_def, Int32.size]
    cases valid with
    | true =>
      simp only [if_true]
      split <;> omega
    | false =>
      simp only [Bool.false_eq_true, if_false]
      split <;> omega
  rw [KdNode.valid, flags, parity]
  cases valid with
  | true => rfl
  | false => rfl

end

@[simp] theorem dimension_withValid (node : KdNode S N) (valid : Bool) :
    (node.withValid valid).dimension = node.dimension :=
  dimension_of_flags node.dimension_lt rfl

@[simp] theorem valid_withValid (node : KdNode S N) (valid : Bool) : (node.withValid valid).valid = valid :=
  valid_of_flags rfl

theorem of_make {position : Point S N} {left right : Option Nat} {data dimension : Nat} {node : KdNode S N}
    (made : make position left right data dimension = .ok node) :
    node.position = position ∧ node.leftSlot = left ∧ node.rightSlot = right ∧ node.dataSlot = data ∧
      node.valid = true ∧ (dimension < dimensions → node.dimension = dimension) := by
  unfold make at made
  obtain ⟨leftLink, leftMade, rest⟩ := bind_eq_ok.mp made
  obtain ⟨rightLink, rightMade, rest⟩ := bind_eq_ok.mp rest
  obtain ⟨dataLink, dataMade, rest⟩ := bind_eq_ok.mp rest
  obtain rfl := Except.ok.inj rest
  refine ⟨rfl, Link.slot?_ofSlot leftMade, Link.slot?_ofSlot rightMade, ?_, valid_of_flags rfl, ?_⟩
  · rw [dataSlot, Link.slot?_ofSlot dataMade]
    rfl
  · intro fits
    exact dimension_of_flags fits rfl

theorem make_ok {left right : Option Nat} {data : Nat} (leftFits : ∀ slot ∈ left, slot ≤ Link.largest)
    (rightFits : ∀ slot ∈ right, slot ≤ Link.largest) (dataFits : data ≤ Link.largest)
    (position : Point S N) (dimension : Nat) : ∃ node, make position left right data dimension = .ok node := by
  have dataSome : ∀ slot ∈ some data, slot ≤ Link.largest := by
    intro slot member
    obtain rfl := Option.some.inj member
    exact dataFits
  obtain ⟨_, leftMade⟩ := Link.ofSlot_ok leftFits
  obtain ⟨_, rightMade⟩ := Link.ofSlot_ok rightFits
  obtain ⟨_, dataMade⟩ := Link.ofSlot_ok dataSome
  rw [make, leftMade, rightMade, dataMade]
  exact ⟨_, rfl⟩

instance : PackedStored (KdNode Double N) where
  encode_decode row long := by
    change row.length = N * Kind.double.width + 16 at long
    let points := Doubles.read N row
    let left := Kind.index.read points.2
    let right := Kind.index.read left.2
    let data := Kind.index.read right.2
    have pointsLeft : points.2.length = 16 := by
      change (row.drop (N * Kind.double.width)).length = 16
      rw [List.length_drop, long, Nat.add_sub_cancel_left]
    have leftLeft : left.2.length = 12 := (Kind.index.length_read _).trans (by rw [pointsLeft]; rfl)
    have rightLeft : right.2.length = 8 := (Kind.index.length_read _).trans (by rw [leftLeft]; rfl)
    have dataLeft : data.2.length = 4 := (Kind.index.length_read _).trans (by rw [rightLeft]; rfl)
    have number : Kind.index ≠ .bool := by decide
    change Doubles.encode points.1.toList ++ Kind.index.encode left.1 ++ Kind.index.encode right.1 ++
      Kind.index.encode data.1 ++ Kind.int.encode (Kind.int.decode data.2) = row
    rw [Kind.encode_decode (by decide : Kind.int ≠ .bool) dataLeft, List.append_assoc,
      Kind.encode_read number (rightLeft ▸ by decide : Kind.index.width ≤ right.2.length), List.append_assoc,
      Kind.encode_read number (leftLeft ▸ by decide : Kind.index.width ≤ left.2.length), List.append_assoc,
      Kind.encode_read number (pointsLeft ▸ by decide : Kind.index.width ≤ points.2.length)]
    apply Doubles.encode_read
    omega

end KdNode

end SpatialStore
