import SpatialStore.Proofs.Number.Double

/-! The greatest of some numbers. It is found by going through them in any order, since the larger of two numbers is
one of them. -/

namespace SpatialStore

/-- Numbers of which the larger one is one of both. -/
class SelectiveScalar (S : Type) [Scalar S] : Prop where
  max_choice (first second : S) : Scalar.max first second = first ∨ Scalar.max first second = second

instance {S : Type} [CommRing S] [LinearOrder S] [Scalar S] [ExactScalar S] : SelectiveScalar S where
  max_choice first second := by
    rw [ExactScalar.max_eq]
    exact max_choice first second

instance : SelectiveScalar Double where
  max_choice first second := by
    change Double.max first second = first ∨ Double.max first second = second
    unfold Double.max
    split
    · exact Or.inr rfl
    · exact Or.inl rfl

namespace Scalar

variable {S : Type} [Scalar S]

/-- The greatest of some numbers, if there are any. -/
def Greatest (numbers : List S) : Option S → Prop
  | none => numbers = []
  | some greatest => greatest ∈ numbers ∧ ∀ number ∈ numbers, le number greatest = true

def Level (first second : S) : Prop := le first second = true ∧ le second first = true

theorem Greatest.congr {numbers others : List S} (same : ∀ number, number ∈ others ↔ number ∈ numbers)
    {greatest : Option S} (holds : Greatest numbers greatest) : Greatest others greatest := by
  cases greatest with
  | none =>
    have empty : numbers = [] := holds
    apply List.eq_nil_iff_forall_not_mem.mpr
    intro number member
    rw [same, empty] at member
    exact List.not_mem_nil member
  | some greatest =>
    obtain ⟨member, above⟩ := holds
    exact ⟨(same greatest).mpr member, fun number other => above number ((same number).mp other)⟩

theorem Greatest.above {numbers : List S} {greatest : Option S} (holds : Greatest numbers greatest) {number : S}
    (member : number ∈ numbers) : ∃ largest, greatest = some largest ∧ le number largest = true := by
  cases greatest with
  | none =>
    have empty : numbers = [] := holds
    rw [empty] at member
    exact absurd member List.not_mem_nil
  | some largest => exact ⟨largest, rfl, holds.2 number member⟩

theorem Greatest.level {numbers : List S} {first second : Option S} (left : Greatest numbers first)
    (right : Greatest numbers second) : Option.Rel Level first second := by
  cases first with
  | none =>
    cases second with
    | none => exact .none
    | some other =>
      obtain ⟨_, nothing, _⟩ := left.above right.1
      exact nomatch nothing
  | some greatest =>
    obtain ⟨other, rfl, below⟩ := right.above left.1
    exact .some ⟨below, left.2 other right.1⟩

theorem Greatest.unique {numbers : List S} {first second : Option S} (left : Greatest numbers first)
    (right : Greatest numbers second)
    (linear : ∀ number ∈ numbers, ∀ other ∈ numbers, Level number other → number = other) : first = second := by
  cases left.level right with
  | none => rfl
  | some level => rw [linear _ left.1 _ right.1 level]

variable [SelectiveScalar S]

theorem isNumber_max {first second : S} (firstNumber : IsNumber first)
    (secondNumber : IsNumber second) : IsNumber (max first second) := by
  rcases SelectiveScalar.max_choice first second with same | same
  · rw [same]
    exact firstNumber
  · rw [same]
    exact secondNumber

variable [ComparableScalar S]

/-- With one number more, the greatest is the larger one of it and the greatest before. -/
theorem Greatest.concat {numbers : List S} {greatest : Option S}
    (holds : Greatest numbers greatest) {number : S} (isNumber : IsNumber number) :
    Greatest (numbers ++ [number]) (some (max (greatest.getD number) number)) := by
  cases greatest with
  | none =>
    have empty : numbers = [] := holds
    have largest := (ComparableScalar.le_max isNumber isNumber).1
    have same : max number number = number :=
      (SelectiveScalar.max_choice number number).elim id id
    rw [empty, List.nil_append, Option.getD_none, same]
    refine ⟨List.mem_singleton_self number, ?_⟩
    intro other member
    rw [List.mem_singleton.mp member]
    exact isNumber
  | some greatest =>
    obtain ⟨member, above⟩ := holds
    obtain ⟨left, right⟩ :=
      ComparableScalar.le_max (ComparableScalar.isNumber_right (above greatest member)) isNumber
    rw [Option.getD_some]
    constructor
    · rcases SelectiveScalar.max_choice greatest number with same | same
      · rw [same]
        exact List.mem_append_left _ member
      · rw [same]
        exact List.mem_append_right _ (List.mem_singleton_self number)
    · intro other among
      rcases List.mem_append.mp among with before | here
      · exact ComparableScalar.le_trans (above other before) left
      · rw [List.mem_singleton.mp here]
        exact right

end Scalar

end SpatialStore
