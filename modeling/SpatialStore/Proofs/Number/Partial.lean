import SpatialStore.Proofs.Number.Exact

/-! Exact numbers beside something that is not a number. Every operation on it gives it again, no comparison with it
holds, the smaller and the larger of two leave it out, and in the order of all it comes last. -/

namespace SpatialStore

namespace Scalar

variable {R : Type}

def lift (operation : R → R → R) : Option R → Option R → Option R
  | some first, some second => some (operation first second)
  | _, _ => none

/-- A choice between two numbers, in which what is not a number does not count. -/
def choose (choice : R → R → R) : Option R → Option R → Option R
  | some first, some second => some (choice first second)
  | some first, none => some first
  | none, second => second

def compared (relation : R → R → Bool) : Option R → Option R → Bool
  | some first, some second => relation first second
  | _, _ => false

theorem compared_iff {relation : R → R → Bool} {first second : Option R} :
    compared relation first second = true ↔
      ∃ left right, first = some left ∧ second = some right ∧ relation left right = true := by
  cases first with
  | none => exact ⟨nofun, nofun⟩
  | some left =>
    cases second with
    | none => exact ⟨nofun, nofun⟩
    | some right =>
      constructor
      · intro holds
        exact ⟨left, right, rfl, rfl, holds⟩
      · rintro ⟨_, _, ⟨⟩, ⟨⟩, holds⟩
        exact holds

/-- An order of numbers, with what is not a number at the end. -/
def ranked (order : R → R → Bool) : Option R → Option R → Bool
  | some first, some second => order first second
  | none, some _ => false
  | _, none => true

end Scalar

instance {R : Type} [Scalar R] : Scalar (Option R) where
  zero := some Scalar.zero
  sumStart := some Scalar.sumStart
  top := some Scalar.top
  bottom := some Scalar.bottom
  add := Scalar.lift Scalar.add
  sub := Scalar.lift Scalar.sub
  mul := Scalar.lift Scalar.mul
  neg := Option.map Scalar.neg
  lt := Scalar.compared Scalar.lt
  le := Scalar.compared Scalar.le
  min := Scalar.choose Scalar.min
  max := Scalar.choose Scalar.max
  rankLe := Scalar.ranked Scalar.rankLe

namespace Scalar

section

variable {R : Type} [Scalar R]

theorem not_isNumber_none : ¬IsNumber (none : Option R) := nofun

theorem sum_some (terms : List R) : sum (terms.map some) = some (sum terms) := by
  have added : ∀ start : R, (terms.map some).foldl add (some start) = some (terms.foldl add start) := by
    induction terms with
    | nil => exact fun _ => rfl
    | cons term rest ih => exact fun start => ih (add start term)
  exact added sumStart

theorem sum_none {terms : List (Option R)} (member : none ∈ terms) : sum terms = none := by
  have kept : ∀ rest : List (Option R), rest.foldl add none = none := by
    intro rest
    induction rest with
    | nil => rfl
    | cons term rest ih => exact ih
  have reached : ∀ start : Option R, terms.foldl add start = none := by
    induction terms with
    | nil => exact absurd member List.not_mem_nil
    | cons term rest ih =>
      intro start
      rcases List.mem_cons.mp member with rfl | later
      · have lost : add start none = none := by cases start <;> rfl
        rw [List.foldl_cons, lost, kept]
      · exact ih later (add start term)
  exact reached sumStart

end

variable {R : Type} [CommRing R] [LinearOrder R] [Scalar R] [ExactScalar R]

theorem isNumber_some (number : R) : IsNumber (some number) := isNumber_exact number

theorem isNumber_iff_some {number : Option R} : IsNumber number ↔ ∃ value, number = some value := by
  cases number with
  | none => exact ⟨nofun, nofun⟩
  | some value => exact ⟨fun _ => ⟨value, rfl⟩, fun _ => isNumber_some value⟩

end Scalar

section

variable {R : Type} [CommRing R] [LinearOrder R] [Scalar R] [ExactScalar R]

instance : RankedScalar (Option R) where
  rankLe_trans {first second third} below above := by
    cases third with
    | none => cases first <;> rfl
    | some third =>
      cases second with
      | none => exact nomatch above
      | some second =>
        cases first with
        | none => exact nomatch below
        | some first => exact RankedScalar.rankLe_trans (S := R) below above
  rankLe_total first second := by
    cases first with
    | none => cases second <;> rfl
    | some first =>
      cases second with
      | none => rfl
      | some second => exact RankedScalar.rankLe_total first second

instance : ComparableScalar (Option R) where
  le_trans below above := by
    obtain ⟨first, second, rfl, rfl, low⟩ := Scalar.compared_iff.mp below
    obtain ⟨_, third, ⟨⟩, rfl, high⟩ := Scalar.compared_iff.mp above
    exact Scalar.compared_iff.mpr ⟨first, third, rfl, rfl, ComparableScalar.le_trans (S := R) low high⟩
  isNumber_left below := by
    obtain ⟨first, _, rfl, _⟩ := Scalar.compared_iff.mp below
    exact Scalar.isNumber_some first
  isNumber_right below := by
    obtain ⟨_, second, _, rfl, _⟩ := Scalar.compared_iff.mp below
    exact Scalar.isNumber_some second
  isNumber_top := Scalar.isNumber_some _
  le_total firstNumber secondNumber := by
    obtain ⟨first, rfl⟩ := Scalar.isNumber_iff_some.mp firstNumber
    obtain ⟨second, rfl⟩ := Scalar.isNumber_iff_some.mp secondNumber
    exact ComparableScalar.le_total (S := R) (Scalar.isNumber_exact first) (Scalar.isNumber_exact second)
  lt_iff {first second} := by
    cases first with
    | none => exact ⟨nofun, fun less => absurd less.1 Scalar.not_isNumber_none⟩
    | some first =>
      cases second with
      | none => exact ⟨nofun, fun less => absurd less.2.1 Scalar.not_isNumber_none⟩
      | some second => exact ComparableScalar.lt_iff (S := R)
  min_le firstNumber secondNumber := by
    obtain ⟨first, rfl⟩ := Scalar.isNumber_iff_some.mp firstNumber
    obtain ⟨second, rfl⟩ := Scalar.isNumber_iff_some.mp secondNumber
    exact ComparableScalar.min_le (S := R) (Scalar.isNumber_exact first) (Scalar.isNumber_exact second)
  le_max firstNumber secondNumber := by
    obtain ⟨first, rfl⟩ := Scalar.isNumber_iff_some.mp firstNumber
    obtain ⟨second, rfl⟩ := Scalar.isNumber_iff_some.mp secondNumber
    exact ComparableScalar.le_max (S := R) (Scalar.isNumber_exact first) (Scalar.isNumber_exact second)
  le_of_rankLe firstNumber secondNumber ranked := by
    obtain ⟨first, rfl⟩ := Scalar.isNumber_iff_some.mp firstNumber
    obtain ⟨second, rfl⟩ := Scalar.isNumber_iff_some.mp secondNumber
    exact ComparableScalar.le_of_rankLe (S := R) (Scalar.isNumber_exact first) (Scalar.isNumber_exact second) ranked

end

end SpatialStore
