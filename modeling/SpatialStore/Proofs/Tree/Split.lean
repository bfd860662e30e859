import SpatialStore.Proofs.Number.Exact
import SpatialStore.Tree.Split

/-! What a split promises: no point below the pivot ranks above it in the splitting dimension, and none
above it ranks below. In which order points with equal coordinates come is left open. -/

namespace SpatialStore

namespace Site

variable {S : Type} {N : Nat} [Scalar S]

theorem rankLe_trans [RankedScalar S] (dimension : Nat) {first second third : Site S N}
    (lower : rankLe dimension first second = true) (upper : rankLe dimension second third = true) :
    rankLe dimension first third = true :=
  RankedScalar.rankLe_trans lower upper

theorem rankLe_total [RankedScalar S] (dimension : Nat) (first second : Site S N) :
    (rankLe dimension first second || rankLe dimension second first) = true :=
  RankedScalar.rankLe_total _ _

theorem medianOrder_pairwise [RankedScalar S] (dimension : Nat) (sites : List (Site S N)) :
    (medianOrder dimension sites).Pairwise fun first second => rankLe dimension first second = true := by
  unfold medianOrder
  split
  next first second =>
    by_cases swapped : rankLe dimension second first = true
    · rw [if_pos swapped]
      simp [swapped]
    · rw [if_neg swapped]
      have total := rankLe_total dimension first second
      rw [Bool.eq_false_iff.mpr swapped, Bool.or_false] at total
      simp [total]
  next =>
    apply List.pairwise_mergeSort
    · intro first second third
      exact rankLe_trans dimension
    · exact rankLe_total dimension

/-- The widest dimension is one of the dimensions; points without dimensions count as having the first. -/
theorem widestDimension_lt (sites : List (Site S N)) : widestDimension sites < Nat.max N 1 := by
  have each : ∀ (dimensions : List Nat) (best : Nat × S), best.1 < Nat.max N 1 →
      (∀ dimension ∈ dimensions, dimension < N) →
      (dimensions.foldl (fun (best : Nat × S) dimension =>
        let spread := spread sites dimension
        if Scalar.lt best.2 spread then (dimension, spread) else best) best).1 < Nat.max N 1 := by
    intro dimensions
    induction dimensions with
    | nil => exact fun best small _ => small
    | cons dimension rest ih =>
      intro best small inside
      rw [List.foldl_cons]
      apply ih
      · simp only
        split
        · exact Nat.lt_of_lt_of_le (inside dimension List.mem_cons_self) (Nat.le_max_left _ _)
        · exact small
      · intro other member
        exact inside other (List.mem_cons_of_mem _ member)
  apply each
  · exact Nat.lt_of_lt_of_le Nat.zero_lt_one (Nat.le_max_right _ _)
  · intro dimension member
    exact List.mem_range.mp member

end Site

namespace Split

variable {S : Type} {N : Nat} [Scalar S]

theorem ofSites_eq_none {sites : List (Site S N)} (none : ofSites sites = none) : sites = [] := by
  unfold ofSites at none
  simp only at none
  split at none
  next short =>
    have lengths := congrArg List.length short
    rw [List.length_drop, (Site.medianOrder_perm _ _).length_eq, List.length_nil] at lengths
    apply List.eq_nil_of_length_eq_zero
    omega
  next => exact nomatch none

theorem ofSites_cases {sites : List (Site S N)} {split : Split S N} (made : ofSites sites = some split) :
    split.dimension = Site.widestDimension sites ∧ split.lower.length = sites.length / 2 ∧
      Site.medianOrder split.dimension sites = split.lower ++ split.pivot :: split.upper := by
  unfold ofSites at made
  simp only at made
  split at made
  next => exact nomatch made
  next pivot upper rest =>
    obtain rfl := Option.some.inj made
    refine ⟨rfl, ?_, ?_⟩
    · rw [List.length_take, (Site.medianOrder_perm _ _).length_eq]
      exact Nat.min_eq_left (Nat.div_le_self _ _)
    · rw [← rest]
      exact (List.take_append_drop _ _).symm

/-- All points are there, half of them below the pivot. Any order of the points that puts those with smaller
coordinates first splits them so. -/
structure Halves (split : Split S N) (sites : List (Site S N)) : Prop where
  perm : (split.lower ++ split.pivot :: split.upper).Perm sites
  middle : split.lower.length = sites.length / 2
  widest : split.dimension = Site.widestDimension sites
  separates : ∀ [RankedScalar S], (∀ site ∈ split.lower, Site.rankLe split.dimension site split.pivot = true) ∧
    ∀ site ∈ split.upper, Site.rankLe split.dimension split.pivot site = true

theorem Halves.length_eq {sites : List (Site S N)} {split : Split S N} (halves : split.Halves sites) :
    split.lower.length + 1 + split.upper.length = sites.length := by
  rw [← halves.perm.length_eq, List.length_append, List.length_cons, Nat.add_assoc, Nat.add_comm 1]

theorem Halves.dimension_lt {sites : List (Site S N)} {split : Split S N} (halves : split.Halves sites) :
    split.dimension < Nat.max N 1 := by
  rw [halves.widest]
  exact Site.widestDimension_lt sites

theorem halves_ofSites {sites : List (Site S N)} {split : Split S N} (made : ofSites sites = some split) :
    split.Halves sites := by
  obtain ⟨widest, middle, order⟩ := ofSites_cases made
  refine ⟨perm_of_ofSites made, middle, widest, ?_⟩
  intro _
  have ordered := Site.medianOrder_pairwise split.dimension sites
  rw [order, List.pairwise_append, List.pairwise_cons] at ordered
  obtain ⟨_, ⟨above, _⟩, below⟩ := ordered
  exact ⟨fun site member => below site member split.pivot List.mem_cons_self, above⟩

end Split

end SpatialStore
