import Std.Data.TreeMap
import SpatialStore.Number.Scalar

/-! How far the spots of each timepoint reach: the largest squared radius that has been reported. -/

namespace SpatialStore

structure Reach (S : Type) where
  largest : Std.TreeMap Int32 S := {}

namespace Reach

variable {S : Type} [Scalar S]

def report (reach : Reach S) (timepoint : Int32) (squaredRadius : S) : Reach S :=
  let held := (reach.largest[timepoint]?).getD squaredRadius
  ⟨reach.largest.insert timepoint (Scalar.max held squaredRadius)⟩

def ofRadii (radii : List (Int32 × S)) : Reach S :=
  radii.foldl (fun reach entry => reach.report entry.1 entry.2) {}

def largestAt (reach : Reach S) (timepoint : Int32) : Option S := reach.largest[timepoint]?

end Reach

end SpatialStore
