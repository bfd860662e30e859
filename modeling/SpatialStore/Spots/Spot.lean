import SpatialStore.Spots.Ellipsoid
import SpatialStore.Tree.Node
import SpatialStore.Bytes.Layout

/-! Spots: ellipsoids in space and time. The square of the radius of the sphere around a spot is kept
with its covariance and follows it. -/

namespace SpatialStore

structure Spot (S : Type) where
  position : Point S 3
  covariance : Vector S 9
  squaredRadius : S
  timepoint : Int32

namespace Spot

variable {S : Type}

instance : Located (Spot S) S 3 := ⟨position⟩

def sphere [Scalar S] (squaredRadius : S) : Vector S 9 :=
  let r := squaredRadius
  let z : S := Scalar.zero
  #v[r, z, z, z, r, z, z, z, r]

def ofSphere [Scalar S] (timepoint : Int32) (position : Point S 3) (radius : S) : Spot S :=
  let squaredRadius := Scalar.mul radius radius
  { position, covariance := sphere squaredRadius, squaredRadius, timepoint }

def withPosition (spot : Spot S) (position : Point S 3) : Spot S := { spot with position }

def withCovariance [AnalyticScalar S] (spot : Spot S) (covariance : Vector S 9) : Spot S :=
  { spot with covariance, squaredRadius := Ellipsoid.largestEigenvalue covariance }

/-! ### Spots as bytes -/

def layout : List Field × Layout :=
  Layout.empty.placeAll [.doubles 3, .doubles 9, .one .double, .one .int]

def encode (spot : Spot Double) : Bytes :=
  Doubles.encode spot.position.toList ++ Doubles.encode spot.covariance.toList ++
    Kind.double.encode spot.squaredRadius ++ Kind.int.encode spot.timepoint

def decode (bytes : Bytes) : Spot Double :=
  let (position, bytes) := Doubles.read 3 bytes
  let (covariance, bytes) := Doubles.read 9 bytes
  let (squaredRadius, bytes) := Kind.double.read bytes
  { position, covariance, squaredRadius, timepoint := Kind.int.decode bytes }

instance : Stored (Spot Double) UInt8 where
  width := layout.2.size
  fresh :=
    { position := Vector.replicate 3 Scalar.zero, covariance := Vector.replicate 9 Scalar.zero
      squaredRadius := Scalar.zero, timepoint := 0 }
  encode := encode
  decode := decode

instance : LawfulStored (Spot Double) where
  length_encode spot := by
    simp [Stored.encode, Stored.width, encode, Doubles.length_encode, layout, Layout.placeAll,
      Layout.place, Layout.empty, Field.stop, Shape.width, Kind.width]
  decode_encode spot := by
    simp [Stored.encode, Stored.decode, encode, decode, Kind.decode_encode]

end Spot

end SpatialStore
