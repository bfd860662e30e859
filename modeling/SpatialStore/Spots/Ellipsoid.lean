import SpatialStore.Number.Scalar

/-! The size of an ellipsoid: the largest eigenvalue of a symmetric matrix with three rows, by the
trigonometric solution of its characteristic cubic. Only the upper triangle is read. -/

namespace SpatialStore.Ellipsoid

variable {S : Type} [AnalyticScalar S]

open Scalar AnalyticScalar

/-- A matrix without coupling has its eigenvalues on the diagonal. -/
def largestOnDiagonal (first second third : S) : S :=
  Scalar.max (Scalar.max first second) third

def clampUnit (number : S) : S :=
  if lt number (neg (ofNat 1)) then neg (ofNat 1)
  else if lt (ofNat 1) number then ofNat 1
  else number

/-- With `q` the mean of the diagonal and `p` the scale, half the determinant of `(A - q) / p` is the
cosine of three times the angle of the largest eigenvalue. -/
def largestCoupled (a00 a01 a02 a11 a12 a22 coupling : S) : S :=
  let q := div (add (add a00 a11) a22) (ofNat 3)
  let d00 := sub a00 q
  let d11 := sub a11 q
  let d22 := sub a22 q
  let squares := add (add (mul d00 d00) (mul d11 d11)) (mul d22 d22)
  let p := sqrt (div (add squares (mul (ofNat 2) coupling)) (ofNat 6))
  let b00 := div d00 p
  let b11 := div d11 p
  let b22 := div d22 p
  let b01 := div a01 p
  let b02 := div a02 p
  let b12 := div a12 p
  let determinant := add
    (sub (mul b00 (sub (mul b11 b22) (mul b12 b12))) (mul b01 (sub (mul b01 b22) (mul b12 b02))))
    (mul b02 (sub (mul b01 b12) (mul b11 b02)))
  let angle := div (acos (clampUnit (div determinant (ofNat 2)))) (ofNat 3)
  add q (mul (mul (ofNat 2) p) (cos angle))

/-- The largest eigenvalue of a symmetric matrix, given row by row. -/
def largestEigenvalue (matrix : Vector S 9) : S :=
  let a01 := matrix[1]
  let a02 := matrix[2]
  let a12 := matrix[5]
  let coupling := add (add (mul a01 a01) (mul a02 a02)) (mul a12 a12)
  if le coupling zero then largestOnDiagonal matrix[0] matrix[4] matrix[8]
  else largestCoupled matrix[0] a01 a02 matrix[4] a12 matrix[8] coupling

end SpatialStore.Ellipsoid
