import SpatialStore.Bytes.Field

/-! Layouts: fields side by side, each starting where the one before it stops. -/

namespace SpatialStore

structure Layout where
  size : Nat := 0
  deriving DecidableEq

namespace Layout

def empty : Layout := {}

def place (layout : Layout) (shape : Shape) : Field × Layout :=
  let field : Field := ⟨shape, layout.size⟩
  (field, ⟨field.stop⟩)

def placeAll (layout : Layout) : List Shape → List Field × Layout
  | [] => ([], layout)
  | shape :: rest =>
    let (field, next) := layout.place shape
    let (fields, last) := next.placeAll rest
    (field :: fields, last)

end Layout

end SpatialStore
