import SpatialStore.Failure

/-! Buffers of cells. A cell is a byte when records are stored, but nothing here depends on that. -/

namespace SpatialStore

class Cell (γ : Type) where
  /-- The content of a cell that nothing was written to. -/
  blank : γ

instance : Cell UInt8 := ⟨0⟩

namespace Cells

variable {γ : Type}

def read (cells : Array γ) (start width : Nat) : List γ :=
  (cells.extract start (start + width)).toList

def write (cells : Array γ) (start : Nat) : List γ → Array γ
  | [] => cells
  | cell :: rest => write (cells.setIfInBounds start cell) (start + 1) rest

/-- Exchanges two pieces of a buffer, which is cut in two where the upper piece starts: the lower one has to
end before that. -/
def exchange (cells : Array γ) (first second width : Nat) : Except Fault (Array γ) :=
  let (lower, upper) := if first < second then (first, second) else (second, first)
  if upper + width ≤ cells.size ∧ lower + width ≤ upper then
    .ok (write (write cells lower (read cells upper width)) upper (read cells lower width))
  else .error .outOfRange

/-- Copies a piece of a buffer over a piece of a buffer, which may be the same one. -/
def copy (origin : Array γ) (source : Nat) (cells : Array γ) (target width : Nat) :
    Except Fault (Array γ) :=
  if source + width ≤ origin.size ∧ target + width ≤ cells.size then
    .ok (write cells target (read origin source width))
  else .error .outOfRange

def blank [Cell γ] (count : Nat) : Array γ := Array.replicate count Cell.blank

def resize [Cell γ] (cells : Array γ) (count : Nat) : Array γ :=
  if count ≤ cells.size then cells.extract 0 count else cells ++ blank (count - cells.size)

@[simp] theorem size_write (cells : Array γ) (start : Nat) (content : List γ) :
    (write cells start content).size = cells.size := by
  induction content generalizing cells start with
  | nil => rfl
  | cons cell rest ih => simp [write, ih]

@[simp] theorem size_resize [Cell γ] (cells : Array γ) (count : Nat) :
    (resize cells count).size = count := by
  unfold resize blank
  split <;> simp <;> omega

theorem getElem?_write (cells : Array γ) (start : Nat) (content : List γ) (index : Nat) :
    (write cells start content)[index]? =
      if start ≤ index ∧ index < start + content.length ∧ index < cells.size
      then content[index - start]? else cells[index]? := by
  induction content generalizing cells start with
  | nil =>
    have none : ¬(start ≤ index ∧ index < start + ([] : List γ).length ∧ index < cells.size) := by
      simp only [List.length_nil]
      omega
    rw [if_neg none, write]
  | cons cell rest ih =>
    rw [write, ih, Array.getElem?_setIfInBounds]
    simp only [Array.size_setIfInBounds, List.length_cons]
    by_cases here : start = index
    · subst here
      have later : ¬start + 1 ≤ start := by omega
      by_cases inside : start < cells.size <;> simp [inside, later]
    · by_cases after : start + 1 ≤ index
      · have place : index - start = (index - (start + 1)) + 1 := by omega
        simp only [here, if_false, place, List.getElem?_cons_succ]
        congr 1
        simp only [eq_iff_iff]
        omega
      · rw [if_neg (by omega), if_neg here, if_neg (by omega)]

end Cells

end SpatialStore
