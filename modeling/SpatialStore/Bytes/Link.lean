import SpatialStore.Bytes.Kind

/-! Links: a slot in an index field. No slot is written as minus one, any negative number reads as no
slot, and a slot that a signed 32-bit number cannot hold is turned down. -/

namespace SpatialStore.Link

def none : Int32 := -1

/-- The largest slot that a link can name. -/
def largest : Nat := 0x7fffffff

def ofSlot : Option Nat → Except Refusal Int32
  | .none => .ok none
  | .some slot =>
    if slot ≤ largest then .ok (Int32.ofNat slot) else .error (.indexOverflow slot)

def slot? (link : Int32) : Option Nat :=
  if link.toInt < 0 then .none else .some link.toInt.toNat

theorem slot?_ofSlot {slot : Option Nat} {link : Int32} (written : ofSlot slot = .ok link) :
    slot? link = slot := by
  cases slot with
  | none =>
    simp only [ofSlot, Except.ok.injEq] at written
    rw [← written]
    rfl
  | some slot =>
    simp only [ofSlot] at written
    split at written
    next small =>
      simp only [Except.ok.injEq] at written
      have value : link.toInt = slot := by
        rw [← written]
        exact Int32.toInt_ofNat_of_lt (by unfold largest at small; omega)
      simp [slot?, value]
    next => simp at written

theorem ofSlot_ok {slot : Option Nat} (fits : ∀ named ∈ slot, named ≤ largest) :
    ∃ link, ofSlot slot = .ok link := by
  cases slot with
  | none => exact ⟨_, rfl⟩
  | some slot => exact ⟨_, if_pos (fits slot rfl)⟩

def get (offset : Nat) (bytes : Bytes) : Except Fault (Option Nat) :=
  (Kind.index.get offset bytes).map slot?

def put (offset : Nat) (slot : Option Nat) : Step PoolFailure Bytes Unit :=
  match ofSlot slot with
  | .ok link => Step.within id (fun bytes _ => bytes) .fault (Kind.index.put offset link)
  | .error reason => throw (.refused reason)

end SpatialStore.Link
