import SpatialStore.Sizing.Basic
import SpatialStore.Toml.Document

/-! Sizings written as TOML. Four keys at the top level count, and each holds an integer that is not
negative; a key that is missing takes its usual value. -/

namespace SpatialStore.Sizing

def setting (entries : Toml.Entries) (key : String) : Except SizingIssue (Option Nat) :=
  match entries.lookup key with
  | none => .ok none
  | some (.integer number) => if 0 ≤ number then .ok (some number.toNat) else .error .unreadable
  | some _ => .error .unreadable

def ofEntries (entries : Toml.Entries) : Except SizingIssue Sizing := do
  let initial ← setting entries "initial_capacity"
  let maximum ← setting entries "max_capacity"
  let handles ← setting entries "max_refs"
  let chunk ← setting entries "chunk_slots"
  let usual : Sizing := {}
  return {
    initialCapacity := initial.getD usual.initialCapacity
    maxCapacity := maximum
    maxHandles := handles.getD usual.maxHandles
    chunkSlots := chunk.getD usual.chunkSlots }

def ofToml (text : String) : Except Refusal Sizing :=
  match Toml.read text with
  | none => .error (.invalidSizing .unreadable)
  | some entries =>
    match ofEntries entries with
    | .error issue => .error (.invalidSizing issue)
    | .ok sizing => do
      sizing.validate
      return sizing

end SpatialStore.Sizing
