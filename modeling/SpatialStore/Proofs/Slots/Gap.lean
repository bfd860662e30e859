import Mathlib.Data.List.Nodup

/-! Lists in which a gap is closed by the last entry. All other entries keep their places. -/

namespace SpatialStore

/-- A list without the entry in one place, which the last entry takes over. -/
def closeGap {β : Type} (items : List β) (place : Nat) : List β :=
  match items.getLast? with
  | none => []
  | some last => (items.set place last).dropLast

theorem getElem?_closeGap {β : Type} (items : List β) (place index : Nat) :
    (closeGap items place)[index]? =
      if index + 1 < items.length
      then if index = place then items[items.length - 1]? else items[index]?
      else none := by
  unfold closeGap
  rw [List.getLast?_eq_getElem?]
  cases found : items[items.length - 1]? with
  | none =>
    have empty := List.getElem?_eq_none_iff.mp found
    rw [if_neg (by omega)]
    rfl
  | some last =>
    simp only [List.getElem?_dropLast, List.getElem?_set, List.length_set]
    by_cases inside : index + 1 < items.length
    · rw [if_pos inside, if_pos (by omega)]
      by_cases here : index = place
      · rw [if_pos here, if_pos here.symm, if_pos (by omega)]
      · rw [if_neg here, if_neg (fun same => here same.symm)]
    · rw [if_neg inside, if_neg (by omega)]

@[simp] theorem length_closeGap {β : Type} (items : List β) (place : Nat) :
    (closeGap items place).length = items.length - 1 := by
  unfold closeGap
  cases found : items.getLast? with
  | none =>
    have empty := List.getLast?_eq_none_iff.mp found
    simp [empty]
  | some last => simp

theorem place_unique {κ : Type} {keys : List κ} (distinct : keys.Nodup) {first second : Nat} {key : κ}
    (atFirst : keys[first]? = some key) (atSecond : keys[second]? = some key) : first = second := by
  obtain ⟨firstInside, firstKey⟩ := List.getElem?_eq_some_iff.mp atFirst
  obtain ⟨secondInside, secondKey⟩ := List.getElem?_eq_some_iff.mp atSecond
  exact (List.Nodup.getElem_inj_iff distinct).mp (firstKey.trans secondKey.symm)

theorem mem_of_mem_closeGap {β : Type} {items : List β} {place : Nat} {item : β}
    (member : item ∈ closeGap items place) : item ∈ items := by
  obtain ⟨index, found⟩ := List.mem_iff_getElem?.mp member
  rw [getElem?_closeGap] at found
  split at found
  next =>
    split at found
    next => exact List.mem_of_getElem? found
    next => exact List.mem_of_getElem? found
  next => exact nomatch found

/-- Where an entry is after the gap was closed: where it was, or, if it was the last, in the gap. -/
theorem place_in_closeGap {β : Type} {items : List β} {place index : Nat} {item : β}
    (found : (closeGap items place)[index]? = some item) :
    index + 1 < items.length ∧
      ((index = place ∧ items[items.length - 1]? = some item) ∨ (index ≠ place ∧ items[index]? = some item)) := by
  rw [getElem?_closeGap] at found
  split at found
  next inside =>
    split at found
    next here => exact ⟨inside, Or.inl ⟨here, found⟩⟩
    next other => exact ⟨inside, Or.inr ⟨other, found⟩⟩
  next => exact nomatch found

theorem closeGap_last {β : Type} {items : List β} {place : Nat} (last : place + 1 = items.length) :
    closeGap items place = items.dropLast := by
  apply List.ext_getElem?
  intro index
  rw [getElem?_closeGap, List.getElem?_dropLast]
  by_cases inside : index + 1 < items.length
  · rw [if_pos inside, if_neg (by omega), if_pos (by omega)]
  · rw [if_neg inside, if_neg (by omega)]

theorem getElem?_closeGap_iff {β : Type} {items : List β} (distinct : items.Nodup) {place : Nat} {gone : β}
    (here : items[place]? = some gone) {index : Nat} {item : β} :
    (closeGap items place)[index]? = some item ↔
      item ≠ gone ∧ ((items[items.length - 1]? = some item ∧ index = place) ∨
        (items[items.length - 1]? ≠ some item ∧ items[index]? = some item)) := by
  constructor
  · intro found
    obtain ⟨inside, ⟨atPlace, last⟩ | ⟨other, kept⟩⟩ := place_in_closeGap found
    · refine ⟨?_, Or.inl ⟨last, atPlace⟩⟩
      intro same
      have places := place_unique distinct last (same ▸ here)
      omega
    · refine ⟨?_, Or.inr ⟨?_, kept⟩⟩
      · intro same
        exact other (place_unique distinct kept (same ▸ here))
      · intro last
        have places := place_unique distinct kept last
        omega
  · intro kept
    obtain ⟨different, ⟨last, rfl⟩ | ⟨notLast, found⟩⟩ := kept
    · have inside := (List.getElem?_eq_some_iff.mp here).1
      have notLast : index ≠ items.length - 1 := by
        intro atLast
        exact different (Option.some.inj (last.symm.trans (atLast ▸ here)))
      rw [getElem?_closeGap, if_pos (by omega), if_pos rfl, last]
    · have inside := (List.getElem?_eq_some_iff.mp found).1
      have apart : index ≠ place := by
        intro same
        exact different (Option.some.inj (found.symm.trans (same ▸ here)))
      have before : index ≠ items.length - 1 := by
        intro atLast
        exact notLast (atLast ▸ found)
      rw [getElem?_closeGap, if_pos (by omega), if_neg apart, found]

theorem below_closeGap {β : Type} {items : List β} {item : β} {bound : Nat}
    (below : ∀ index, items[index]? = some item → index < bound) (place index : Nat)
    (found : (closeGap items place)[index]? = some item) : index < bound := by
  obtain ⟨inside, ⟨_, last⟩ | ⟨_, kept⟩⟩ := place_in_closeGap found
  · have lastBelow := below _ last
    omega
  · exact below index kept

theorem moved_closeGap {β : Type} {items : List β} (distinct : items.Nodup) {item : β} {old place : Nat}
    (here : items[old]? = some item) (moved : old = place ∨ old = items.length - 1) (index : Nat)
    (found : (closeGap items place)[index]? = some item) : index < old := by
  obtain ⟨inside, ⟨_, last⟩ | ⟨other, kept⟩⟩ := place_in_closeGap found
  · have places := place_unique distinct here last
    omega
  · have places := place_unique distinct here kept
    omega

theorem nodup_closeGap {β : Type} {items : List β} (distinct : items.Nodup) (place : Nat) :
    (closeGap items place).Nodup := by
  rw [List.nodup_iff_getElem?_ne_getElem?]
  intro first second before inside same
  have present := List.getElem?_eq_getElem inside
  obtain ⟨_, atSecond⟩ := place_in_closeGap present
  obtain ⟨_, atFirst⟩ := place_in_closeGap (same.trans present)
  rw [length_closeGap] at inside
  rcases atFirst with ⟨firstHere, firstLast⟩ | ⟨firstOther, firstKept⟩
  · rcases atSecond with ⟨secondHere, _⟩ | ⟨_, secondKept⟩
    · omega
    · have places := place_unique distinct firstLast secondKept
      omega
  · rcases atSecond with ⟨_, secondLast⟩ | ⟨_, secondKept⟩
    · have places := place_unique distinct firstKept secondLast
      omega
    · have places := place_unique distinct firstKept secondKept
      omega

end SpatialStore
