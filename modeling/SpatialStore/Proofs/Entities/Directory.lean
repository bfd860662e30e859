import SpatialStore.Entities.Directory
import SpatialStore.Proofs.Slots.Pool

/-! Directories whose two sides are inverse to each other. Entering an entity at the next slot keeps them
so, and so does removing one, if the directory is told of the same move as the pool has made. -/

namespace SpatialStore

/-- Two lists in step: at one place the first has this key and the second this value. -/
def Together {κ ν : Type} (keys : List κ) (values : List ν) (key : κ) (value : ν) : Prop :=
  ∃ place : Nat, keys[place]? = some key ∧ values[place]? = some value

theorem together_append {κ ν : Type} {keys : List κ} {values : List ν}
    (step : keys.length = values.length) (lastKey key : κ) (lastValue value : ν) :
    Together (keys ++ [lastKey]) (values ++ [lastValue]) key value ↔
      Together keys values key value ∨ (lastKey = key ∧ lastValue = value) := by
  constructor
  · intro together
    obtain ⟨place, atKey, atValue⟩ := together
    by_cases inside : place < keys.length
    · rw [List.getElem?_append_left inside] at atKey
      rw [List.getElem?_append_left (by omega)] at atValue
      exact Or.inl ⟨place, atKey, atValue⟩
    · rw [List.getElem?_append_right (by omega)] at atKey
      rw [List.getElem?_append_right (by omega), ← step] at atValue
      have first : place - keys.length = 0 := by
        have bound := (List.getElem?_eq_some_iff.mp atKey).1
        simpa using bound
      rw [first] at atKey atValue
      exact Or.inr ⟨by simpa using atKey, by simpa using atValue⟩
  · intro either
    rcases either with ⟨place, atKey, atValue⟩ | ⟨rfl, rfl⟩
    · have inside := (List.getElem?_eq_some_iff.mp atKey).1
      refine ⟨place, ?_, ?_⟩
      · rw [List.getElem?_append_left inside, atKey]
      · rw [List.getElem?_append_left (by omega), atValue]
    · refine ⟨keys.length, by simp, ?_⟩
      rw [step]
      simp

theorem together_set {κ ν : Type} {keys : List κ} {values : List ν} (distinct : keys.Nodup)
    (step : keys.length = values.length) {place : Nat} {changed : κ}
    (here : keys[place]? = some changed) (key : κ) (written value : ν) :
    Together keys (values.set place written) key value ↔
      (key = changed ∧ written = value) ∨ (key ≠ changed ∧ Together keys values key value) := by
  have inside := (List.getElem?_eq_some_iff.mp here).1
  have elsewhere : key ≠ changed → ∀ other, keys[other]? = some key → place ≠ other := by
    intro different other atKey same
    exact different (Option.some.inj (atKey.symm.trans (same ▸ here)))
  constructor
  · intro together
    obtain ⟨other, atKey, atValue⟩ := together
    by_cases same : key = changed
    · subst key
      obtain rfl := place_unique distinct here atKey
      rw [List.getElem?_set_self (by omega)] at atValue
      exact Or.inl ⟨rfl, Option.some.inj atValue⟩
    · rw [List.getElem?_set_ne (elsewhere same other atKey)] at atValue
      exact Or.inr ⟨same, other, atKey, atValue⟩
  · intro either
    rcases either with ⟨rfl, rfl⟩ | ⟨different, other, atKey, atValue⟩
    · exact ⟨place, here, List.getElem?_set_self (by omega)⟩
    · refine ⟨other, atKey, ?_⟩
      rw [List.getElem?_set_ne (elsewhere different other atKey), atValue]

theorem together_closeGap {κ ν : Type} {keys : List κ} {values : List ν} (distinct : keys.Nodup)
    (step : keys.length = values.length) {place : Nat} {gone : κ} (here : keys[place]? = some gone)
    (key : κ) (value : ν) :
    Together (closeGap keys place) (closeGap values place) key value ↔
      key ≠ gone ∧ Together keys values key value := by
  have apart : ∀ other, key ≠ gone → keys[other]? = some key → other ≠ place := by
    intro other different atKey same
    exact different (Option.some.inj (atKey.symm.trans (same ▸ here)))
  constructor
  · intro together
    obtain ⟨other, atKey, atValue⟩ := together
    rw [getElem?_closeGap, ← step, if_pos (place_in_closeGap atKey).1] at atValue
    obtain ⟨different, ⟨last, rfl⟩ | ⟨_, kept⟩⟩ := (getElem?_closeGap_iff distinct here).mp atKey
    · rw [if_pos rfl] at atValue
      exact ⟨different, _, last, atValue⟩
    · rw [if_neg (apart other different kept)] at atValue
      exact ⟨different, other, kept, atValue⟩
  · intro kept
    obtain ⟨different, other, atKey, atValue⟩ := kept
    by_cases last : other = keys.length - 1
    · rw [last] at atKey
      have there := (getElem?_closeGap_iff distinct here).mpr ⟨different, Or.inl ⟨atKey, rfl⟩⟩
      refine ⟨place, there, ?_⟩
      rw [getElem?_closeGap, ← step, if_pos (place_in_closeGap there).1, if_pos rfl, ← last, atValue]
    · have notLast : keys[keys.length - 1]? ≠ some key := fun atLast => last (place_unique distinct atKey atLast)
      have there := (getElem?_closeGap_iff distinct here).mpr ⟨different, Or.inr ⟨notLast, atKey⟩⟩
      refine ⟨other, there, ?_⟩
      rw [getElem?_closeGap, ← step, if_pos (place_in_closeGap there).1,
        if_neg (apart other different atKey), atValue]

namespace Directory

def Paired (directory : Directory) : Prop :=
  ∀ id slot, directory.slotOf id = some slot ↔ directory.idAt slot = some id

theorem slotOf_empty (id : EntityId) : slotOf {} id = none := by
  rw [slotOf]
  exact Std.TreeMap.getElem?_emptyc

theorem paired_empty : Paired {} := by
  intro id slot
  rw [slotOf_empty]
  simp [idAt]

theorem contains_eq (directory : Directory) (id : EntityId) :
    directory.contains id = (directory.slotOf id).isSome :=
  Std.TreeMap.contains_eq_isSome_getElem?

theorem getElem?_ids (directory : Directory) (slot : Nat) :
    directory.ids.toList[slot]? = directory.idAt slot := Array.getElem?_toList

theorem Paired.nodup {directory : Directory} (paired : directory.Paired) :
    directory.ids.toList.Nodup := by
  rw [List.nodup_iff_getElem?_ne_getElem?]
  intro first second before inside same
  rw [getElem?_ids, getElem?_ids] at same
  have present : second < directory.ids.size := by simpa using inside
  have found : directory.idAt second = some directory.ids[second] := Array.getElem?_eq_getElem present
  have atSecond := (paired _ _).mpr found
  have atFirst := (paired _ _).mpr (same.trans found)
  have slots := Option.some.inj (atFirst.symm.trans atSecond)
  omega

theorem slotOf_none {directory : Directory} {id : EntityId} (vacant : directory.contains id = false) :
    directory.slotOf id = none := by
  rw [contains_eq] at vacant
  exact Option.isSome_eq_false_iff.mp vacant |> Option.isNone_iff_eq_none.mp

theorem idAt_lt {directory : Directory} {slot : Nat} {id : EntityId}
    (found : directory.idAt slot = some id) : slot < directory.len :=
  (Array.getElem?_eq_some_iff.mp found).1

theorem insert_ok {directory : Directory} (paired : directory.Paired) {id : EntityId}
    (vacant : directory.contains id = false) :
    ∃ next, insert id directory.len directory = .ok () next ∧ next.Paired ∧
      next.ids = directory.ids.push id := by
  have free : directory.checkVacant id = .ok () := by
    rw [checkVacant, vacant]
    rfl
  refine ⟨⟨directory.slots.insert id directory.len, directory.ids.push id⟩, ?_, ?_, rfl⟩
  · rw [insert, Step.bind_of_ok (Step.read_of_ok (fun directory => checkVacant directory id) free)]
    rw [Step.bind_get, if_pos rfl]
    rfl
  · intro other slot
    have absent := slotOf_none vacant
    change (directory.slots.insert id directory.len)[other]? = some slot ↔
      (directory.ids.push id)[slot]? = some other
    rw [Std.TreeMap.getElem?_insert, Array.getElem?_push]
    by_cases same : id = other
    · subst other
      rw [if_pos Std.ReflCmp.compare_self]
      constructor
      · intro last
        obtain rfl := Option.some.inj last
        exact if_pos rfl
      · intro atSlot
        by_cases last : slot = directory.ids.size
        · exact congrArg some last.symm
        · rw [if_neg last] at atSlot
          have taken := (paired id slot).mpr atSlot
          rw [absent] at taken
          exact nomatch taken
    · rw [if_neg (fun equal => same (Std.LawfulEqCmp.eq_of_compare equal))]
      by_cases last : slot = directory.ids.size
      · rw [if_pos last]
        constructor
        · intro atOther
          have inside := idAt_lt ((paired other slot).mp atOther)
          exact absurd last (Nat.ne_of_lt inside)
        · intro atSlot
          exact absurd (Option.some.inj atSlot) same
      · rw [if_neg last]
        exact paired other slot

/-- A directory whose entry in one slot was dropped, while the last entry moved there, is still paired. -/
theorem paired_closeGap {directory next : Directory} (paired : directory.Paired) {slot : Nat}
    {gone : EntityId} (here : directory.idAt slot = some gone)
    (ids : next.ids.toList = closeGap directory.ids.toList slot)
    (slots : ∀ id, next.slotOf id =
      if id = gone then none
      else if directory.slotOf id = some (directory.len - 1) then some slot
      else directory.slotOf id) : next.Paired := by
  intro id place
  have listed : directory.ids.toList[slot]? = some gone := (getElem?_ids directory slot).trans here
  rw [slots, ← getElem?_ids next, ids, getElem?_closeGap_iff paired.nodup listed, getElem?_ids, getElem?_ids]
  change _ ↔ id ≠ gone ∧ ((directory.idAt (directory.len - 1) = some id ∧ place = slot) ∨
    (directory.idAt (directory.len - 1) ≠ some id ∧ directory.idAt place = some id))
  rw [ne_eq (directory.idAt _), ← paired, ← paired]
  by_cases same : id = gone
  · rw [if_pos same]
    exact ⟨nofun, fun kept => absurd same kept.1⟩
  · rw [if_neg same]
    by_cases last : directory.slotOf id = some (directory.len - 1)
    · rw [if_pos last]
      constructor
      · intro moved
        exact ⟨same, Or.inl ⟨last, (Option.some.inj moved).symm⟩⟩
      · intro kept
        obtain ⟨_, ⟨_, rfl⟩ | ⟨notLast, _⟩⟩ := kept
        · rfl
        · exact absurd last notLast
    · rw [if_neg last]
      constructor
      · intro found
        exact ⟨same, Or.inr ⟨last, found⟩⟩
      · intro kept
        obtain ⟨_, ⟨atLast, _⟩ | ⟨_, found⟩⟩ := kept
        · exact absurd atLast last
        · exact found

theorem slotOf_insert (directory : Directory) (moved id : EntityId) (slot : Nat) :
    (directory.slots.insert moved slot)[id]? = if moved = id then some slot else directory.slotOf id := by
  rw [Std.TreeMap.getElem?_insert]
  by_cases same : moved = id
  · rw [if_pos same, same, if_pos Std.ReflCmp.compare_self]
  · rw [if_neg same, if_neg (fun equal => same (Std.LawfulEqCmp.eq_of_compare equal)), slotOf]

theorem slotOf_erase (directory : Directory) (gone id : EntityId) :
    (directory.slots.erase gone)[id]? = if gone = id then none else directory.slotOf id := by
  rw [Std.TreeMap.getElem?_erase]
  by_cases same : gone = id
  · rw [if_pos same, same, if_pos Std.ReflCmp.compare_self]
  · rw [if_neg same, if_neg (fun equal => same (Std.LawfulEqCmp.eq_of_compare equal)), slotOf]

theorem relocate_ok {directory : Directory} {source target : Nat} {moved : EntityId}
    (found : directory.idAt source = some moved) (inside : target < directory.len) :
    relocate ⟨source, target⟩ directory =
      .ok () ⟨directory.slots.insert moved target, directory.ids.setIfInBounds target moved⟩ := by
  rw [relocate, Step.bind_get, found]
  change (get >>= fun now : Directory => if target < now.len then _ else _ : Step _ _ _) _ = _
  rw [Step.bind_get, if_pos inside]
  rfl

theorem removeSlot_last {directory : Directory} (paired : directory.Paired) {slot : Nat} {gone : EntityId}
    (here : directory.idAt slot = some gone) (last : slot + 1 = directory.len) :
    ∃ next, removeSlot slot none directory = .ok gone next ∧
      next.Paired ∧ next.ids.toList = closeGap directory.ids.toList slot := by
  have ids : directory.ids.pop.toList = closeGap directory.ids.toList slot := by
    rw [Array.toList_pop, closeGap_last (by rw [Array.length_toList]; exact last)]
  refine ⟨⟨directory.slots.erase gone, directory.ids.pop⟩, ?_, paired_closeGap paired here ids ?_, ids⟩
  · rw [removeSlot, Step.bind_get, here]
    rfl
  · intro id
    change (directory.slots.erase gone)[id]? = _
    rw [slotOf_erase]
    by_cases same : gone = id
    · rw [if_pos same, if_pos same.symm]
    · rw [if_neg same, if_neg (fun equal => same equal.symm)]
      split
      next atEnd => rw [atEnd, ← last, Nat.add_sub_cancel]
      next => rfl

theorem removeSlot_moved {directory : Directory} (paired : directory.Paired) {slot : Nat}
    {gone moved : EntityId} (here : directory.idAt slot = some gone)
    (atLast : directory.idAt (directory.len - 1) = some moved) (notLast : slot + 1 ≠ directory.len) :
    ∃ next, removeSlot slot (some ⟨directory.len - 1, slot⟩) directory = .ok gone next ∧
      next.Paired ∧ next.ids.toList = closeGap directory.ids.toList slot := by
  have inside := idAt_lt here
  have slotLast := (paired _ _).mpr atLast
  have different : moved ≠ gone := by
    intro same
    have places := Option.some.inj (slotLast.symm.trans (same ▸ (paired gone slot).mpr here))
    omega
  have ids : (directory.ids.setIfInBounds slot moved).pop.toList = closeGap directory.ids.toList slot := by
    have last : directory.ids.toList.getLast? = some moved := by
      rw [List.getLast?_eq_getElem?, getElem?_ids, Array.length_toList]
      exact atLast
    rw [closeGap, last, Array.toList_pop, Array.toList_setIfInBounds]
  refine ⟨⟨(directory.slots.erase gone).insert moved slot, (directory.ids.setIfInBounds slot moved).pop⟩,
    ?_, paired_closeGap paired here ids ?_, ids⟩
  · have relocated := relocate_ok (show Directory.idAt { directory with slots := directory.slots.erase gone }
      (directory.len - 1) = _ from atLast) inside
    rw [removeSlot, Step.bind_get, here]
    change (relocate ⟨directory.len - 1, slot⟩ >>= _) { directory with
      slots := directory.slots.erase gone } = _
    rw [Step.bind_of_ok relocated]
    rfl
  · intro id
    change ((directory.slots.erase gone).insert moved slot)[id]? = _
    rw [slotOf_insert ⟨directory.slots.erase gone, directory.ids⟩]
    change (if _ then _ else (directory.slots.erase gone)[id]?) = _
    rw [slotOf_erase]
    by_cases isLast : moved = id
    · subst id
      rw [if_pos rfl, if_neg different, if_pos slotLast]
    · rw [if_neg isLast]
      by_cases same : gone = id
      · rw [if_pos same, if_pos same.symm]
      · rw [if_neg same, if_neg (fun equal => same equal.symm), if_neg]
        intro atEnd
        exact isLast (Option.some.inj (atLast.symm.trans ((paired _ _).mp atEnd)))

theorem removeSlot_ok {directory : Directory} (paired : directory.Paired) {slot : Nat} {gone : EntityId}
    (here : directory.idAt slot = some gone) :
    ∃ next, removeSlot slot (SlotPool.relocation directory.len slot) directory = .ok gone next ∧
      next.Paired ∧ next.ids.toList = closeGap directory.ids.toList slot := by
  rw [SlotPool.relocation]
  split
  next last => exact removeSlot_last paired here last
  next notLast =>
    have lastInside : directory.len - 1 < directory.ids.size := Nat.sub_one_lt_of_lt (idAt_lt here)
    exact removeSlot_moved paired here (Array.getElem?_eq_getElem lastInside) notLast

end Directory

end SpatialStore
