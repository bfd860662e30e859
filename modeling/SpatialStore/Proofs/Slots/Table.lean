import SpatialStore.Proofs.Slots.Plain
import SpatialStore.Proofs.Records.Writes

/-! A store as a table of rows. Whatever store it is, each act on it does what the same act does to a list of
rows, and fails when that does. -/

namespace SpatialStore

theorem Kind.eq_of_put_error (kind : Kind) {offset : Nat} {value : kind.Value} {bytes next : Bytes}
    {fault : Fault} (stopped : kind.put offset value bytes = .error fault next) : next = bytes := by
  unfold put at stopped
  split at stopped
  next => exact nomatch stopped
  next => exact (EStateM.Result.error.inj stopped).2.symm

namespace SlotStore

inductive Act
  | read (slot : Nat)
  | resize (count : Nat)
  | put (slot offset : Nat) (kind : Kind) (value : kind.Value)
  | zero (slot : Nat)
  | swap (first second : Nat)
  | copy (source target : Nat)

/-- There can be a buffer for all slots that the act asks for. -/
def Act.Fits (width : Nat) : Act → Prop
  | .resize count => count * width ≤ Size.largestBuffer
  | _ => True

def replaced {α : Type} (store : α) : Except Fault α → EStateM.Result Fault α (Option Bytes)
  | .ok next => .ok none next
  | .error fault => .error fault store

def perform {α : Type} [SlotStore α UInt8] : Act → Step Fault α (Option Bytes)
  | .read slot => Step.read (fun store : α => SlotStore.read store slot) >>= fun row => pure (some row)
  | .resize count => fun store => replaced store (SlotStore.resize store count)
  | .put slot offset kind value => edit slot (kind.put offset value) >>= fun _ => pure none
  | .zero slot => edit slot (modify Bytes.zeroed) >>= fun _ => pure none
  | .swap first second => fun store => replaced store (SlotStore.swap store first second)
  | .copy source target => fun store => replaced store (SlotStore.copy store source target)

def onRows (width : Nat) : Act → Step Unit (List Bytes) (Option Bytes)
  | .read slot => fun rows => match rows[slot]? with
    | some row => .ok (some row) rows
    | none => .error () rows
  | .resize count => fun rows =>
    .ok none (rows.take count ++ List.replicate (count - rows.length) (List.replicate width 0))
  | .put slot offset kind value => fun rows => match rows[slot]? with
    | some row => match kind.put offset value row with
      | .ok _ next => .ok none (rows.set slot next)
      | .error _ _ => .error () rows
    | none => .error () rows
  | .zero slot => fun rows => match rows[slot]? with
    | some row => .ok none (rows.set slot row.zeroed)
    | none => .error () rows
  | .swap first second => fun rows =>
    if first = second then .ok none rows
    else match rows[first]?, rows[second]? with
      | some firstRow, some secondRow => .ok none ((rows.set first secondRow).set second firstRow)
      | _, _ => .error () rows
  | .copy source target => fun rows =>
    if source = target then .ok none rows
    else match rows[source]?, rows[target]? with
      | some row, some _ => .ok none (rows.set target row)
      | _, _ => .error () rows

/-- An act that fails changes no row. -/
theorem eq_of_onRows_error {width : Nat} {act : Act} {rows next : List Bytes}
    (failed : onRows width act rows = .error () next) : next = rows := by
  cases act with
  | read slot =>
    simp only [onRows] at failed
    split at failed
    next => exact nomatch failed
    next => exact (EStateM.Result.error.inj failed).2.symm
  | resize count => exact nomatch failed
  | put slot offset kind value =>
    simp only [onRows] at failed
    split at failed
    next =>
      split at failed
      next => exact nomatch failed
      next => exact (EStateM.Result.error.inj failed).2.symm
    next => exact (EStateM.Result.error.inj failed).2.symm
  | zero slot =>
    simp only [onRows] at failed
    split at failed
    next => exact nomatch failed
    next => exact (EStateM.Result.error.inj failed).2.symm
  | swap first second =>
    simp only [onRows] at failed
    split at failed
    next => exact nomatch failed
    next =>
      split at failed
      next => exact nomatch failed
      next => exact (EStateM.Result.error.inj failed).2.symm
  | copy source target =>
    simp only [onRows] at failed
    split at failed
    next => exact nomatch failed
    next =>
      split at failed
      next => exact nomatch failed
      next => exact (EStateM.Result.error.inj failed).2.symm

/-- What each act answered; nothing for an act that failed. -/
def answers {ε σ : Type} (perform : Act → Step ε σ (Option Bytes)) (acts : List Act) (state : σ) :
    List (Option (Option Bytes)) :=
  (Step.outcomes perform acts state).map fun entry => entry.2.toOption

variable {α : Type} [SlotStore α UInt8] [LawfulSlotStore α] [PlainSlotStore α]

/-- A store of just these rows, for which memory can be had. -/
structure Shows (store : α) (width : Nat) (rows : List Bytes) : Prop where
  sound : LawfulSlotStore.Sound store
  regular : PlainSlotStore.Regular store
  width_eq : SlotStore.width store = width
  size_eq : size store = rows.length
  reads : ∀ slot row, rows[slot]? = some row → read store slot = .ok row

namespace Shows

variable {store : α} {width : Nat} {rows : List Bytes}

theorem inside (shows : Shows store width rows) {slot : Nat} {row : Bytes} (found : rows[slot]? = some row) :
    slot < size store :=
  shows.size_eq ▸ (List.getElem?_eq_some_iff.mp found).1

theorem outside (shows : Shows store width rows) {slot : Nat} (missing : rows[slot]? = none) :
    size store ≤ slot :=
  shows.size_eq ▸ List.getElem?_eq_none_iff.mp missing

theorem long (shows : Shows store width rows) {slot : Nat} {row : Bytes} (found : rows[slot]? = some row) :
    row.length = width := by
  obtain ⟨content, read, long⟩ := LawfulSlotStore.read_ok shows.sound (shows.inside found)
  obtain rfl := Except.ok.inj (read.symm.trans (shows.reads slot row found))
  exact long.trans shows.width_eq

theorem toOption_read (shows : Shows store width rows) (slot : Nat) :
    (read store slot).toOption = rows[slot]? := by
  cases found : rows[slot]? with
  | some row =>
    rw [shows.reads slot row found]
    rfl
  | none =>
    obtain ⟨fault, failed⟩ := PlainSlotStore.read_outside shows.sound (shows.outside found)
    rw [failed]
    rfl

theorem write (shows : Shows store width rows) {slot : Nat} {row : Bytes} (inside : slot < size store)
    (long : row.length = width) : Shows (write store slot row) width (rows.set slot row) where
  sound := LawfulSlotStore.sound_write shows.sound inside (long.trans shows.width_eq.symm)
  regular := PlainSlotStore.regular_write slot row shows.regular
  width_eq := (LawfulSlotStore.width_write ..).trans shows.width_eq
  size_eq := by rw [LawfulSlotStore.size_write, shows.size_eq, List.length_set]
  reads other content found := by
    rw [List.getElem?_set] at found
    by_cases same : slot = other
    · subst other
      rw [if_pos rfl, if_pos (shows.size_eq ▸ inside)] at found
      obtain rfl := Option.some.inj found
      rw [LawfulSlotStore.read_write shows.sound inside (long.trans shows.width_eq.symm) inside, if_pos rfl]
    · rw [if_neg same] at found
      rw [LawfulSlotStore.read_write shows.sound inside (long.trans shows.width_eq.symm) (shows.inside found),
        if_neg (Ne.symm same)]
      exact shows.reads other content found

theorem write_found (shows : Shows store width rows) {slot : Nat} {row : Bytes}
    (found : rows[slot]? = some row) : Shows (SlotStore.write store slot row) width rows := by
  have written := shows.write (shows.inside found) (shows.long found)
  obtain ⟨inside, rfl⟩ := List.getElem?_eq_some_iff.mp found
  rwa [List.set_getElem_self inside] at written

/-- Slots that stay keep their rows, and new ones are blank, also where there were slots before. -/
theorem resize (shows : Shows store width rows) {count : Nat} (fits : count * width ≤ Size.largestBuffer) :
    ∃ next, SlotStore.resize store count = .ok next ∧ Shows next width
      (rows.take count ++ List.replicate (count - rows.length) (List.replicate width 0)) := by
  rw [← shows.width_eq] at fits
  obtain ⟨next, resized⟩ := PlainSlotStore.resize_ok shows.sound shows.regular fits
  obtain ⟨sound, sized, wide⟩ := LawfulSlotStore.sound_resize shows.sound resized
  refine ⟨next, resized, sound, PlainSlotStore.regular_resize shows.regular resized,
    wide.trans shows.width_eq, ?_, ?_⟩
  · rw [sized, List.length_append, List.length_take, List.length_replicate]
    omega
  · intro slot row found
    rw [List.getElem?_append, List.length_take] at found
    by_cases old : slot < min count rows.length
    · rw [if_pos old, List.getElem?_take_of_lt (by omega)] at found
      rw [LawfulSlotStore.read_resize shows.sound resized (shows.inside found) (by omega)]
      exact shows.reads slot row found
    · rw [if_neg old, List.getElem?_replicate] at found
      split at found
      next new =>
        obtain rfl := Option.some.inj found
        have size := shows.size_eq
        rw [PlainSlotStore.read_grown shows.sound shows.regular resized (by omega) (by omega), shows.width_eq]
        rfl
      next => exact nomatch found

theorem edit_found (shows : Shows store width rows) {slot : Nat} {row : Bytes} (found : rows[slot]? = some row)
    (step : Step Fault Bytes Unit) :
    edit slot step store = match step row with
      | .ok answer next => .ok answer (SlotStore.write store slot next)
      | .error fault next => .error fault (SlotStore.write store slot next) := by
  simp only [edit, shows.reads slot row found]
  cases step row <;> rfl

theorem edit_missing (shows : Shows store width rows) {slot : Nat} (missing : rows[slot]? = none)
    (step : Step Fault Bytes Unit) : ∃ fault, edit slot step store = .error fault store := by
  obtain ⟨fault, failed⟩ := PlainSlotStore.read_outside shows.sound (shows.outside missing)
  exact ⟨fault, by rw [edit, failed]⟩

end Shows

/-- An act has the same effect on a store and on the rows in it. -/
structure SameEffect (width : Nat) (act : Act) (store : α) (rows : List Bytes) : Prop where
  answer : ((perform act).outcome store).toOption = ((onRows width act).outcome rows).toOption
  shows : Shows ((perform act).left store) width ((onRows width act).left rows)

theorem SameEffect.of_ok {width : Nat} {act : Act} {store next : α} {rows nextRows : List Bytes}
    {answer : Option Bytes} (run : perform act store = .ok answer next)
    (rowsRun : onRows width act rows = .ok answer nextRows) (shows : Shows next width nextRows) :
    SameEffect width act store rows where
  answer := by rw [Step.outcome_of_ok run, Step.outcome_of_ok rowsRun]; rfl
  shows := by rw [Step.left_of_ok run, Step.left_of_ok rowsRun]; exact shows

theorem SameEffect.of_error {width : Nat} {act : Act} {store next : α} {rows : List Bytes} {fault : Fault}
    (run : perform act store = .error fault next) (rowsRun : onRows width act rows = .error () rows)
    (shows : Shows next width rows) : SameEffect width act store rows where
  answer := by rw [Step.outcome_of_error run, Step.outcome_of_error rowsRun]; rfl
  shows := by rw [Step.left_of_error run, Step.left_of_error rowsRun]; exact shows

theorem perform_sameEffect {width : Nat} {store : α} {rows : List Bytes} (shows : Shows store width rows)
    (act : Act) (fits : act.Fits width) : SameEffect width act store rows := by
  cases act with
  | read slot =>
    cases found : rows[slot]? with
    | some row =>
      have here := Step.read_of_ok (fun store : α => read store slot) (shows.reads slot row found)
      exact .of_ok (Step.bind_of_ok here) (by simp only [onRows, found]) shows
    | none =>
      obtain ⟨fault, failed⟩ := PlainSlotStore.read_outside shows.sound (shows.outside found)
      have here := Step.read_of_error (fun store : α => read store slot) failed
      exact .of_error (Step.bind_of_error here) (by simp only [onRows, found]) shows
  | resize count =>
    obtain ⟨next, resized, showsNext⟩ := shows.resize fits
    exact .of_ok (congrArg (replaced store) resized) rfl showsNext
  | put slot offset kind value =>
    cases found : rows[slot]? with
    | some row =>
      have long := kind.length_left_put offset value row
      have edited := shows.edit_found found (kind.put offset value)
      cases run : kind.put offset value row with
      | ok answer next =>
        rw [run] at edited
        rw [Step.left_of_ok run, shows.long found] at long
        exact .of_ok (Step.bind_of_ok edited) (by simp only [onRows, found, run])
          (shows.write (shows.inside found) long)
      | error fault next =>
        obtain rfl := kind.eq_of_put_error run
        rw [run] at edited
        exact .of_error (Step.bind_of_error edited) (by simp only [onRows, found, run])
          (shows.write_found found)
    | none =>
      obtain ⟨fault, failed⟩ := shows.edit_missing found (kind.put offset value)
      exact .of_error (Step.bind_of_error failed) (by simp only [onRows, found]) shows
  | zero slot =>
    cases found : rows[slot]? with
    | some row =>
      have long : row.zeroed.length = width := List.length_replicate.trans (shows.long found)
      exact .of_ok (Step.bind_of_ok (shows.edit_found found (modify Bytes.zeroed)))
        (by simp only [onRows, found]) (shows.write (shows.inside found) long)
    | none =>
      obtain ⟨fault, failed⟩ := shows.edit_missing found (modify Bytes.zeroed)
      exact .of_error (Step.bind_of_error failed) (by simp only [onRows, found]) shows
  | swap first second =>
    by_cases same : first = second
    · subst second
      exact .of_ok (congrArg (replaced store) (PlainSlotStore.swap_same store first)) (if_pos rfl) shows
    · cases firstFound : rows[first]? with
      | none =>
        obtain ⟨fault, failed⟩ :=
          PlainSlotStore.swap_outside shows.sound same (Or.inl (shows.outside firstFound))
        exact .of_error (congrArg (replaced store) failed) (by simp only [onRows, if_neg same, firstFound]) shows
      | some firstRow =>
        cases secondFound : rows[second]? with
        | none =>
          obtain ⟨fault, failed⟩ :=
            PlainSlotStore.swap_outside shows.sound same (Or.inr (shows.outside secondFound))
          exact .of_error (congrArg (replaced store) failed)
            (by simp only [onRows, if_neg same, firstFound, secondFound]) shows
        | some secondRow =>
          have swapped := LawfulSlotStore.swap_eq shows.sound (shows.reads first firstRow firstFound)
            (shows.reads second secondRow secondFound) same
          have halfway := shows.write (shows.inside firstFound) (shows.long secondFound)
          have inside : second < size (SlotStore.write store first secondRow) := by
            rw [LawfulSlotStore.size_write]
            exact shows.inside secondFound
          exact .of_ok (congrArg (replaced store) swapped)
            (by simp only [onRows, if_neg same, firstFound, secondFound])
            (halfway.write inside (shows.long firstFound))
  | copy source target =>
    by_cases same : source = target
    · subst target
      exact .of_ok (congrArg (replaced store) (PlainSlotStore.copy_same store source)) (if_pos rfl) shows
    · cases sourceFound : rows[source]? with
      | none =>
        obtain ⟨fault, failed⟩ :=
          PlainSlotStore.copy_outside shows.sound same (Or.inl (shows.outside sourceFound))
        exact .of_error (congrArg (replaced store) failed) (by simp only [onRows, if_neg same, sourceFound]) shows
      | some row =>
        cases targetFound : rows[target]? with
        | none =>
          obtain ⟨fault, failed⟩ :=
            PlainSlotStore.copy_outside shows.sound same (Or.inr (shows.outside targetFound))
          exact .of_error (congrArg (replaced store) failed)
            (by simp only [onRows, if_neg same, sourceFound, targetFound]) shows
        | some old =>
          have copied := PlainSlotStore.copy_eq shows.sound (shows.reads source row sourceFound)
            (shows.inside targetFound) same
          exact .of_ok (congrArg (replaced store) copied)
            (by simp only [onRows, if_neg same, sourceFound, targetFound])
            (shows.write (shows.inside targetFound) (shows.long sourceFound))

theorem shows_of_failed {width : Nat} {store : α} {rows : List Bytes} (shows : Shows store width rows)
    {act : Act} (fits : act.Fits width) {fault : Fault}
    (failed : (perform act).outcome store = .error fault) :
    Shows ((perform act).left store) width rows := by
  have effect := perform_sameEffect shows act fits
  have nothing := effect.answer
  have showsNext := effect.shows
  rw [failed] at nothing
  cases run : onRows width act rows with
  | ok answer next =>
    rw [Step.outcome_of_ok run] at nothing
    exact nomatch nothing
  | error reason next =>
    rw [Step.left_of_error run, eq_of_onRows_error run] at showsNext
    exact showsNext

theorem run_shows {width : Nat} (acts : List Act) (fits : ∀ act ∈ acts, act.Fits width) {store : α}
    {rows : List Bytes} (shows : Shows store width rows) :
    answers perform acts store = answers (onRows width) acts rows ∧
      Shows (Step.leftAfter perform acts store) width (Step.leftAfter (onRows width) acts rows) := by
  induction acts generalizing store rows with
  | nil => exact ⟨rfl, shows⟩
  | cons act rest ih =>
    have effect := perform_sameEffect shows act (fits act List.mem_cons_self)
    obtain ⟨answered, showsLast⟩ :=
      ih (fun other member => fits other (List.mem_cons_of_mem act member)) effect.shows
    exact ⟨congrArg₂ List.cons effect.answer answered, showsLast⟩

theorem shows_make (α : Type) [SlotStore α UInt8] [LawfulSlotStore α] [PlainSlotStore α]
    {count width chunkSlots : Nat} (wide : 0 < width) (some : 0 < chunkSlots)
    (chunk : chunkSlots * width ≤ Size.largestBuffer) (fits : count * width ≤ Size.largestBuffer) :
    ∃ store : α, make count width chunkSlots = .ok store ∧
      Shows store width (List.replicate count (List.replicate width 0)) := by
  obtain ⟨store, made⟩ := PlainSlotStore.make_ok (α := α) count wide some chunk fits
  obtain ⟨sound, sized, width_eq⟩ := LawfulSlotStore.sound_make made
  refine ⟨store, made, sound, PlainSlotStore.regular_make chunk made, width_eq, ?_, ?_⟩
  · rw [sized, List.length_replicate]
  · intro slot row found
    rw [List.getElem?_replicate] at found
    split at found
    next inside =>
      obtain rfl := Option.some.inj found
      exact PlainSlotStore.read_make made inside
    next => exact nomatch found

end SlotStore

end SpatialStore
