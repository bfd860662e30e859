import Mathlib.Logic.Function.Basic
import SpatialStore.Bytes.Layout
import SpatialStore.Proofs.Bytes.Splice

/-! The fields of a layout as variables. They tile the slot, and setting one replaces bytes of its own and no
others, so that after any run each holds what it was last set to, and zero if it never was. -/

namespace SpatialStore

/-! ### Fields that tile a slot -/

/-- Fields side by side, without a gap and without an overlap. -/
structure Tiles (fields : List Field) (start stop : Nat) : Prop where
  ordered : start ≤ stop
  within : ∀ field ∈ fields, start ≤ field.offset ∧ field.stop ≤ stop
  apart : fields.Pairwise fun first second => first.stop ≤ second.offset
  covered : ∀ place, start ≤ place → place < stop → ∃ field ∈ fields, field.offset ≤ place ∧ place < field.stop

namespace Tiles

variable {fields : List Field} {start stop : Nat}

theorem cons (field : Field) (rest : Tiles fields field.stop stop) :
    Tiles (field :: fields) field.offset stop where
  ordered := Nat.le_trans (Nat.le_add_right _ _) rest.ordered
  within other member := by
    rcases List.mem_cons.mp member with rfl | later
    · exact ⟨Nat.le_refl _, rest.ordered⟩
    · obtain ⟨after, inside⟩ := rest.within other later
      exact ⟨Nat.le_trans (Nat.le_add_right _ _) after, inside⟩
  apart := List.pairwise_cons.mpr ⟨fun other later => (rest.within other later).1, rest.apart⟩
  covered place after inside := by
    by_cases here : place < field.stop
    · exact ⟨field, List.mem_cons_self, after, here⟩
    · obtain ⟨other, later, covers⟩ := rest.covered place (Nat.le_of_not_lt here) inside
      exact ⟨other, List.mem_cons_of_mem _ later, covers⟩

theorem apart_of_mem (tiles : Tiles fields start stop) {first second : Field} (firstMember : first ∈ fields)
    (secondMember : second ∈ fields) :
    first = second ∨ first.stop ≤ second.offset ∨ second.stop ≤ first.offset := by
  have ordered := List.pairwise_iff_getElem.mp tiles.apart
  obtain ⟨i, iInside, rfl⟩ := List.mem_iff_getElem.mp firstMember
  obtain ⟨j, jInside, rfl⟩ := List.mem_iff_getElem.mp secondMember
  rcases Nat.lt_trichotomy i j with before | rfl | after
  · exact Or.inr (Or.inl (ordered i j iInside jInside before))
  · exact Or.inl rfl
  · exact Or.inr (Or.inr (ordered j i jInside iInside after))

end Tiles

theorem Layout.tiles_placeAll (layout : Layout) (shapes : List Shape) :
    Tiles (layout.placeAll shapes).1 layout.size (layout.placeAll shapes).2.size ∧
      (layout.placeAll shapes).1.map Field.shape = shapes := by
  induction shapes generalizing layout with
  | nil =>
    refine ⟨⟨Nat.le_refl _, ?_, List.Pairwise.nil, ?_⟩, rfl⟩
    · intro field member
      exact absurd member List.not_mem_nil
    · intro place after inside
      exact absurd inside (Nat.not_lt_of_le after)
  | cons shape rest ih =>
    obtain ⟨tiles, same⟩ := ih (layout.place shape).2
    exact ⟨Tiles.cons (layout.place shape).1 tiles, congrArg (shape :: ·) same⟩

/-! ### Fields as variables -/

/-- What every field is to hold. Fields that are the same are one variable; in a layout only those without bytes
can be. -/
abbrev Variables := (field : Field) → field.Value

def Variables.blank : Variables := fun field => field.shape.blank

inductive Access
  | put (field : Field) (value : field.Value)
  | putLink (offset : Nat) (target : Option Nat)
  | putOne (count offset : Nat) (element : Fin count) (value : Double)

namespace Access

def field : Access → Field
  | put field _ => field
  | putLink offset _ => ⟨.one .index, offset⟩
  | putOne count offset _ _ => ⟨.doubles count, offset⟩

def onSlot (step : Step Fault Bytes Unit) : Step PoolFailure Bytes Unit :=
  Step.within id (fun slot _ => slot) .fault step

theorem onSlot_ok {step : Step Fault Bytes Unit} {slot next : Bytes} (run : step slot = .ok () next) :
    onSlot step slot = .ok () next := by
  unfold onSlot
  exact Step.within_ok run

def perform : Access → Step PoolFailure Bytes Unit
  | put field value => onSlot (field.put value)
  | putLink offset target => Link.put offset target
  | putOne count offset element value => onSlot (Doubles.putOne count offset element value)

/-- How it ends: all is well unless a link is to name a slot that takes more than 31 bits. -/
def ending : Access → Except PoolFailure Unit
  | put _ _ => .ok ()
  | putLink _ none => .ok ()
  | putLink _ (some target) => if target ≤ 0x7fffffff then .ok () else .error (.refused (.indexOverflow target))
  | putOne _ _ _ _ => .ok ()

def assign : Access → Variables → Variables
  | put field value, state => Function.update state field value
  | putLink offset none, state => Function.update state ⟨.one .index, offset⟩ (-1 : Int32)
  | putLink offset (some target), state =>
    if target ≤ 0x7fffffff then Function.update state ⟨.one .index, offset⟩ (Int32.ofNat target) else state
  | putOne count offset element value, state =>
    Function.update state ⟨.doubles count, offset⟩
      (Vector.set (state ⟨.doubles count, offset⟩) element value)

end Access

def Variables.after (state : Variables) (accesses : List Access) : Variables :=
  accesses.foldl (fun state access => access.assign state) state

structure HeldIn (fields : List Field) (size : Nat) (state : Variables) (slot : Bytes) : Prop where
  tiles : Tiles fields 0 size
  length_eq : slot.length = size
  get_eq : ∀ field ∈ fields, field.get slot = .ok (state field)

namespace HeldIn

variable {fields : List Field} {size : Nat} {state : Variables} {slot : Bytes}

theorem fits (held : HeldIn fields size state slot) {field : Field} (member : field ∈ fields) :
    field.stop ≤ slot.length := by
  rw [held.length_eq]
  exact (held.tiles.within field member).2

theorem splice (held : HeldIn fields size state slot) {field : Field} (member : field ∈ fields)
    {offset : Nat} {content : Bytes} (begins : field.offset ≤ offset) (ends : offset + content.length ≤ field.stop)
    {value : field.Value} (reads : field.get (slot.splice offset content) = .ok value) :
    HeldIn fields size (Function.update state field value) (slot.splice offset content) where
  tiles := held.tiles
  length_eq := (Bytes.length_splice (Nat.le_trans ends (held.fits member))).trans held.length_eq
  get_eq other otherMember := by
    by_cases same : other = field
    · subst same
      rw [reads, Function.update_self]
    · have whole := Nat.le_trans ends (held.fits member)
      have apart := (held.tiles.apart_of_mem otherMember member).resolve_left same
      rw [Function.update_of_ne same, ← held.get_eq other otherMember]
      exact Field.get_splice_of_apart (held.fits otherMember) whole (by omega)

theorem put (held : HeldIn fields size state slot) {field : Field} (member : field ∈ fields)
    (value : field.Value) :
    ∃ next, field.put value slot = .ok () next ∧ HeldIn fields size (Function.update state field value) next := by
  have fits := held.fits member
  have long := field.shape.length_encode value
  refine ⟨_, Field.put_eq_ok fits value, held.splice member (Nat.le_refl _) ?_ (Field.get_splice fits value)⟩
  exact Nat.le_of_eq (congrArg (field.offset + ·) long)

theorem decode_eq (held : HeldIn fields size state slot) {field : Field} (member : field ∈ fields) :
    field.shape.decode (slot.slice field.offset field.shape.width) = state field :=
  Except.ok.inj ((Field.get_eq_ok (held.fits member)).symm.trans (held.get_eq field member))

section Elements

variable {count offset : Nat} (held : HeldIn fields size state slot)
  (member : ⟨.doubles count, offset⟩ ∈ fields) (element : Fin count)

include held member

theorem fits_one : Doubles.place offset element + Kind.double.width ≤ slot.length := by
  have whole := held.fits member
  have inside := Doubles.inside_width element.isLt
  simp only [Field.stop, Shape.width] at whole
  rw [Doubles.place]
  omega

theorem decode_one :
    Kind.double.decode (slot.slice (Doubles.place offset element) Kind.double.width) =
      Vector.get (state ⟨.doubles count, offset⟩) element := by
  rw [← held.decode_eq member]
  exact (Doubles.getElem_decode_slice element.isLt offset slot).symm

theorem getOne_eq :
    Doubles.getOne count offset element slot =
      .ok (Vector.get (state ⟨.doubles count, offset⟩) element) := by
  rw [Doubles.getOne, if_pos element.isLt, Kind.get, if_pos (held.fits_one member element),
    held.decode_one member element]

theorem putOne (value : Double) :
    ∃ next, Doubles.putOne count offset element value slot = .ok () next ∧
      HeldIn fields size (Function.update state ⟨.doubles count, offset⟩
        (Vector.set (state ⟨.doubles count, offset⟩) element value)) next := by
  have fits := held.fits_one member element
  have long : (Kind.double.encode value).length = Kind.double.width := Kind.length_encode _ _
  have whole : Doubles.place offset element + (Kind.double.encode value).length ≤ slot.length := long ▸ fits
  have inside := Doubles.inside_width element.isLt
  have reads : Field.get ⟨.doubles count, offset⟩
      (slot.splice (Doubles.place offset element) (Kind.double.encode value)) =
        .ok (Vector.set (state ⟨.doubles count, offset⟩) element value) := by
    rw [Field.get_eq_ok (by rw [Bytes.length_splice whole]; exact held.fits member), ← held.decode_eq member]
    exact congrArg Except.ok (Doubles.decode_splice element fits value)
  have begins : offset ≤ Doubles.place offset element := Nat.le_add_right _ _
  have ends : Doubles.place offset element + (Kind.double.encode value).length ≤
      offset + count * Kind.double.width := by
    rw [long, Doubles.place]
    omega
  refine ⟨_, ?_, held.splice member begins ends reads⟩
  rw [Doubles.putOne, if_pos element.isLt, Kind.put, if_pos fits]

end Elements

theorem putLink (held : HeldIn fields size state slot) {offset : Nat}
    (member : ⟨.one .index, offset⟩ ∈ fields) {target : Option Nat} {link : Int32}
    (written : Link.ofSlot target = .ok link) :
    ∃ next, Link.put offset target slot = .ok () next ∧
      HeldIn fields size (Function.update state ⟨.one .index, offset⟩ link) next := by
  obtain ⟨next, done, after⟩ := held.put member link
  refine ⟨next, ?_, after⟩
  rw [Link.put, written]
  exact Step.within_ok done

theorem getLink_eq (held : HeldIn fields size state slot) {offset : Nat}
    (member : ⟨.one .index, offset⟩ ∈ fields) :
    Link.get offset slot = .ok (Link.slot? (state ⟨.one .index, offset⟩)) :=
  congrArg (Except.map Link.slot?) (held.get_eq _ member)

theorem perform (held : HeldIn fields size state slot) (access : Access) (member : access.field ∈ fields) :
    access.perform.Ends slot fun outcome next =>
      outcome = access.ending ∧ HeldIn fields size (access.assign state) next := by
  cases access with
  | put field value =>
    obtain ⟨next, done, after⟩ := held.put member value
    exact Step.ends_of_ok (Access.onSlot_ok done) ⟨rfl, after⟩
  | putLink offset target =>
    cases target with
    | none =>
      have written : Link.ofSlot none = .ok Link.none := rfl
      obtain ⟨next, done, after⟩ := held.putLink member written
      exact Step.ends_of_ok done ⟨rfl, after⟩
    | some target =>
      by_cases small : target ≤ 0x7fffffff
      · obtain ⟨next, done, after⟩ := held.putLink member (Link.ofSlot_some small)
        refine Step.ends_of_ok done ⟨(if_pos small).symm, ?_⟩
        rw [Access.assign, if_pos small]
        exact after
      · have refused := Link.put_refused (Nat.lt_of_not_le small) offset slot
        refine Step.ends_of_error refused ⟨(if_neg small).symm, ?_⟩
        rw [Access.assign, if_neg small]
        exact held
  | putOne count offset element value =>
    obtain ⟨next, done, after⟩ := held.putOne member element value
    exact Step.ends_of_ok (Access.onSlot_ok done) ⟨rfl, after⟩

theorem run (held : HeldIn fields size state slot) {accesses : List Access}
    (members : ∀ access ∈ accesses, access.field ∈ fields) :
    Step.outcomes Access.perform accesses slot = accesses.map (fun access => (access, access.ending)) ∧
      HeldIn fields size (state.after accesses) (Step.leftAfter Access.perform accesses slot) := by
  induction accesses generalizing state slot with
  | nil => exact ⟨rfl, held⟩
  | cons access rest ih =>
    obtain ⟨first, others⟩ := List.forall_mem_cons.mp members
    obtain ⟨ended, after⟩ := held.perform access first
    obtain ⟨ends, last⟩ := ih after others
    rw [Step.outcomes, ended, ends]
    exact ⟨rfl, last⟩

end HeldIn

theorem Tiles.heldIn_zeroed {fields : List Field} {slot : Bytes} (tiles : Tiles fields 0 slot.length) :
    HeldIn fields slot.length Variables.blank slot.zeroed where
  tiles := tiles
  length_eq := List.length_replicate
  get_eq field member := by
    have fits := (tiles.within field member).2
    rw [Field.get_eq_ok (by rwa [Bytes.zeroed, List.length_replicate]), Bytes.zeroed, Bytes.slice_zeros fits,
      Shape.decode_zeros]
    rfl

structure ActsAs (fields : List Field) (size : Nat) (state : Variables) (slot : Bytes) : Prop where
  length_eq : slot.length = size
  get_eq : ∀ field ∈ fields, field.get slot = .ok (state field)
  getOne_eq : ∀ count offset, ⟨.doubles count, offset⟩ ∈ fields → ∀ element : Fin count,
    Doubles.getOne count offset element slot = .ok (Vector.get (state ⟨.doubles count, offset⟩) element)
  getLink_eq : ∀ offset, ⟨.one .index, offset⟩ ∈ fields →
    Link.get offset slot = .ok (Link.slot? (state ⟨.one .index, offset⟩))
  put_alone : ∀ field ∈ fields, ∀ value, ∃ next, field.put value slot = .ok () next ∧
    field.get next = .ok value ∧ ∀ other ∈ fields, other ≠ field → other.get next = other.get slot
  put_link : ∀ offset, ⟨.one .index, offset⟩ ∈ fields → ∀ target : Option Nat,
    (∀ named ∈ target, named ≤ 0x7fffffff) →
      ∃ next, Link.put offset target slot = .ok () next ∧ Link.get offset next = .ok target
  refuse_link : ∀ offset, ⟨.one .index, offset⟩ ∈ fields → ∀ target, 0x7fffffff < target →
    Link.put offset (some target) slot = .error (.refused (.indexOverflow target)) slot

theorem HeldIn.actsAs {fields : List Field} {size : Nat} {state : Variables} {slot : Bytes}
    (held : HeldIn fields size state slot) : ActsAs fields size state slot where
  length_eq := held.length_eq
  get_eq := held.get_eq
  getOne_eq _ _ member element := held.getOne_eq member element
  getLink_eq _ member := held.getLink_eq member
  put_alone field member value := by
    obtain ⟨next, done, after⟩ := held.put member value
    refine ⟨next, done, ?_, ?_⟩
    · rw [after.get_eq field member, Function.update_self]
    · intro other otherMember different
      rw [after.get_eq other otherMember, Function.update_of_ne different, held.get_eq other otherMember]
  put_link offset member target small := by
    obtain ⟨link, written⟩ := Link.ofSlot_ok small
    obtain ⟨next, done, after⟩ := held.putLink member written
    refine ⟨next, done, ?_⟩
    rw [after.getLink_eq member, Function.update_self, Link.slot?_ofSlot written]
  refuse_link offset _ _ large := Link.put_refused large offset slot

/-- The fields of a layout tile it. In a zeroed slot of its size each of them is a variable of its own, whatever
has been set, and nothing is refused but a link to a slot that takes more than 31 bits. -/
theorem Layout.run_acts_as_variables {shapes : List Shape} {fields : List Field} {layout : Layout}
    (placed : Layout.empty.placeAll shapes = (fields, layout)) :
    fields.map Field.shape = shapes ∧ Tiles fields 0 layout.size ∧
      ∀ slot : Bytes, slot.length = layout.size → ∀ accesses : List Access,
        (∀ access ∈ accesses, access.field ∈ fields) →
          Step.outcomes Access.perform accesses slot.zeroed =
              accesses.map (fun access => (access, access.ending)) ∧
            ActsAs fields layout.size (Variables.blank.after accesses)
              (Step.leftAfter Access.perform accesses slot.zeroed) := by
  obtain ⟨tiles, same⟩ := Layout.tiles_placeAll Layout.empty shapes
  rw [placed] at tiles same
  refine ⟨same, tiles, ?_⟩
  intro slot long accesses members
  have start : HeldIn fields layout.size Variables.blank slot.zeroed := by
    rw [← long]
    exact Tiles.heldIn_zeroed (long ▸ tiles)
  obtain ⟨ended, after⟩ := start.run members
  exact ⟨ended, after.actsAs⟩

/-- Accesses to a layout that is not aligned, one of them refused. -/
def Access.unaligned : List Access :=
  [.putLink 17 (some 12), .put ⟨.doubles 2, 1⟩ #v[⟨1⟩, ⟨2⟩], .putOne 2 1 0 ⟨3⟩, .putLink 17 (some 0x80000000),
    .put ⟨.one .bool, 0⟩ true]

theorem Layout.unaligned_acts_as_variables :
    Layout.empty.placeAll [.one .bool, .doubles 2, .one .index, .one .long] =
        ([⟨.one .bool, 0⟩, ⟨.doubles 2, 1⟩, ⟨.one .index, 17⟩, ⟨.one .long, 21⟩], ⟨29⟩) ∧
      (Bytes.zeroed (List.replicate 29 7)).length = 29 ∧
      (∀ access ∈ Access.unaligned,
        access.field ∈ [⟨.one .bool, 0⟩, ⟨.doubles 2, 1⟩, ⟨.one .index, 17⟩, (⟨.one .long, 21⟩ : Field)]) ∧
      ActsAs [⟨.one .bool, 0⟩, ⟨.doubles 2, 1⟩, ⟨.one .index, 17⟩, ⟨.one .long, 21⟩] 29
        (Variables.blank.after Access.unaligned)
        (Step.leftAfter Access.perform Access.unaligned (Bytes.zeroed (List.replicate 29 7))) ∧
      Variables.blank.after Access.unaligned ⟨.doubles 2, 1⟩ = #v[⟨3⟩, ⟨2⟩] ∧
      Variables.blank.after Access.unaligned ⟨.one .index, 17⟩ = (12 : Int32) ∧
      Variables.blank.after Access.unaligned ⟨.one .long, 21⟩ = (0 : Int64) := by
  have placed : Layout.empty.placeAll [.one .bool, .doubles 2, .one .index, .one .long] =
      ([⟨.one .bool, 0⟩, ⟨.doubles 2, 1⟩, ⟨.one .index, 17⟩, ⟨.one .long, 21⟩], ⟨29⟩) := rfl
  have members : ∀ access ∈ Access.unaligned,
      access.field ∈ [⟨.one .bool, 0⟩, ⟨.doubles 2, 1⟩, ⟨.one .index, 17⟩, (⟨.one .long, 21⟩ : Field)] := by
    decide
  have long : (List.replicate 29 (7 : UInt8)).length = 29 := List.length_replicate
  obtain ⟨_, _, runs⟩ := Layout.run_acts_as_variables placed
  exact ⟨placed, rfl, members, (runs _ long _ members).2, rfl, rfl, rfl⟩

end SpatialStore
