import Mathlib.Data.List.Perm.Subperm
import SpatialStore.Proofs.Steps
import SpatialStore.Tree.Basic

/-! Gathering. Points that were accepted are those of the listed records in the order of the list, no record
is listed twice, and a link can name every one of them. -/

namespace SpatialStore.KdTree

variable {S : Type} {N : Nat}

structure Gathered (sites : List (Site S N)) : Prop where
  distinct : (sites.map Site.slot).Nodup
  linkable : ∀ site ∈ sites, site.slot ≤ Link.largest

theorem gathered_nil : Gathered ([] : List (Site S N)) where
  distinct := List.nodup_nil
  linkable _ member := absurd member List.not_mem_nil

theorem Gathered.length_le {sites : List (Site S N)} (gathered : Gathered sites) :
    sites.length ≤ Link.largest + 1 := by
  have inRange : sites.map Site.slot ⊆ List.range (Link.largest + 1) := by
    intro slot member
    obtain ⟨site, inside, rfl⟩ := List.mem_map.mp member
    exact List.mem_range.mpr (Nat.lt_succ_of_le (gathered.linkable site inside))
  have short := (gathered.distinct.subperm inRange).length_le
  rwa [List.length_map, List.length_range] at short

variable {α σ τ : Type} [SlotStore α σ] [Stored τ σ] [Located τ S N]

def pointAt (τ : Type) [Stored τ σ] [Located τ S N] (source : RecordPool α σ) (slot : Nat) :
    Except PoolFailure (Point S N) :=
  (source.get τ slot).map Located.position

theorem gather_cons {source : RecordPool α σ} {seen : Std.TreeSet Nat} {slot : Nat} {rest : List Nat}
    {sites : List (Site S N)} (gathered : gather τ source seen (slot :: rest) = .ok sites) :
    slot ∉ seen ∧ slot ≤ Link.largest ∧ ∃ point others, pointAt τ source slot = .ok point ∧
      gather τ source (seen.insert slot) rest = .ok others ∧ sites = ⟨slot, point⟩ :: others := by
  rw [gather] at gathered
  split at gathered
  next => exact nomatch gathered
  next new =>
    split at gathered
    next => exact nomatch gathered
    next small =>
      split at gathered
      next => exact nomatch gathered
      next record found =>
        obtain ⟨others, rest, same⟩ := bind_eq_ok.mp gathered
        refine ⟨new, Nat.le_of_not_lt small, Located.position record, others, ?_, rest, ?_⟩
        · rw [pointAt, found]
          rfl
        · exact (Except.ok.inj same).symm

theorem gather_ok {source : RecordPool α σ} {seen : Std.TreeSet Nat} {slots : List Nat}
    {sites : List (Site S N)} (gathered : gather τ source seen slots = .ok sites) :
    sites.map Site.slot = slots ∧ slots.Nodup ∧ (∀ slot ∈ slots, slot ∉ seen ∧ slot ≤ Link.largest) ∧
      ∀ site ∈ sites, pointAt τ source site.slot = .ok site.point := by
  induction slots generalizing seen sites with
  | nil =>
    obtain rfl := Except.ok.inj gathered
    exact ⟨rfl, List.nodup_nil, nofun, nofun⟩
  | cons slot rest ih =>
    obtain ⟨new, small, point, others, found, restGathered, rfl⟩ := gather_cons gathered
    obtain ⟨listed, distinct, unseen, points⟩ := ih restGathered
    refine ⟨?_, List.nodup_cons.mpr ⟨?_, distinct⟩, ?_, ?_⟩
    · rw [List.map_cons, listed]
    · intro again
      exact (unseen slot again).1 Std.TreeSet.mem_insert_self
    · intro other member
      rcases List.mem_cons.mp member with rfl | later
      · exact ⟨new, small⟩
      · refine ⟨?_, (unseen other later).2⟩
        intro before
        exact (unseen other later).1 (Std.TreeSet.mem_insert.mpr (Or.inr before))
    · intro site member
      rcases List.mem_cons.mp member with rfl | later
      · exact found
      · exact points site later

theorem Gathered.of_gather {source : RecordPool α σ} {slots : List Nat} {sites : List (Site S N)}
    (gathered : gather τ source {} slots = .ok sites) : Gathered sites := by
  obtain ⟨listed, distinct, small, _⟩ := gather_ok gathered
  refine ⟨listed ▸ distinct, ?_⟩
  intro site member
  apply (small site.slot _).2
  rw [← listed]
  exact List.mem_map_of_mem member

end SpatialStore.KdTree
