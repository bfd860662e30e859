import SpatialStore.Spots.Spot
import SpatialStore.Entities.Store

/-! Spot stores: the spots of all timepoints, each reached by its identifier. -/

namespace SpatialStore

structure SpotStore (α γ : Type) where
  entities : EntityStore α γ

namespace SpotStore

variable {α γ S β : Type} [SlotStore α γ] [Stored (Spot S) γ]

def make (S : Type) [Stored (Spot S) γ] (sizing : Sizing) : Except PoolFailure (SpotStore α γ) :=
  (EntityStore.make 0 (Stored.form (Spot S)) sizing).map fun entities => { entities }

def records (store : SpotStore α γ) : RecordPool α γ := store.entities.records

@[inline] def onEntities (step : Step PoolFailure (EntityStore α γ) β) :
    Step PoolFailure (SpotStore α γ) β :=
  Step.within SpotStore.entities (fun entities _ => ⟨entities⟩) id step

def add [Scalar S] [Cell γ] (timepoint : Int32) (position : Point S 3) (radius : S) :
    Step PoolFailure (SpotStore α γ) EntityId := onEntities do
  let id ← EntityStore.create
  EntityStore.update id fun _ : Spot S => Spot.ofSphere timepoint position radius
  return id

def remove (id : EntityId) : Step PoolFailure (SpotStore α γ) (Option Relocation) :=
  onEntities (EntityStore.remove id)

def get (S : Type) [Stored (Spot S) γ] (store : SpotStore α γ) (id : EntityId) :
    Except PoolFailure (Spot S) :=
  store.entities.get (Spot S) id

def setPosition (id : EntityId) (position : Point S 3) : Step PoolFailure (SpotStore α γ) Unit :=
  onEntities (EntityStore.update id fun spot : Spot S => spot.withPosition position)

def setCovariance [AnalyticScalar S] (id : EntityId) (covariance : Vector S 9) :
    Step PoolFailure (SpotStore α γ) Unit :=
  onEntities (EntityStore.update id fun spot : Spot S => spot.withCovariance covariance)

def spots (S : Type) [Stored (Spot S) γ] (store : SpotStore α γ) : Except PoolFailure (List (Spot S)) :=
  store.records.values (Spot S)

def slotsAt (S : Type) [Stored (Spot S) γ] (store : SpotStore α γ) (timepoint : Int32) :
    Except PoolFailure (List Nat) :=
  (store.spots S).map fun spots =>
    (spots.zipIdx.filter fun entry => entry.1.timepoint = timepoint).map Prod.snd

def radii (S : Type) [Stored (Spot S) γ] (store : SpotStore α γ) :
    Except PoolFailure (List (Int32 × S)) :=
  (store.spots S).map fun spots => spots.map fun spot => (spot.timepoint, spot.squaredRadius)

end SpotStore

end SpatialStore
