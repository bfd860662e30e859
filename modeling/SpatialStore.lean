import SpatialStore.Step
import SpatialStore.Size
import SpatialStore.Sizing.Toml
import SpatialStore.Number.Scalar
import SpatialStore.Bytes.Kind
import SpatialStore.Bytes.Link
import SpatialStore.Bytes.Field
import SpatialStore.Bytes.Layout
import SpatialStore.Slots.Cells
import SpatialStore.Slots.Store
import SpatialStore.Slots.Flat
import SpatialStore.Slots.Chunked
import SpatialStore.Slots.Pool
import SpatialStore.Records.Handle
import SpatialStore.Records.Form
import SpatialStore.Records.Pool
import SpatialStore.Records.Fields
import SpatialStore.Entities.Id
import SpatialStore.Entities.Directory
import SpatialStore.Entities.Store
import SpatialStore.Geometry.Point
import SpatialStore.Number.Shortest
import SpatialStore.Tree.Node
import SpatialStore.Tree.Split
import SpatialStore.Tree.Branch
import SpatialStore.Tree.Basic
import SpatialStore.Tree.ValidValues
import SpatialStore.Query.Neighbor
import SpatialStore.Query.Nearest
import SpatialStore.Query.KNearest
import SpatialStore.Query.Within
import SpatialStore.Region.HalfSpace
import SpatialStore.Region.Partition
import SpatialStore.Region.Clip
import SpatialStore.Region.Cut
import SpatialStore.Spots.Ellipsoid
import SpatialStore.Spots.Spot
import SpatialStore.Spots.Store
import SpatialStore.Spots.Reach
import SpatialStore.Proofs.Slots.Flat
import SpatialStore.Proofs.Slots.Chunked
import SpatialStore.Proofs.Slots.Pool
import SpatialStore.Proofs.Records.Pool
import SpatialStore.Proofs.Entities.Directory
import SpatialStore.Proofs.Entities.Store
import SpatialStore.Proofs.Entities.Ledger
import SpatialStore.Proofs.Records.History
import SpatialStore.Proofs.Records.Session
import SpatialStore.Proofs.Number.Exact
import SpatialStore.Proofs.Tree.Split
import SpatialStore.Proofs.Tree.Branch
import SpatialStore.Proofs.Tree.Node
import SpatialStore.Proofs.Tree.Plant
import SpatialStore.Proofs.Tree.Reached
import SpatialStore.Proofs.Query.Visit
import SpatialStore.Proofs.Query.Nearest
import SpatialStore.Proofs.Query.KNearest
import SpatialStore.Proofs.Slots.Rows
import SpatialStore.Proofs.Slots.Alike
import SpatialStore.Proofs.Slots.Growth
import SpatialStore.Proofs.Tree.Gather
import SpatialStore.Proofs.Tree.Rebuild
import SpatialStore.Proofs.Tree.Listing
import SpatialStore.Proofs.Geometry.Box
import SpatialStore.Proofs.Tree.ValidValues
import SpatialStore.Proofs.Region.HalfSpace
import SpatialStore.Proofs.Region.Partition
import SpatialStore.Proofs.Region.Clip
import SpatialStore.Proofs.Entities.Numbering
import SpatialStore.Proofs.Entities.Effect
import SpatialStore.Proofs.Entities.Session
import SpatialStore.Proofs.Entities.Binding
import SpatialStore.Proofs.Records.Deeds
import SpatialStore.Proofs.Tree.Accepted
import SpatialStore.Proofs.Entities.Steady
import SpatialStore.Proofs.Spots.Run
import SpatialStore.Proofs.Tree.Survey
import SpatialStore.Proofs.Tree.Stale
import SpatialStore.Proofs.Query.Within
import SpatialStore.Proofs.Region.Account
import SpatialStore.Proofs.Tree.Marking
import SpatialStore.Proofs.Spots.Book
import SpatialStore.Proofs.Spots.Fields
import SpatialStore.Proofs.Bytes.Variables
import SpatialStore.Proofs.Number.Double
import SpatialStore.Proofs.Number.Rounding
import SpatialStore.Proofs.Number.Packing
import SpatialStore.Proofs.Number.Arithmetic
import SpatialStore.Proofs.Tree.Descent
import SpatialStore.Proofs.Region.Cut
import SpatialStore.Proofs.Region.Narrowing
import SpatialStore.Proofs.Geometry.Finite
import SpatialStore.Proofs.Query.Agreement
import SpatialStore.Proofs.Records.Lending
import SpatialStore.Proofs.Slots.Overflow
import SpatialStore.Proofs.Number.Greatest
import SpatialStore.Proofs.Spots.Reach
import SpatialStore.Proofs.Spots.Watch
import SpatialStore.Proofs.Number.Partial
import SpatialStore.Proofs.Geometry.Partial
import SpatialStore.Proofs.Query.Exposed
import SpatialStore.Proofs.Region.Membership
import SpatialStore.Proofs.Query.Plain
import SpatialStore.Proofs.Tree.Balance
