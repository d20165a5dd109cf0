import Ingress.Resource.Route

/-!
# Snapshots

The routes that one pass has seen, for readers outside of the pass. Every snapshot that is
published gets the next generation.
-/

namespace Ingress

/-- The routes of one pass. -/
structure Snapshot where
  /-- The routes. -/
  routes : List Route
  /-- Which snapshot it is, counted from 1 as words of 64 bits count. -/
  generation : Nat := 0
  deriving DecidableEq

/-- The latest snapshot and how many there have been. -/
structure SnapshotRepo where
  /-- The latest snapshot. -/
  current : Option Snapshot := none
  /-- How many snapshots have been published, in a word that comes round to 0. -/
  count : UInt64 := 0

namespace SnapshotRepo

/-- The number of the latest snapshot. -/
def generation (repo : SnapshotRepo) : Nat := repo.count.toNat

/-- Publish a snapshot; it gets the next generation, whatever it said before. -/
def put (repo : SnapshotRepo) (snapshot : Snapshot) : SnapshotRepo where
  current := some { snapshot with generation := (repo.count + 1).toNat }
  count := repo.count + 1

/-- The latest snapshot. -/
def get (repo : SnapshotRepo) : Option Snapshot := repo.current

end SnapshotRepo

end Ingress
