import OpStack.Registry.Op

/-!
# OpStack.Registry.Shelf

Several registries side by side, of which one is current, and the snapshots taken
from them.  A registry starts empty or as a copy of the current one; from then on
only the operations addressed to it change it, and nothing changes a snapshot.
-/

namespace OpStack.Registry

/-- Registries in the order of their making, the current one, and all snapshots. -/
structure Shelf (α : Type) where
  registries : List (Registry α)
  current : Nat
  snapshots : List (List α)

namespace Shelf

/-- What can be done with a shelf. -/
inductive Op (α : Type) where
  /-- An operation on the current registry. -/
  | on (op : Registry.Op α)
  /-- Keeps the entries of the current registry as a snapshot. -/
  | snapshot
  /-- Reads all snapshots. -/
  | snapshots
  /-- Makes a copy of the current registry. -/
  | clone
  /-- Makes an empty registry. -/
  | new
  /-- Makes another registry current; the index counts around. -/
  | use (index : Nat)

/-- What an operation tells the caller. -/
inductive Reply (α : Type) where
  | of (reply : Registry.Reply α)
  | index (i : Nat)
  | snapshots (all : List (List α))
  deriving DecidableEq, Repr

variable {α : Type} [Identified α]

/-- One empty registry. -/
def start : Shelf α := ⟨[∅], 0, []⟩

/-- The current registry. -/
def registry (s : Shelf α) : Registry α := s.registries.getD s.current ∅

def perform (s : Shelf α) : Op α → Reply α × Shelf α × List Event
  | .on op =>
    let p := op.perform s.registry
    (.of p.reply, { s with registries := s.registries.set s.current p.registry }, p.events)
  | .snapshot =>
    (.index s.snapshots.length, { s with snapshots := s.snapshots ++ [s.registry.order] }, [])
  | .snapshots => (.snapshots s.snapshots, s, [])
  | .clone =>
    (.index s.registries.length, { s with registries := s.registries ++ [s.registry] }, [])
  | .new => (.index s.registries.length, { s with registries := s.registries ++ [∅] }, [])
  | .use i =>
    let current := i % s.registries.length
    (.index current, { s with current }, [])

/-- The shelf that a run of operations leaves. -/
def run (s : Shelf α) (ops : List (Op α)) : Shelf α := ops.foldl (fun s op => (s.perform op).2.1) s

end Shelf

end OpStack.Registry
