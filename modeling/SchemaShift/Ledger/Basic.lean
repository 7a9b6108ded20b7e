import SchemaShift.Session.Basic

/-!
# Ledgers

A ledger records which migrations were applied and in which batch. What was applied together is in
one batch, and a later batch has a greater number. Numbers are words of 64 bits: behind the greatest
of them there is none, and asking for it ends the program.

* `batchAfter_eq_ok_iff`: a batch that has another one behind it is not the greatest.
-/

namespace SchemaShift

/-- What a ledger says of one migration. -/
structure Entry where
  name : String
  batch : Int64
deriving DecidableEq, Repr

/-- The order of entries: by batch, then by name. -/
def Entry.le (a b : Entry) : Bool :=
  a.batch < b.batch || (a.batch == b.batch && decide (a.name ≤ b.name))

/-- The number of the batch behind another one. -/
def batchAfter (batch : Int64) : Except Error Int64 :=
  if batch < Int64.maxValue then .ok (batch + 1) else .error .overflow

theorem batchAfter_eq_ok_iff {batch n : Int64} :
    batchAfter batch = .ok n ↔ batch < Int64.maxValue ∧ n = batch + 1 := by
  unfold batchAfter
  split
  · simp [*, eq_comm]
  · simp [*]

/-- The actions on a ledger, which may stand in the database of a session. -/
structure Ledger (σ : Type) where
  /-- Whether the ledger exists. -/
  installed : DbM σ Bool
  create : DbM σ Unit
  /-- The names of what is recorded, in the order of the entries. -/
  ran : DbM σ (List String)
  /-- All entries in their order. -/
  entries : DbM σ (List Entry)
  /-- The entries of the last batch, greatest name first. -/
  last : DbM σ (List Entry)
  /-- The number of the last batch, zero when nothing is recorded. -/
  lastBatch : DbM σ Int64
  /-- Records that a migration was applied. -/
  log : String → Int64 → DbM σ Unit
  /-- Records that a migration was reverted. -/
  delete : String → DbM σ Unit

namespace Ledger

variable {σ : Type}

/-- The number of the next batch. -/
def nextBatch (ledger : Ledger σ) : DbM σ Int64 := do
  DbM.ofExcept (batchAfter (← ledger.lastBatch))

end Ledger

end SchemaShift
