import SchemaShift.Proofs.Migrator.Plan
import SchemaShift.Proofs.Session.Actions

/-!
# Migrators alike

A run, a rollback and a reset are composed of what the ledger is asked and of the units that are
carried out. A relation between actions that goes along with their composition therefore holds of
them as soon as it holds of the ledgers and of the units of two migrators.

Results:
* `AsksAlike`: the ledgers of two migrators are asked alike.
* `AsksAlike.plan`, `AsksAlike.rollbackPlan`: plans are alike.
* `AsksAlike.run`, `AsksAlike.rollback`, `AsksAlike.reset`: and so is what is done, if units are.
-/

namespace SchemaShift.Migrator

variable {σ τ : Type} {R : ActionRelation σ τ} {m : Migrator σ} {w : Migrator τ}

/-- Two migrators of one source whose ledgers are asked alike. -/
structure AsksAlike (R : ActionRelation σ τ) (m : Migrator σ) (w : Migrator τ) : Prop where
  source : w.source = m.source
  installed : R.holds m.ledger.installed w.ledger.installed
  ran : R.holds m.ledger.ran w.ledger.ran
  entries : R.holds m.ledger.entries w.ledger.entries
  last : R.holds m.ledger.last w.ledger.last
  lastBatch : R.holds m.ledger.lastBatch w.ledger.lastBatch

namespace AsksAlike

/-! ## Plans -/

theorem install (h : AsksAlike R m w) (create : R.holds m.ledger.create w.ledger.create) :
    R.holds m.install w.install := by
  refine R.bind h.installed fun installed => ?_
  cases installed with
  | true => exact R.pure _
  | false => exact R.bind create fun _ => R.pure _

theorem pending (h : AsksAlike R m w) : R.holds m.pending w.pending := by
  have ran : R.holds m.ran w.ran := by
    refine R.bind h.installed fun installed => ?_
    cases installed with
    | true => exact h.ran
    | false => exact R.pure _
  unfold Migrator.pending
  rw [h.source]
  exact R.bind ran fun _ => R.bind (R.ofExcept m.source.discover) fun _ => R.pure _

theorem batched (h : AsksAlike R m w) (pending : List String) :
    R.holds (m.batched pending) (w.batched pending) := by
  unfold Migrator.batched
  by_cases nothing : pending.isEmpty = true
  · simp only [nothing, if_true]
    exact R.pure _
  · simp only [nothing, if_false, Bool.false_eq_true]
    refine R.bind h.installed fun installed => ?_
    cases installed with
    | true => exact R.bind (R.bind h.lastBatch fun _ => R.ofExcept _) fun _ => R.pure _
    | false => exact R.bind (R.pure _) fun _ => R.pure _

theorem foreseen (h : AsksAlike R m w) : R.holds m.foreseen w.foreseen := R.bind h.pending h.batched

theorem plan (h : AsksAlike R m w) (create : R.holds m.ledger.create w.ledger.create) :
    R.holds m.plan w.plan := by
  rw [plan_eq, plan_eq]
  exact R.bind (h.install create) fun _ => h.foreseen

theorem rollbackPlan (h : AsksAlike R m w) : R.holds m.rollbackPlan w.rollbackPlan := by
  refine R.bind h.installed fun installed => ?_
  cases installed with
  | true => exact h.last
  | false => exact R.pure _

/-! ## What is done -/

theorem deliver {pretend : Bool} {d : Direction} {entries : List Entry}
    (units : R.holds (m.units pretend d entries) (w.units pretend d entries)) :
    R.holds (m.deliver pretend d entries) (w.deliver pretend d entries) :=
  R.bind units fun _ => R.pure _

theorem run (h : AsksAlike R m w) (create : R.holds m.ledger.create w.ledger.create)
    (units : ∀ entries, R.holds (m.units false .up entries) (w.units false .up entries)) :
    R.holds (m.run false) (w.run false) := by
  rw [run_eq, run_eq, carryOut_eq, carryOut_eq]
  exact R.bind (h.plan create) fun entries => deliver (units entries)

theorem run_pretended (h : AsksAlike R m w)
    (units : ∀ entries, R.holds (m.units true .up entries) (w.units true .up entries)) :
    R.holds (m.run true) (w.run true) := by
  rw [run_pretended_eq, run_pretended_eq]
  exact R.bind h.foreseen fun entries => deliver (units entries)

variable {pretend : Bool}

theorem rollback (h : AsksAlike R m w)
    (units : ∀ entries, R.holds (m.units pretend .down entries) (w.units pretend .down entries)) :
    R.holds (m.rollback pretend) (w.rollback pretend) := by
  rw [rollback_eq_deliver, rollback_eq_deliver]
  exact R.bind h.rollbackPlan fun entries => deliver (units entries)

theorem revertAll (h : AsksAlike R m w)
    (units : ∀ entries, R.holds (m.units false .down entries) (w.units false .down entries))
    (rounds : Nat) : R.holds (m.revertAll rounds) (w.revertAll rounds) := by
  induction rounds with
  | zero => exact R.pure _
  | succ rounds ih =>
    refine R.bind (h.rollback units) fun first => ?_
    by_cases nothing : first.isEmpty = true
    · simp only [nothing, if_true]
      exact R.pure _
    · simp only [nothing, if_false, Bool.false_eq_true]
      exact R.bind ih fun rest => R.pure _

theorem reset (h : AsksAlike R m w)
    (units : ∀ entries, R.holds (m.units pretend .down entries) (w.units pretend .down entries)) :
    R.holds (m.reset pretend) (w.reset pretend) := by
  refine R.bind h.installed fun installed => ?_
  cases installed with
  | false => exact R.pure _
  | true =>
    cases pretend with
    | true => exact R.bind h.entries fun entries => deliver (units entries.reverse)
    | false => exact h.revertAll units maxRounds

end AsksAlike

end SchemaShift.Migrator
