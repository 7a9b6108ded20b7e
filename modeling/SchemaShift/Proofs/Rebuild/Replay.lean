import SchemaShift.Proofs.Rebuild.Execution
import SchemaShift.Proofs.Rebuild.Reported
import SchemaShift.Proofs.Session.Actions

/-!
# What the statements of a blueprint do

Commands that SQLite has statements for take effect one after the other. The rebuild does not: it
is made from the table as the catalog reported it before any statement was executed. So it takes
back what the commands ahead of it did, apart from the check that the columns it copies are still
there, and it drops every column that any command drops, also those of later commands.

Results:
* `executeAll_compileRebuild`: what a rebuild does.
* `executeAll_statements`: the statements of a blueprint do what its replay says.
-/

namespace SchemaShift

open Compile.Sqlite Sql

/-- In a set of states that queries do not leave, the catalog reports a table of a given shape. -/
structure Session.Reports {σ : Type} (session : Session σ) (states : σ → Prop) (table : String)
    (s : Shape) : Prop where
  queries : ∀ sql x, states x → states ((session.select sql).result x).2
  shape : ∀ x x' current, states x →
    (Catalog.table session table).result x = (.ok current, x') → current.shape = s

namespace Blueprint

/-! ## Replay -/

/-- What a rebuild makes of a table whose shape was reported first and is another one by now. -/
def rebuilt (b : Blueprint) (first now : Shape) : Option Shape :=
  if (first.without b.droppedColumns).columns ⊆ now.columns then
    some (first.without b.droppedColumns)
  else none

/-- What the statements of a command do to a table whose shape was reported first and is another
one by now. -/
def replayStep (b : Blueprint) (first now : Shape) : Command → Option Shape
  | .change => b.rebuilt first now
  | .dropColumns columns =>
    if startsRebuild b columns = true ∧ b.droppedColumns ≠ [] then b.rebuilt first now
    else some now
  | c => b.perform now c

/-- What the statements of a blueprint do to a table of a given shape. -/
def replay (b : Blueprint) (s : Shape) : Option Shape :=
  b.compiledCommands.foldlM (fun now c => b.replayStep s now c) s

/-! ## Commands -/

variable {b : Blueprint}

theorem creating_eq_false (h : ∀ c ∈ b.commands, c.IsAlteration) : b.creating = false := by
  rw [Bool.eq_false_iff]
  intro creates
  exact h _ (creating_iff.1 creates)

/-- The commands of a change of an existing table. -/
theorem compiledCommands_cases (h : ∀ c ∈ b.commands, c.IsAlteration) {c : Command}
    (hc : c ∈ b.compiledCommands) :
    c.IsAlteration ∨ c = .add ∨ c = .change ∧ redefines b = true ∨ ∃ fk, c = .addForeign fk := by
  unfold compiledCommands impliedLeading at hc
  rw [creating_eq_false h] at hc
  simp only [Bool.false_eq_true, if_false, List.mem_append, List.mem_map] at hc
  rcases hc with ((change | add) | explicit) | ⟨fk, -, rfl⟩
  · split at change
    · cases change
    · rename_i changed
      cases List.mem_singleton.1 change
      refine .inr (.inr (.inl ⟨rfl, ?_⟩))
      rw [redefines, creating_eq_false h]
      simpa using changed
  · split at add
    · cases add
    · cases List.mem_singleton.1 add
      exact .inr (.inl rfl)
  · exact .inl (h c explicit)
  · exact .inr (.inr (.inr ⟨fk, rfl⟩))

theorem removed_rebuildDiff (b : Blueprint) : (rebuildDiff b).removed = b.droppedColumns := by
  unfold rebuildDiff
  dsimp only
  split <;> rfl

/-- There is something to rebuild when a column is redefined or dropped. -/
theorem isEmpty_rebuildDiff (b : Blueprint) :
    (rebuildDiff b).isEmpty = true ↔ redefines b = false ∧ b.droppedColumns = [] := by
  unfold rebuildDiff
  cases redefining : redefines b with
  | false => simp [TableDiff.removing, TableDiff.isEmpty]
  | true =>
    have changed : b.changedColumns ≠ [] := by
      simp only [redefines, Bool.and_eq_true, Bool.not_eq_true', List.isEmpty_eq_false_iff]
        at redefining
      exact redefining.2
    simp [TableDiff.removing, TableDiff.changing, TableDiff.isEmpty, changed]

end Blueprint

/-! ## Execution -/

section

variable {σ : Type} {session : Session σ} {states : σ → Prop} {x x' : σ} {b : Blueprint}
  {s : Shape} {ss : List Statement}

/-- A rebuild reads the columns that stay from the table it finds, and leaves what was reported
without the columns that go. -/
theorem executeAll_rebuild {d : TableDiff} (sqlite : session.dialect = .sqlite)
    (formed : s.WellFormed) (reports : session.Reports states d.table s)
    (redefined : ∀ c ∈ d.changed, c.change = false) (hx : states x)
    (h : (rebuild session d).result x = (.ok ss, x')) (now : Shape) :
    executeAll d.table ss (.ofShape now) =
      if (s.without d.removed).columns ⊆ now.columns then
        some (.ofShape (s.without d.removed))
      else none := by
  obtain ⟨current, statement, read, created, rfl⟩ := rebuild_eq_ok h
  obtain ⟨name, new⟩ := table_of_result sqlite read
  have shape : current.shape = s := reports.shape x x' current hx read
  have target : (d.target current).shape = s.without d.removed := by
    rw [TableDiff.shape_target, shape]
  obtain ⟨ds, constraints, names, rfl⟩ := create_eq_ok created
  rw [TableDiff.addedColumns_target new redefined, TableDiff.names_target] at names
  have same : d.table = (d.target current).table := name.symm
  have covered : ∀ i ∈ ownIndexes (d.target current), ∀ c ∈ i.columns,
      c ∈ d.survivors current := by
    intro i hi c hc
    rw [TableDiff.mem_survivors_iff, shape]
    have own := Blueprint.mem_indexes_shape.2 ⟨i, hi, rfl⟩
    rw [target] at own
    exact formed.without d.removed _ own c hc
  have final : Shape.mk (d.survivors current).toFinset
      ((ownIndexes (d.target current)).map fun i =>
        (i.resolvedName (d.target current).table, i.columns)).toFinset =
        s.without d.removed := by
    rw [← target, Blueprint.shape, TableDiff.names_target]
  rw [same, executeAll_rebuildStatements names covered now, final]
  have condition : (∀ c ∈ d.survivors current, c ∈ now.columns) ↔
      (s.without d.removed).columns ⊆ now.columns := by
    simp only [TableDiff.mem_survivors_iff, shape]
    rfl
  simp only [condition]

theorem withoutForeignKeys_eq_ok {statements : List Statement}
    (h : (withoutForeignKeys session statements).result x = (.ok ss, x')) :
    ∃ enforced, ss = toggled enforced statements := by
  obtain ⟨enforced, x₁, -, h⟩ := DbM.result_bind_eq_ok_iff.1 h
  obtain ⟨rfl, -⟩ := DbM.result_pure_eq_ok_iff.1 h
  exact ⟨enforced, rfl⟩

/-- The rebuild of a blueprint, if there is something to rebuild. -/
theorem executeAll_compileRebuild (sqlite : session.dialect = .sqlite) (formed : s.WellFormed)
    (reports : session.Reports states b.table s) (hx : states x)
    (h : (compileRebuild session b).result x = (.ok ss, x')) (now : Shape) :
    executeAll b.table ss (.ofShape now) =
      (if redefines b = false ∧ b.droppedColumns = [] then some now
        else b.rebuilt s now).map .ofShape := by
  rw [← rebuildDiff_table] at reports
  unfold compileRebuild at h
  dsimp only at h
  split at h
  · rename_i empty
    obtain ⟨rfl, -⟩ := DbM.result_pure_eq_ok_iff.1 h
    rw [if_pos (b.isEmpty_rebuildDiff.1 empty)]
    rfl
  · rename_i filled
    rw [if_neg (fun e => filled (b.isEmpty_rebuildDiff.2 e))]
    obtain ⟨statements, x₁, rebuilt, h⟩ := DbM.result_bind_eq_ok_iff.1 h
    have same : executeAll b.table ss (.ofShape now) =
        executeAll b.table statements (.ofShape now) := by
      split at h
      · obtain ⟨rfl, -⟩ := DbM.result_pure_eq_ok_iff.1 h
        rfl
      · obtain ⟨enforced, rfl⟩ := withoutForeignKeys_eq_ok h
        rw [executeAll_toggled]
    have executed := executeAll_rebuild sqlite formed reports
      (TableDiff.made_rebuildDiff b).change_eq_false hx rebuilt now
    rw [rebuildDiff_table, b.removed_rebuildDiff] at executed
    rw [same, executed, Blueprint.rebuilt]
    split <;> rfl

theorem executeAll_alterTable (table : String) (a : Alteration) (now : Shape) :
    executeAll table [.alterTable table [a]] (.ofShape now) = (a.perform now).map .ofShape := by
  rw [executeAll_singleton, Statement.perform, if_pos rfl, LiveTable.alter, LiveTable.ofShape]
  simp only [Option.bind_some, List.foldlM_cons, List.foldlM_nil]
  cases a.perform now <;> rfl

/-- The statements of one command do to the table what its replay says. -/
theorem executeAll_compile (sqlite : session.dialect = .sqlite) (formed : s.WellFormed)
    (reports : session.Reports states b.table s) (alters : ∀ c ∈ b.commands, c.IsAlteration)
    (hx : states x) {c : Command} (hc : c ∈ b.compiledCommands)
    (h : (Compile.Sqlite.compile session b c).result x = (.ok ss, x')) (now : Shape) :
    executeAll b.table ss (.ofShape now) = (b.replayStep s now c).map .ofShape := by
  unfold Compile.Sqlite.compile at h
  rcases Blueprint.compiledCommands_cases alters hc with
    alters | rfl | ⟨rfl, redefining⟩ | ⟨fk, rfl⟩
  · cases c with
    | create | add | change | drop | dropIfExists | rename _ | addForeign _ | dropPrimary _
    | dropForeign _ => cases alters
    | dropColumns columns =>
      dsimp only at h
      rw [Blueprint.replayStep]
      by_cases starts : startsRebuild b columns = true
      · rw [if_pos starts] at h
        have redefines : redefines b = false := by
          simp only [startsRebuild, Bool.and_eq_true, Bool.not_eq_true'] at starts
          exact starts.1
        rw [executeAll_compileRebuild sqlite formed reports hx h now]
        by_cases nothing : b.droppedColumns = [] <;> simp [redefines, nothing, starts]
      · rw [if_neg starts] at h
        obtain ⟨rfl, -⟩ := DbM.result_pure_eq_ok_iff.1 h
        rw [if_neg (fun both => starts both.1)]
        rfl
    | renameColumn source target =>
      obtain ⟨enforced, rfl⟩ := withoutForeignKeys_eq_ok h
      rw [executeAll_toggled, executeAll_alterTable]
      rfl
    | addIndex i =>
      have secondary : i.kind ≠ .primary := alters
      dsimp only at h
      rw [Compile.Sqlite.addIndex, if_neg secondary] at h
      obtain ⟨rfl, -⟩ := DbM.result_pure_eq_ok_iff.1 h
      rw [executeAll_singleton, createIndex, Statement.perform, if_pos rfl]
      rfl
    | dropUnique name | dropIndex name =>
      obtain ⟨rfl, -⟩ := DbM.result_pure_eq_ok_iff.1 h
      rw [executeAll_singleton]
      rfl
  · obtain ⟨h, -⟩ := DbM.result_ofExcept_eq_ok_iff.1 h
    obtain ⟨ds, defined, rfl⟩ := Except.exists_of_map_eq_ok h
    rw [executeAll_addColumns, map_name_defineAll defined]
    rfl
  · rw [executeAll_compileRebuild sqlite formed reports hx h now, if_neg (by simp [redefining])]
    rfl
  · dsimp only at h
    rw [if_neg (by simp [Blueprint.creating_eq_false alters])] at h
    cases h

/-- Commands are executed one after the other, each as its replay says. -/
theorem executeAll_compileAll (sqlite : session.dialect = .sqlite) (formed : s.WellFormed)
    (reports : session.Reports states b.table s) (alters : ∀ c ∈ b.commands, c.IsAlteration)
    {cs : List Command} (hcs : ∀ c ∈ cs, c ∈ b.compiledCommands) (hx : states x)
    (h : (b.compileAll session cs).result x = (.ok ss, x')) (now : Shape) :
    executeAll b.table ss (.ofShape now) =
      (cs.foldlM (fun now c => b.replayStep s now c) now).map .ofShape := by
  induction cs generalizing x ss now with
  | nil =>
    obtain ⟨rfl, -⟩ := DbM.result_pure_eq_ok_iff.1 h
    rfl
  | cons c cs ih =>
    obtain ⟨first, x₁, hfirst, h⟩ := DbM.result_bind_eq_ok_iff.1 h
    obtain ⟨others, x₂, hothers, h⟩ := DbM.result_bind_eq_ok_iff.1 h
    obtain ⟨rfl, rfl⟩ := DbM.result_pure_eq_ok_iff.1 h
    have alike : session.QueriesAlike (.keeping states) session := ⟨rfl, rfl, reports.queries⟩
    have between : states x₁ := by
      have kept := alike.compile b c x hx
      rw [hfirst] at kept
      exact kept
    rw [Blueprint.compile, sqlite] at hfirst
    rw [executeAll_append, executeAll_compile sqlite formed reports alters hx (hcs c (by simp))
      hfirst, List.foldlM_cons]
    cases b.replayStep s now c with
    | none => rfl
    | some next => exact ih (fun c hc => hcs c (by simp [hc])) between hothers next

/-- The statements of a blueprint do to the table what its replay says. -/
theorem executeAll_statements (sqlite : session.dialect = .sqlite) (formed : s.WellFormed)
    (reports : session.Reports states b.table s) (alters : ∀ c ∈ b.commands, c.IsAlteration)
    (hx : states x) (h : (b.statements session).result x = (.ok ss, x')) :
    executeAll b.table ss (.ofShape s) = (b.replay s).map .ofShape := by
  obtain ⟨_, x₁, checked, h⟩ := DbM.result_bind_eq_ok_iff.1 h
  obtain ⟨-, rfl⟩ := DbM.result_ofExcept_eq_ok_iff.1 checked
  exact executeAll_compileAll sqlite formed reports alters (fun c hc => hc) hx h s

end

end SchemaShift
