import SchemaShift.Proofs.Rebuild.Replay

/-!
# When later commands see earlier ones

The statements of a blueprint are executed in the order of its commands, but the rebuild among them
starts from the table as it was before all of them. Where nothing is rebuilt, and where columns are
only redefined and dropped, this makes no difference. Otherwise it does when a command ahead of the
rebuild adds or renames a column, or adds or drops an index, since the rebuild takes that back or
does not find the column.

Results:
* `executeAll_statements_of_altering`: without a rebuild, statements do what the commands mean.
* `executeAll_statements_of_dropping`: they do so too where a rebuild is all there is.
* `executeAll_statements_iff`: they do so exactly when the replay of the blueprint says so.
* `not_forall_executed`: they do not always do so.
-/

namespace SchemaShift

open Compile.Sqlite Sql

namespace Blueprint

variable {b : Blueprint}

/-! ## Agreement -/

theorem dropColumns_mem_compiledCommands_iff {columns : List String} :
    .dropColumns columns ∈ b.compiledCommands ↔ .dropColumns columns ∈ b.commands := by
  have leading : .dropColumns columns ∉ b.impliedLeading := by
    unfold impliedLeading
    repeat' split
    all_goals simp
  simp [compiledCommands, leading]

theorem droppedColumns_eq_nil {columns : List String} (kept : b.droppedColumns = [])
    (hc : .dropColumns columns ∈ b.commands) : columns = [] := by
  rw [droppedColumns, List.flatten_eq_nil_iff] at kept
  exact kept columns (List.mem_filterMap.2 ⟨_, hc, rfl⟩)

/-- Where nothing is rebuilt, a command is replayed as it is meant. -/
theorem replayStep_eq_perform (alters : ∀ c ∈ b.commands, c.IsAlteration)
    (defined : b.changedColumns = []) (kept : b.droppedColumns = []) (s now : Shape) {c : Command}
    (hc : c ∈ b.compiledCommands) : b.replayStep s now c = b.perform now c := by
  rcases compiledCommands_cases alters hc with alters | rfl | ⟨rfl, redefining⟩ | ⟨fk, rfl⟩
  · cases c with
    | dropColumns columns =>
      have nothing := droppedColumns_eq_nil kept (dropColumns_mem_compiledCommands_iff.1 hc)
      subst nothing
      rw [replayStep, if_neg (fun both => both.2 kept), perform, Shape.dropColumns,
        if_pos (by simp), Shape.without_nil]
    | change => cases alters
    | _ => rfl
  · rfl
  · rw [redefines, defined] at redefining
    simp at redefining
  · rfl

/-- Where nothing is rebuilt, the statements do what the commands mean. -/
theorem replay_eq_inOrder (alters : ∀ c ∈ b.commands, c.IsAlteration)
    (defined : b.changedColumns = []) (kept : b.droppedColumns = []) (s : Shape) :
    b.replay s = b.inOrder s := by
  have steps : ∀ cs : List Command, (∀ c ∈ cs, c ∈ b.compiledCommands) → ∀ now,
      cs.foldlM (fun now c => b.replayStep s now c) now =
        cs.foldlM (fun now c => b.perform now c) now := by
    intro cs hcs
    induction cs with
    | nil => exact fun _ => rfl
    | cons c cs ih =>
      intro now
      have others := ih fun c hc => hcs c (List.mem_cons_of_mem _ hc)
      rw [List.foldlM_cons, List.foldlM_cons,
        replayStep_eq_perform alters defined kept s now (hcs c List.mem_cons_self)]
      exact congrArg _ (funext others)
  exact steps _ (fun c hc => hc) s

/-! ## Columns that are only redefined and dropped -/

theorem rebuilt_self (b : Blueprint) (s : Shape) :
    b.rebuilt s s = some (s.without b.droppedColumns) :=
  if_pos (Finset.filter_subset _ _)

/-- After a rebuild, dropping columns changes nothing. -/
theorem replayStep_without (b : Blueprint) (s : Shape) (columns : List String) :
    b.replayStep s (s.without b.droppedColumns) (.dropColumns columns) =
      some (s.without b.droppedColumns) := by
  rw [replayStep]
  split
  · exact if_pos (Finset.Subset.refl _)
  · rfl

/-- After a rebuild, dropping columns changes nothing. -/
theorem replay_dropping (b : Blueprint) (s : Shape) (drops : List (List String)) :
    (drops.map Command.dropColumns).foldlM (fun now c => b.replayStep s now c)
      (s.without b.droppedColumns) = some (s.without b.droppedColumns) := by
  induction drops with
  | nil => rfl
  | cons columns drops ih =>
    rw [List.map_cons, List.foldlM_cons, replayStep_without]
    exact ih

/-- What remains when columns are dropped one after the other. -/
theorem inOrder_dropping {drops : List (List String)} {now t : Shape}
    (h : (drops.map Command.dropColumns).foldlM (fun now c => b.perform now c) now = some t) :
    t = now.without drops.flatten := by
  induction drops generalizing now with
  | nil =>
    cases h
    rw [List.flatten_nil, Shape.without_nil]
  | cons columns drops ih =>
    rw [List.map_cons, List.foldlM_cons] at h
    obtain ⟨next, dropped, h⟩ := Option.bind_eq_some_iff.1 h
    rw [perform, Shape.dropColumns] at dropped
    split at dropped
    · cases dropped
      rw [ih h, Shape.without_without, List.flatten_cons]
    · cases dropped

/-- The first drop of a blueprint that redefines nothing rebuilds the table. -/
theorem replayStep_first {columns : List String} {cs : List Command}
    (commands : b.commands = .dropColumns columns :: cs) (defined : redefines b = false)
    (s : Shape) : b.replayStep s s (.dropColumns columns) = some (s.without b.droppedColumns) := by
  have starts : startsRebuild b columns = true := by
    rw [startsRebuild, defined, commands]
    simp [Command.droppedColumns?]
  rw [replayStep]
  by_cases nothing : b.droppedColumns = []
  · rw [if_neg (fun both => both.2 nothing), nothing, Shape.without_nil]
  · rw [if_pos ⟨starts, nothing⟩, rebuilt_self]

theorem isAlteration_of_dropping {drops : List (List String)}
    (only : b.commands = drops.map .dropColumns) : ∀ c ∈ b.commands, c.IsAlteration := by
  intro c hc
  rw [only] at hc
  obtain ⟨columns, -, rfl⟩ := List.mem_map.1 hc
  trivial

theorem droppedColumns_dropping {drops : List (List String)}
    (only : b.commands = drops.map .dropColumns) : b.droppedColumns = drops.flatten := by
  have names : Command.droppedColumns? ∘ Command.dropColumns = some := rfl
  rw [droppedColumns, only, List.filterMap_map, names, List.filterMap_some]

/-- Where columns are only redefined and dropped, the statements do what the commands mean. -/
theorem replay_of_inOrder {drops : List (List String)}
    (only : b.commands = drops.map .dropColumns) (known : b.addedColumns = []) {s t : Shape}
    (h : b.inOrder s = some t) : b.replay s = some t := by
  have existing : b.creating = false := creating_eq_false (isAlteration_of_dropping only)
  have compiled : b.compiledCommands =
      (if b.changedColumns.isEmpty then [] else [.change]) ++ drops.map .dropColumns := by
    simp [compiledCommands, impliedLeading, impliedForeignKeys, existing, known, only]
  have dropped := droppedColumns_dropping only
  rw [inOrder, compiled] at h
  rw [replay, compiled]
  by_cases defined : b.changedColumns.isEmpty = true
  · rw [if_pos defined, List.nil_append] at h ⊢
    rw [inOrder_dropping h, ← dropped]
    cases drops with
    | nil =>
      rw [dropped, List.flatten_nil, Shape.without_nil]
      rfl
    | cons columns drops =>
      rw [List.map_cons, List.foldlM_cons, replayStep_first only (by simp [redefines, defined]) s]
      exact b.replay_dropping s drops
  · rw [if_neg defined, List.singleton_append, List.foldlM_cons] at h ⊢
    obtain ⟨next, checked, h⟩ := Option.bind_eq_some_iff.1 h
    rw [perform] at checked
    split at checked
    · cases checked
      rw [inOrder_dropping h, ← dropped, replayStep, rebuilt_self]
      exact b.replay_dropping s drops
    · cases checked

end Blueprint

/-! ## Execution -/

section

variable {σ : Type} {session : Session σ} {states : σ → Prop} {x x' : σ} {b : Blueprint}
  {s t : Shape} {ss : List Statement}

/-- Where nothing is rebuilt, the statements do what the commands mean. -/
theorem executeAll_statements_of_altering (sqlite : session.dialect = .sqlite)
    (formed : s.WellFormed) (reports : session.Reports states b.table s)
    (alters : ∀ c ∈ b.commands, c.IsAlteration) (hx : states x)
    (h : (b.statements session).result x = (.ok ss, x')) (defined : b.changedColumns = [])
    (kept : b.droppedColumns = []) :
    executeAll b.table ss (.ofShape s) = (b.inOrder s).map .ofShape := by
  rw [executeAll_statements sqlite formed reports alters hx h,
    Blueprint.replay_eq_inOrder alters defined kept]

/-- Where columns are only redefined and dropped, the statements do what the commands mean. -/
theorem executeAll_statements_of_dropping (sqlite : session.dialect = .sqlite)
    (formed : s.WellFormed) (reports : session.Reports states b.table s) (hx : states x)
    (h : (b.statements session).result x = (.ok ss, x')) {drops : List (List String)}
    (only : b.commands = drops.map .dropColumns) (known : b.addedColumns = [])
    (meant : b.inOrder s = some t) :
    executeAll b.table ss (.ofShape s) = some (.ofShape t) := by
  rw [executeAll_statements sqlite formed reports (Blueprint.isAlteration_of_dropping only) hx h,
    Blueprint.replay_of_inOrder only known meant]
  rfl

/-- The statements of a blueprint lead where its commands mean to lead exactly when the replay of
the blueprint leads there. -/
theorem executeAll_statements_iff (sqlite : session.dialect = .sqlite) (formed : s.WellFormed)
    (reports : session.Reports states b.table s) (alters : ∀ c ∈ b.commands, c.IsAlteration)
    (hx : states x) (h : (b.statements session).result x = (.ok ss, x'))
    (meant : b.inOrder s = some t) :
    executeAll b.table ss (.ofShape s) = (b.inOrder s).map .ofShape ↔ b.replay s = some t := by
  rw [executeAll_statements sqlite formed reports alters hx h, meant]
  constructor
  · intro same
    cases replayed : b.replay s with
    | none =>
      rw [replayed] at same
      cases same
    | some final =>
      rw [replayed] at same
      cases same
      rfl
  · intro replayed
    rw [replayed]

end

/-- Users with an age and with votes. -/
def users : Shape := { columns := ["id", "age", "votes"].toFinset, indexes := ∅ }

/-- The catalog of the users. -/
def usersSession : Session Unit := .describing "users" ["id", "age", "votes"]

theorem reports_users : usersSession.Reports (fun _ => True) "users" users where
  queries _ _ _ := trivial
  shape := by
    intro x x' current _ h
    have read : (((Catalog.table usersSession "users").result ()).1.toOption.map (·.shape)) =
        some users := by decide +kernel
    rw [h] at read
    exact Option.some_inj.1 read

theorem exists_statements {b : Blueprint}
    (h : ((b.statements usersSession).result ()).1.toOption.isSome = true) :
    ∃ ss, (b.statements usersSession).result () = (.ok ss, ()) := by
  rcases compiled : (b.statements usersSession).result () with ⟨e | ss, _⟩
  · rw [compiled] at h
    cases h
  · exact ⟨ss, rfl⟩

/-- Votes become a score with an index once the age has been dropped. -/
def scoring : Blueprint :=
  { table := "users"
    commands :=
      [.dropColumns ["age"], .renameColumn "votes" "score",
        .addIndex { kind := .index, columns := ["score"] }] }

/-- Commands behind a rebuild see what it leaves. -/
theorem executeAll_statements_iff_scoring :
    ∃ ss t, (scoring.statements usersSession).result () = (.ok ss, ()) ∧
      scoring.inOrder users = some t ∧
      (executeAll "users" ss (.ofShape users) = (scoring.inOrder users).map .ofShape ↔
        scoring.replay users = some t) := by
  obtain ⟨ss, compiled⟩ := exists_statements (b := scoring) (by decide +kernel)
  have meant : scoring.inOrder users = some
      { columns := ["id", "score"].toFinset
        indexes := [("users_score_index", ["score"])].toFinset } := by decide +kernel
  exact ⟨ss, _, compiled, meant,
    executeAll_statements_iff (b := scoring) rfl (by decide +kernel) reports_users
      (by decide +kernel) trivial compiled meant⟩

/-- Votes give way to an address. -/
def addressing : Blueprint :=
  { table := "users"
    columns := [{ name := "email", type := .string }]
    commands := [.dropColumns ["votes"]] }

/-- Later commands do not always see earlier ones: a rebuild loses the columns that are added ahead
of it. -/
theorem not_forall_executed :
    ¬ ∀ (session : Session Unit) (b : Blueprint) (s t : Shape) (ss : List Statement),
      session.dialect = .sqlite → s.WellFormed → session.Reports (fun _ => True) b.table s →
      (∀ c ∈ b.commands, c.IsAlteration) → (b.statements session).result () = (.ok ss, ()) →
      b.inOrder s = some t → executeAll b.table ss (.ofShape s) = some (.ofShape t) := by
  intro all
  obtain ⟨ss, compiled⟩ := exists_statements (b := addressing) (by decide +kernel)
  have formed : users.WellFormed := by decide +kernel
  have alters : ∀ c ∈ addressing.commands, c.IsAlteration := by decide +kernel
  have meant : addressing.inOrder users = some
      { columns := ["email", "id", "age"].toFinset, indexes := ∅ } := by decide +kernel
  have replayed : addressing.replay users = some
      { columns := ["id", "age"].toFinset, indexes := ∅ } := by decide +kernel
  have executed := all usersSession addressing users _ ss rfl formed reports_users alters compiled
    meant
  rw [executeAll_statements rfl formed reports_users alters trivial compiled, replayed] at executed
  exact absurd executed (by decide +kernel)

end SchemaShift
