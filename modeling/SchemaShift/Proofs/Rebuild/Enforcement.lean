import SchemaShift.Proofs.Rebuild.Agreement

/-!
# Rebuilding without enforcement

Where foreign keys are enforced, dropping a table acts on the rows that refer to it. The rebuild
that redefines columns therefore stands between statements that turn the enforcement off and on
again, and so does the renaming of a column. A rebuild that only drops columns does not.

Results:
* `emits_compile`: what a command consists of.
* `exists_parts`: what a blueprint consists of.
* `paired_statements`: the enforcement that is turned off is turned on again, before it is turned
  off the next time.
* `unenforced_toSql_iff`: a rebuild drops the table without enforcement exactly when it redefines
  columns.
* `not_forall_unenforced`: a rebuild that only drops columns does not.
-/

namespace SchemaShift

open Compile.Sqlite Sql

namespace Sql

/-! ## Turning the enforcement off and on -/

/-- What a statement turns the enforcement of foreign keys to, if it does. -/
def Statement.toggle? : Statement → Option Bool
  | enforceForeignKeys on => some on
  | createTable .. | copyTable .. | insertFrom .. | dropTable .. | renameTable .. | alterTable ..
  | createIndex .. | dropIndex _ => none

/-- How statements turn the enforcement of foreign keys off and on, in order. -/
def toggles (ss : List Statement) : List Bool := ss.filterMap Statement.toggle?

/-- Off and on in turns, and on in the end. -/
inductive Paired : List Bool → Prop
  | nil : Paired []
  | cons {ts : List Bool} (others : Paired ts) : Paired (false :: true :: ts)

/-- What stands between statements is executed without enforcement: it was turned off in front, and
is turned on behind. -/
def Unenforced (before after : List Statement) : Prop :=
  (toggles before).getLast? = some false ∧ (toggles after).head? = some true

instance (before after : List Statement) : Decidable (Unenforced before after) :=
  inferInstanceAs (Decidable (_ ∧ _))

/-- A rebuild drops a table between statements: the last one in front copies its rows aside. -/
def DropsForRebuild (table : String) (ss before after : List Statement) : Prop :=
  ss = before ++ .dropTable table false :: after ∧
    ∃ columns, before.getLast? = some (.copyTable (temporaryName table) columns table)

theorem toggles_append (ss ts : List Statement) : toggles (ss ++ ts) = toggles ss ++ toggles ts :=
  List.filterMap_append

theorem toggles_eq_nil_iff {ss : List Statement} :
    toggles ss = [] ↔ ∀ s ∈ ss, s.toggle? = none := List.filterMap_eq_nil_iff

theorem toggles_toggled {enforced : Bool} {ss : List Statement} (silent : toggles ss = []) :
    toggles (toggled enforced ss) = if enforced then [false, true] else [] := by
  cases enforced with
  | false => exact silent
  | true =>
    show toggles ([.enforceForeignKeys false] ++ ss ++ [.enforceForeignKeys true]) = [false, true]
    rw [toggles_append, toggles_append, silent]
    rfl

theorem Paired.append {ts us : List Bool} (h : Paired ts) (h' : Paired us) : Paired (ts ++ us) := by
  induction h with
  | nil => exact h'
  | cons _ ih => exact .cons ih

/-- What is turned off in the end is not paired. -/
theorem Paired.getLast?_ne {ts : List Bool} (h : Paired ts) : ts.getLast? ≠ some false := by
  induction h with
  | nil => exact nofun
  | @cons ts _ ih =>
    rw [List.getLast?_cons_cons, List.getLast?_cons]
    cases last : ts.getLast? with
    | none => exact nofun
    | some on =>
      rw [last] at ih
      exact ih

end Sql

/-- In a set of states that queries do not leave, a session says in certain ways only whether it
enforces foreign keys. -/
structure Session.Tells {σ : Type} (session : Session σ) (states : σ → Prop)
    (answers : Bool → Prop) : Prop where
  queries : ∀ sql x, states x → states ((session.select sql).result x).2
  enforced : ∀ x x' on, states x →
    (enforcesForeignKeys session).result x = (.ok on, x') → answers on

namespace Blueprint

/-! ## What commands consist of -/

/-- A statement that neither turns the enforcement off or on nor copies rows aside. -/
def isPlain : Statement → Bool
  | .enforceForeignKeys _ | .copyTable .. => false
  | .createTable .. | .insertFrom .. | .dropTable .. | .renameTable .. | .alterTable ..
  | .createIndex .. | .dropIndex _ => true

/-- What the statements of a command can be, given what a session can say about the enforcement. -/
inductive Emits (b : Blueprint) (answers : Bool → Prop) : List Statement → Prop
  | plain {part : List Statement} (h : ∀ s ∈ part, isPlain s = true) : Emits b answers part
  | renames {on : Bool} (said : answers on) (source target : String) :
    Emits b answers (toggled on [.alterTable b.table [.renameColumn source target]])
  | redefines {on : Bool} (said : answers on) (redefining : redefines b = true)
    (survivors : List String) (target : Blueprint) {created : Statement}
    (plain : isPlain created = true) :
    Emits b answers (toggled on (rebuildStatements b.table survivors target created))
  | drops (keeping : Compile.Sqlite.redefines b = false) (survivors : List String)
    (target : Blueprint) {created : Statement} (plain : isPlain created = true) :
    Emits b answers (rebuildStatements b.table survivors target created)

variable {σ : Type} {session : Session σ} {states : σ → Prop} {answers : Bool → Prop} {x x' : σ}
  {b : Blueprint} {ss : List Statement}

/-- A rebuild has new definitions where the blueprint redefines columns. -/
theorem isEmpty_changed_rebuildDiff (b : Blueprint) :
    (rebuildDiff b).changed.isEmpty = !redefines b := by
  cases redefining : redefines b with
  | false => simp [rebuildDiff, redefining, TableDiff.removing]
  | true =>
    have changed : b.changedColumns ≠ [] := by
      simp only [redefines, Bool.and_eq_true, Bool.not_eq_true', List.isEmpty_eq_false_iff]
        at redefining
      exact redefining.2
    simp [rebuildDiff, redefining, TableDiff.removing, TableDiff.changing, changed]

/-- Statements are bracketed as the session says. -/
theorem exists_toggled (tells : session.Tells states answers) (hx : states x)
    {inner : List Statement} (h : (withoutForeignKeys session inner).result x = (.ok ss, x')) :
    ∃ on, answers on ∧ ss = toggled on inner := by
  obtain ⟨on, x₁, asked, h⟩ := DbM.result_bind_eq_ok_iff.1 h
  obtain ⟨rfl, -⟩ := DbM.result_pure_eq_ok_iff.1 h
  exact ⟨on, tells.enforced x x₁ on hx asked, rfl⟩

theorem emits_compileRebuild (tells : session.Tells states answers) (hx : states x)
    (h : (compileRebuild session b).result x = (.ok ss, x')) : b.Emits answers ss := by
  unfold compileRebuild at h
  dsimp only at h
  split at h
  · obtain ⟨rfl, -⟩ := DbM.result_pure_eq_ok_iff.1 h
    exact .plain (List.forall_mem_nil _)
  · obtain ⟨statements, x₁, rebuilt, h⟩ := DbM.result_bind_eq_ok_iff.1 h
    obtain ⟨current, created, read, made, rfl⟩ := rebuild_eq_ok rebuilt
    have plain : isPlain created = true := by rw [eq_of_create made]; rfl
    have between : states x₁ := by
      have alike : session.QueriesAlike (.keeping states) session := ⟨rfl, rfl, tells.queries⟩
      have kept := alike.table (rebuildDiff b).table x hx
      rw [read] at kept
      exact kept
    rw [rebuildDiff_table] at h
    split at h
    · rename_i keeps
      rw [isEmpty_changed_rebuildDiff, Bool.not_eq_true'] at keeps
      obtain ⟨rfl, -⟩ := DbM.result_pure_eq_ok_iff.1 h
      exact .drops keeps _ _ plain
    · rename_i redefining
      rw [isEmpty_changed_rebuildDiff, Bool.not_eq_true', Bool.not_eq_false] at redefining
      obtain ⟨on, said, rfl⟩ := exists_toggled tells between h
      exact .redefines said redefining _ _ plain

/-- What a command consists of on SQLite. -/
theorem emits_compile (tells : session.Tells states answers) (hx : states x) {c : Command}
    (h : (Compile.Sqlite.compile session b c).result x = (.ok ss, x')) : b.Emits answers ss := by
  cases c with
  | create =>
    obtain ⟨h, -⟩ := DbM.result_ofExcept_eq_ok_iff.1 h
    obtain ⟨created, made, rfl⟩ := Except.exists_of_map_eq_ok h
    rw [eq_of_create made]
    exact .plain (List.forall_mem_singleton.2 rfl)
  | add =>
    obtain ⟨h, -⟩ := DbM.result_ofExcept_eq_ok_iff.1 h
    obtain ⟨ds, -, rfl⟩ := Except.exists_of_map_eq_ok h
    exact .plain (List.forall_mem_map.2 fun _ _ => rfl)
  | change => exact emits_compileRebuild tells hx h
  | dropColumns columns =>
    dsimp only [Compile.Sqlite.compile] at h
    split at h
    · exact emits_compileRebuild tells hx h
    · obtain ⟨rfl, -⟩ := DbM.result_pure_eq_ok_iff.1 h
      exact .plain (List.forall_mem_nil _)
  | renameColumn source target =>
    obtain ⟨on, said, rfl⟩ := exists_toggled tells hx h
    exact .renames said source target
  | addIndex i =>
    dsimp only [Compile.Sqlite.compile] at h
    unfold Compile.Sqlite.addIndex at h
    split at h
    · split at h
      · obtain ⟨rfl, -⟩ := DbM.result_pure_eq_ok_iff.1 h
        exact .plain (List.forall_mem_nil _)
      · cases h
    · obtain ⟨rfl, -⟩ := DbM.result_pure_eq_ok_iff.1 h
      exact .plain (List.forall_mem_singleton.2 rfl)
  | addForeign fk =>
    dsimp only [Compile.Sqlite.compile] at h
    split at h
    · obtain ⟨rfl, -⟩ := DbM.result_pure_eq_ok_iff.1 h
      exact .plain (List.forall_mem_nil _)
    · cases h
  | drop | dropIfExists | rename | dropUnique | dropIndex =>
    obtain ⟨rfl, -⟩ := DbM.result_pure_eq_ok_iff.1 h
    exact .plain (List.forall_mem_singleton.2 rfl)
  | dropPrimary | dropForeign => cases h

/-- What commands consist of on SQLite. -/
theorem exists_parts_compileAll (sqlite : session.dialect = .sqlite)
    (tells : session.Tells states answers) (hx : states x) {cs : List Command}
    (h : (b.compileAll session cs).result x = (.ok ss, x')) :
    ∃ parts : List (List Statement), ss = parts.flatten ∧ ∀ part ∈ parts, b.Emits answers part := by
  induction cs generalizing x ss with
  | nil =>
    obtain ⟨rfl, -⟩ := DbM.result_pure_eq_ok_iff.1 h
    exact ⟨[], rfl, List.forall_mem_nil _⟩
  | cons c cs ih =>
    obtain ⟨first, x₁, compiled, h⟩ := DbM.result_bind_eq_ok_iff.1 h
    obtain ⟨others, x₂, rest, h⟩ := DbM.result_bind_eq_ok_iff.1 h
    obtain ⟨rfl, rfl⟩ := DbM.result_pure_eq_ok_iff.1 h
    have between : states x₁ := by
      have alike : session.QueriesAlike (.keeping states) session := ⟨rfl, rfl, tells.queries⟩
      have kept := alike.compile b c x hx
      rw [compiled] at kept
      exact kept
    rw [Blueprint.compile, sqlite] at compiled
    obtain ⟨parts, rfl, all⟩ := ih between rest
    exact ⟨first :: parts, rfl, List.forall_mem_cons.2 ⟨emits_compile tells hx compiled, all⟩⟩

/-- What a blueprint consists of on SQLite. -/
theorem exists_parts (sqlite : session.dialect = .sqlite) (tells : session.Tells states answers)
    (hx : states x) (h : (b.statements session).result x = (.ok ss, x')) :
    ∃ parts : List (List Statement), ss = parts.flatten ∧ ∀ part ∈ parts, b.Emits answers part := by
  obtain ⟨_, x₁, checked, h⟩ := DbM.result_bind_eq_ok_iff.1 h
  obtain ⟨-, rfl⟩ := DbM.result_ofExcept_eq_ok_iff.1 checked
  exact exists_parts_compileAll sqlite tells hx h

/-! ## Brackets -/

theorem toggle?_eq_none {s : Statement} (h : isPlain s = true) : s.toggle? = none := by
  cases s with
  | enforceForeignKeys on => cases h
  | _ => rfl

theorem toggles_eq_nil (h : ∀ s ∈ ss, isPlain s = true) : toggles ss = [] :=
  toggles_eq_nil_iff.2 fun s hs => toggle?_eq_none (h s hs)

/-- A rebuild by itself leaves the enforcement alone. -/
theorem toggles_rebuildStatements (table : String) (survivors : List String) (target : Blueprint)
    {created : Statement} (plain : isPlain created = true) :
    toggles (rebuildStatements table survivors target created) = [] := by
  refine toggles_eq_nil_iff.2 fun s hs => ?_
  simp only [rebuildStatements, List.mem_append, List.mem_cons, List.not_mem_nil, or_false,
    List.mem_map] at hs
  rcases hs with (rfl | rfl | rfl | rfl | rfl) | ⟨i, -, rfl⟩
  · rfl
  · rfl
  · exact toggle?_eq_none plain
  · rfl
  · rfl
  · rfl

theorem Emits.paired {part : List Statement} (h : b.Emits answers part) :
    Paired (toggles part) := by
  have brackets (on : Bool) : Paired (if on then [false, true] else []) := by
    cases on with
    | false => exact .nil
    | true => exact .cons .nil
  cases h with
  | plain silent =>
    rw [toggles_eq_nil silent]
    exact .nil
  | @renames on =>
    rw [toggles_toggled rfl]
    exact brackets on
  | @redefines on _ _ survivors target _ plain =>
    rw [toggles_toggled (toggles_rebuildStatements _ survivors target plain)]
    exact brackets on
  | drops _ survivors target plain =>
    rw [toggles_rebuildStatements _ survivors target plain]
    exact .nil

/-- The enforcement that a blueprint turns off is turned on again, before it is turned off the next
time. -/
theorem paired_statements (sqlite : session.dialect = .sqlite)
    (h : (b.statements session).result x = (.ok ss, x')) : Paired (toggles ss) := by
  have tells : session.Tells (fun _ => True) (fun _ => True) :=
    ⟨fun _ _ _ => trivial, fun _ _ _ _ _ => trivial⟩
  obtain ⟨parts, rfl, all⟩ := exists_parts sqlite tells trivial h
  clear h
  induction parts with
  | nil => exact .nil
  | cons part parts ih =>
    obtain ⟨first, others⟩ := List.forall_mem_cons.1 all
    rw [List.flatten_cons, toggles_append]
    exact first.paired.append (ih others)

/-- A session without enforcement is never asked to change that. -/
theorem toggles_statements_eq_nil (sqlite : session.dialect = .sqlite)
    (tells : session.Tells states (· = false)) (hx : states x)
    (h : (b.statements session).result x = (.ok ss, x')) : toggles ss = [] := by
  obtain ⟨parts, rfl, all⟩ := exists_parts sqlite tells hx h
  rw [toggles_eq_nil_iff, List.forall_mem_flatten]
  intro part hpart
  rw [← toggles_eq_nil_iff]
  cases all part hpart with
  | plain silent => exact toggles_eq_nil silent
  | renames said =>
    subst said
    rfl
  | redefines said _ survivors target plain =>
    subst said
    exact toggles_rebuildStatements _ survivors target plain
  | drops _ survivors target plain => exact toggles_rebuildStatements _ survivors target plain

/-! ## Dropping the table -/

/-- What stands between the brackets is executed without enforcement. -/
theorem unenforced_of_toggled {inner before after : List Statement} {s : Statement}
    (silent : toggles inner = []) (plain : s.toggle? = none)
    (split : toggled true inner = before ++ s :: after) : Unenforced before after := by
  rw [toggled, if_pos rfl] at split
  cases before with
  | nil =>
    cases (List.cons.inj split).1
    cases plain
  | cons first before =>
    obtain ⟨rfl, rest⟩ := List.cons.inj split
    replace rest : inner ++ [.enforceForeignKeys true] = before ++ s :: after := rest
    rcases List.eq_nil_or_concat after with rfl | ⟨between, last, rfl⟩
    · cases (List.append_inj' rest rfl).2
      cases plain
    · rw [List.concat_eq_append, ← List.cons_append, ← List.append_assoc] at rest
      obtain ⟨rfl, closing⟩ := List.append_inj' rest rfl
      cases closing
      have outside : toggles before = [] ∧ toggles between = [] := by
        rw [toggles_append] at silent
        obtain ⟨front, back⟩ := List.append_eq_nil_iff.1 silent
        rw [toggles_eq_nil_iff] at back
        exact ⟨front, toggles_eq_nil_iff.2 fun t ht => back t (List.mem_cons_of_mem _ ht)⟩
      constructor
      · show (toggles ([.enforceForeignKeys false] ++ before)).getLast? = some false
        rw [toggles_append, outside.1]
        rfl
      · rw [List.concat_eq_append, toggles_append, outside.2]
        rfl

/-- Without rows that are copied aside, no table is dropped for a rebuild. -/
theorem not_dropsForRebuild {before after : List Statement}
    (h : ∀ target columns source, .copyTable target columns source ∉ ss) (table : String) :
    ¬ DropsForRebuild table ss before after := by
  rintro ⟨rfl, columns, copied⟩
  exact h _ columns table (List.mem_append_left _ (List.mem_of_getLast? copied))

/-- Where statements do not end with a copy, a table that is dropped for a rebuild is dropped on
either side. -/
theorem dropsForRebuild_append {table : String} {xs ys before after : List Statement}
    (apart : ∀ target columns source, xs.getLast? ≠ some (.copyTable target columns source))
    (h : DropsForRebuild table (xs ++ ys) before after) :
    (∃ between, DropsForRebuild table xs before between ∧ after = between ++ ys) ∨
      ∃ between, DropsForRebuild table ys between after ∧ before = xs ++ between := by
  obtain ⟨split, columns, copied⟩ := h
  have other (same : xs = before) : False := apart _ columns table (same ▸ copied)
  rcases List.append_eq_append_iff.1 split with ⟨between, rfl, rest⟩ | ⟨between, rfl, rest⟩
  · rcases List.eq_nil_or_concat between with rfl | ⟨front, last, rfl⟩
    · exact (other (List.append_nil xs).symm).elim
    · refine .inr ⟨_, ⟨rest, columns, ?_⟩, rfl⟩
      rw [List.concat_eq_append] at copied ⊢
      rw [← List.append_assoc, List.getLast?_concat] at copied
      rw [List.getLast?_concat, copied]
  · cases between with
    | nil => exact (other (List.append_nil before)).elim
    | cons dropped between =>
      obtain ⟨rfl, rfl⟩ := List.cons.inj rest
      exact .inl ⟨between, ⟨rfl, columns, copied⟩, rfl⟩

/-- Statements that drop the table for a rebuild without enforcement exactly where the blueprint
redefines columns. -/
structure Encloses (b : Blueprint) (ss : List Statement) : Prop where
  paired : Paired (toggles ss)
  apart : ∀ target columns source, ss.getLast? ≠ some (.copyTable target columns source)
  off : redefines b = true → ∀ before after, DropsForRebuild b.table ss before after →
    Unenforced before after
  on : redefines b = false → ∀ before after, DropsForRebuild b.table ss before after →
    (toggles before).getLast? ≠ some false

theorem encloses_nil : b.Encloses [] where
  paired := .nil
  apart _ _ _ := nofun
  off _ _ _ drops := (not_dropsForRebuild (fun _ _ _ => List.not_mem_nil) _ drops).elim
  on _ _ _ drops := (not_dropsForRebuild (fun _ _ _ => List.not_mem_nil) _ drops).elim

theorem Encloses.append {xs ys : List Statement} (hx : b.Encloses xs) (hy : b.Encloses ys) :
    b.Encloses (xs ++ ys) where
  paired := by
    rw [toggles_append]
    exact hx.paired.append hy.paired
  apart := by
    intro target columns source
    have apart := hy.apart target columns source
    rw [List.getLast?_append]
    cases last : ys.getLast? with
    | none => exact hx.apart target columns source
    | some s =>
      rw [last] at apart
      exact apart
  off := by
    intro redefining before after h
    rcases dropsForRebuild_append hx.apart h with ⟨between, drops, rfl⟩ | ⟨between, drops, rfl⟩
    · obtain ⟨front, back⟩ := hx.off redefining _ _ drops
      refine ⟨front, ?_⟩
      rw [toggles_append, List.head?_append, back]
      rfl
    · obtain ⟨front, back⟩ := hy.off redefining _ _ drops
      refine ⟨?_, back⟩
      rw [toggles_append, List.getLast?_append, front]
      rfl
  on := by
    intro keeping before after h
    rcases dropsForRebuild_append hx.apart h with ⟨between, drops, rfl⟩ | ⟨between, drops, rfl⟩
    · exact hx.on keeping _ _ drops
    · have front := hy.on keeping _ _ drops
      rw [toggles_append, List.getLast?_append]
      cases last : (toggles between).getLast? with
      | none => exact hx.paired.getLast?_ne
      | some on =>
        rw [last] at front
        exact front

/-- The last statement of a rebuild copies nothing aside. -/
theorem getLast?_rebuildStatements (table : String) (survivors : List String) (target : Blueprint)
    (created : Statement) :
    ∃ s, (rebuildStatements table survivors target created).getLast? = some s ∧
      isPlain s = true := by
  rw [rebuildStatements, List.getLast?_append]
  cases last : ((ownIndexes target).map (createIndex target)).getLast? with
  | none => exact ⟨_, rfl, rfl⟩
  | some s =>
    obtain ⟨i, -, rfl⟩ := List.mem_map.1 (List.mem_of_getLast? last)
    exact ⟨_, rfl, rfl⟩

theorem Emits.encloses {part : List Statement} (h : b.Emits (· = true) part) :
    b.Encloses part := by
  have paired := h.paired
  cases h with
  | plain silent =>
    have uncopied : ∀ target columns source, .copyTable target columns source ∉ part :=
      fun _ _ _ mem => Bool.false_ne_true (silent _ mem)
    exact
      { paired
        apart := fun _ _ _ last => uncopied _ _ _ (List.mem_of_getLast? last)
        off := fun _ _ _ drops => (not_dropsForRebuild uncopied _ drops).elim
        on := fun _ _ _ drops => (not_dropsForRebuild uncopied _ drops).elim }
  | renames said source target =>
    subst said
    have uncopied : ∀ t columns s, .copyTable t columns s ∉
        toggled true [.alterTable b.table [.renameColumn source target]] := by
      simp [toggled]
    exact
      { paired
        apart := fun _ _ _ last => uncopied _ _ _ (List.mem_of_getLast? last)
        off := fun _ _ _ drops => (not_dropsForRebuild uncopied _ drops).elim
        on := fun _ _ _ drops => (not_dropsForRebuild uncopied _ drops).elim }
  | redefines said redefining survivors target plain =>
    subst said
    exact
      { paired
        apart := by
          intro t columns s last
          rw [toggled, if_pos rfl, List.getLast?_concat] at last
          cases last
        off := fun _ _ _ drops => unenforced_of_toggled
          (toggles_rebuildStatements _ survivors target plain) rfl drops.1
        on := fun keeping => absurd redefining (by rw [keeping]; exact Bool.false_ne_true) }
  | drops keeping survivors target plain =>
    exact
      { paired
        apart := by
          intro t columns s last
          obtain ⟨s', last', plain'⟩ := getLast?_rebuildStatements b.table survivors target _
          rw [last'] at last
          cases last
          cases plain'
        off := fun redefining => absurd redefining (by rw [keeping]; exact Bool.false_ne_true)
        on := by
          intro _ before after dropped last
          have silent := toggles_rebuildStatements b.table survivors target plain
          rw [dropped.1, toggles_append] at silent
          rw [(List.append_eq_nil_iff.1 silent).1] at last
          cases last }

theorem encloses_statements (sqlite : session.dialect = .sqlite)
    (tells : session.Tells states (· = true)) (hx : states x)
    (h : (b.statements session).result x = (.ok ss, x')) : b.Encloses ss := by
  obtain ⟨parts, rfl, all⟩ := exists_parts sqlite tells hx h
  clear h
  induction parts with
  | nil => exact encloses_nil
  | cons part parts ih =>
    obtain ⟨first, others⟩ := List.forall_mem_cons.1 all
    exact first.encloses.append (ih others)

/-- Where a session says whether it enforces foreign keys, the SQL of a blueprint is the text of
statements that turn the enforcement off and on in turns. They leave it alone if it is off, and
otherwise a rebuild drops the table without it exactly when the blueprint redefines columns. -/
theorem unenforced_toSql_iff {on : Bool} (sqlite : session.dialect = .sqlite)
    (tells : session.Tells states (· = on)) (hx : states x) {sqls : List String}
    (h : (b.toSql session).result x = (.ok sqls, x')) :
    ∃ ss, (b.statements session).result x = (.ok ss, x') ∧ sqls = ss.map (·.render .sqlite) ∧
      Paired (toggles ss) ∧ (on = false → toggles ss = []) ∧
      (on = true → ∀ before after, DropsForRebuild b.table ss before after →
        (Unenforced before after ↔ redefines b = true)) := by
  obtain ⟨ss, compiled, rfl⟩ := toSql_eq_ok_iff.1 h
  rw [sqlite]
  refine ⟨ss, compiled, rfl, paired_statements sqlite compiled, ?_, ?_⟩
  · rintro rfl
    exact toggles_statements_eq_nil sqlite tells hx compiled
  · rintro rfl before after drops
    have encloses := encloses_statements sqlite tells hx compiled
    constructor
    · intro unenforced
      by_contra keeping
      exact encloses.on (Bool.not_eq_true _ ▸ keeping) _ _ drops unenforced.1
    · exact fun redefining => encloses.off redefining _ _ drops

/-- The catalog of the users, in which foreign keys are enforced. -/
def enforcingSession : Session Unit :=
  { usersSession with
    select := fun sql =>
      if sql = Query.enforcement then pure [.ofPairs [("foreign_keys", .integer 1)]]
      else usersSession.select sql }

theorem tells_enforcingSession : enforcingSession.Tells (fun _ => True) (· = true) where
  queries _ _ _ := trivial
  enforced := by
    intro x x' on _ h
    have said : ((enforcesForeignKeys enforcingSession).result ()).1.toOption = some true := by
      decide +kernel
    rw [h] at said
    exact Option.some_inj.1 said

theorem exists_dropsForRebuild (session : Session Unit) (b : Blueprint) (front : List Statement)
    (columns : List String)
    (h : ((b.statements session).result ()).1.toOption.map (·.take (front.length + 2)) =
      some (front ++ [.copyTable (temporaryName b.table) columns b.table,
        .dropTable b.table false])) :
    ∃ ss before after, (b.statements session).result () = (.ok ss, ()) ∧
      DropsForRebuild b.table ss before after ∧ toggles before = toggles front := by
  obtain ⟨ss, compiled, first⟩ := DbM.exists_of_map_result h
  refine ⟨ss, front ++ [.copyTable (temporaryName b.table) columns b.table],
    ss.drop (front.length + 2), compiled, ⟨?_, columns, List.getLast?_concat⟩, ?_⟩
  · nth_rewrite 1 [← List.take_append_drop (front.length + 2) ss]
    rw [first, List.append_assoc, List.append_assoc]
    rfl
  · rw [toggles_append]
    exact List.append_nil _

/-- Votes are redefined and become a score, and the age is dropped. -/
def retyping : Blueprint :=
  { table := "users"
    columns := [{ name := "votes", type := .bigInteger, change := true }]
    commands := [.renameColumn "votes" "score", .dropColumns ["age"]] }

/-- The rebuild that redefines the votes drops the users without enforcement. -/
theorem unenforced_toSql_iff_retyping :
    ∃ sqls ss before after, (retyping.toSql enforcingSession).result () = (.ok sqls, ()) ∧
      sqls = ss.map (·.render .sqlite) ∧ DropsForRebuild "users" ss before after ∧
      Paired (toggles ss) ∧ Unenforced before after := by
  obtain ⟨ss, before, after, compiled, drops, -⟩ :=
    exists_dropsForRebuild enforcingSession retyping [.enforceForeignKeys false] ["id", "votes"]
      (by decide +kernel)
  have written : (retyping.toSql enforcingSession).result () =
      (.ok (ss.map (·.render .sqlite)), ()) := toSql_eq_ok_iff.2 ⟨ss, compiled, rfl⟩
  obtain ⟨ss', compiled', same, paired, -, unenforced⟩ :=
    unenforced_toSql_iff rfl tells_enforcingSession trivial written
  cases compiled.symm.trans compiled'
  exact ⟨_, ss, before, after, written, same, drops, paired,
    (unenforced rfl before after drops).2 rfl⟩

/-- The votes are dropped. -/
def narrowing : Blueprint := { table := "users", commands := [.dropColumns ["votes"]] }

/-- A rebuild does not always drop the table without enforcement, where foreign keys are
enforced. -/
theorem not_forall_unenforced :
    ¬ ∀ (session : Session Unit) (b : Blueprint) (ss before after : List Statement),
      session.dialect = .sqlite → session.Tells (fun _ => True) (· = true) →
      (b.statements session).result () = (.ok ss, ()) →
      DropsForRebuild b.table ss before after → Unenforced before after := by
  intro all
  obtain ⟨ss, before, after, compiled, drops, silent⟩ :=
    exists_dropsForRebuild enforcingSession narrowing [] ["id", "age"] (by decide +kernel)
  have unenforced := all _ _ _ _ _ rfl tells_enforcingSession compiled drops
  rw [Unenforced, silent] at unenforced
  exact absurd unenforced.1 (by decide)

end Blueprint

end SchemaShift
