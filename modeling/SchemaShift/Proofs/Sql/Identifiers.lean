import SchemaShift.Sql.Text
import Mathlib.Data.List.Basic

/-!
# Identifiers of statements

The names that a statement quotes: those of tables, of columns, of indexes and of constraints. What
is written without quotes is none of them: types, the values of a column and its default, and the
storage engine of a table.

Results:
* `Sql.Statement.within_render`: an identifier of a statement stands in its text, quoted.
-/

namespace SchemaShift

/-! ## Texts within texts -/

namespace Text

/-- One text is a part of another one. -/
def Within (part text : String) : Prop := part.toList <:+: text.toList

namespace Within

variable {part text : String}

theorem refl (text : String) : Within text text := List.infix_rfl

/-- What is within the front is within the whole. -/
theorem front (h : Within part text) {back : String} : Within part (text ++ back) := by
  rw [Within, String.toList_append]
  exact List.IsInfix.trans h List.infix_append_left

/-- What is within the back is within the whole. -/
theorem back (h : Within part text) {front : String} : Within part (front ++ text) := by
  rw [Within, String.toList_append]
  exact List.IsInfix.trans h List.infix_append_right

theorem intercalate {separator : String} {texts : List String} (h : Within part text)
    (mem : text ∈ texts) : Within part (separator.intercalate texts) := by
  induction texts with
  | nil => cases mem
  | cons first others ih =>
    cases others with
    | nil =>
      obtain rfl := List.mem_singleton.1 mem
      exact h
    | cons second others =>
      rw [String.intercalate_cons_cons]
      rcases List.mem_cons.1 mem with rfl | later
      · exact h.front.front
      · exact (ih later).back

theorem join {texts : List String} (h : Within part text) (mem : text ∈ texts) :
    Within part (String.join texts) := by
  rw [Within, String.toList_join]
  obtain ⟨before, after, rfl⟩ := List.append_of_mem mem
  rw [List.flatMap_append, List.flatMap_cons]
  exact List.IsInfix.trans h (List.infix_append' _ _ _)

end Within

end Text

open Text

namespace Sql

/-! ## Identifiers -/

/-- The names that a clause of a column definition quotes. -/
def ColumnPart.identifiers : ColumnPart → List String
  | valueCheck column _ => [column]
  | type _ | origin _ | unsigned | nullability _ | default _ | increment => []

/-- The names that a column definition quotes. -/
def ColumnDefinition.identifiers (c : ColumnDefinition) : List String :=
  c.name :: c.parts.flatMap ColumnPart.identifiers

/-- The names that a foreign key quotes, apart from its own. -/
def foreignKeyIdentifiers (fk : ForeignKey) : List String :=
  fk.columns ++ fk.table :: fk.references

/-- The names that a constraint of a new table quotes. -/
def TableConstraint.identifiers : TableConstraint → List String
  | primaryKey columns => columns
  | foreignKey fk => foreignKeyIdentifiers fk

/-- The names that a clause quotes which alters a table. -/
def Alteration.identifiers : Alteration → List String
  | addColumn c | modifyColumn c => c.identifiers
  | setType column _ | setNullability column _ | setDefault column _ | dropDefault column =>
    [column]
  | dropColumn name => [name]
  | renameColumn source target => [source, target]
  | renameTable target => [target]
  | addPrimaryKey columns => columns
  | addUnique name columns | addIndex name columns => name :: columns
  | addForeignKey name fk => name :: foreignKeyIdentifiers fk
  | addValueCheck name column _ => [name, column]
  | dropPrimaryKey => []
  | dropIndex name | dropForeignKey name | dropConstraint name _ => [name]

/-- The names that a statement quotes. -/
def Statement.identifiers : Statement → List String
  | createTable table columns constraints _ =>
    table :: columns.flatMap ColumnDefinition.identifiers ++
      constraints.flatMap TableConstraint.identifiers
  | copyTable target columns source => target :: columns ++ [source]
  | insertFrom table columns source => table :: columns ++ [source]
  | dropTable table _ => [table]
  | renameTable table target => [table, target]
  | alterTable table alterations => table :: alterations.flatMap Alteration.identifiers
  | createIndex _ name table columns => name :: table :: columns
  | dropIndex name => [name]
  | enforceForeignKeys _ => []

/-- The names that statements quote. -/
def quoted (ss : List Statement) : List String := ss.flatMap Statement.identifiers

theorem quoted_append (ss ts : List Statement) : quoted (ss ++ ts) = quoted ss ++ quoted ts :=
  List.flatMap_append

/-! ## Identifiers in texts -/

variable {d : Dialect} {name : String}

theorem within_columnize {names : List String} (h : name ∈ names) :
    Within (d.wrap name) (d.columnize names) :=
  (Within.refl _).intercalate (List.mem_map_of_mem h)

theorem ColumnPart.within_render {p : ColumnPart} (h : name ∈ p.identifiers) :
    Within (d.wrap name) (p.render d) := by
  cases p with
  | valueCheck column allowed =>
    obtain rfl := List.mem_singleton.1 h
    exact (Within.refl _).back.front.front.front
  | _ => cases h

theorem ColumnDefinition.within_render {c : ColumnDefinition} (h : name ∈ c.identifiers) :
    Within (d.wrap name) (c.render d) := by
  rcases List.mem_cons.1 h with rfl | inside
  · exact (Within.refl _).front
  · obtain ⟨p, hp, inside⟩ := List.mem_flatMap.1 inside
    have text : " " ++ p.render d ∈ c.parts.map fun p => " " ++ p.render d := List.mem_map_of_mem hp
    exact ((p.within_render inside).back.join text).back

theorem within_foreignKeyText {fk : ForeignKey} (h : name ∈ foreignKeyIdentifiers fk) :
    Within (d.wrap name) (foreignKeyText d fk) := by
  refine Within.front (Within.front (Within.front ?_))
  rcases List.mem_append.1 h with own | other
  · exact (within_columnize own).back.front.front.front.front
  · rcases List.mem_cons.1 other with rfl | reference
    · exact (Within.refl _).back.front.front
    · exact (within_columnize reference).back

theorem TableConstraint.within_render {k : TableConstraint} (h : name ∈ k.identifiers) :
    Within (d.wrap name) (k.render d) := by
  cases k with
  | primaryKey columns => exact (within_columnize h).back.front
  | foreignKey fk => exact within_foreignKeyText h

theorem Alteration.within_render {a : Alteration} (h : name ∈ a.identifiers) :
    Within (d.wrap name) (a.render d) := by
  cases a with
  | addColumn c =>
    have inside := c.within_render (d := d) h
    cases d <;> exact inside.back
  | modifyColumn c => exact (c.within_render h).back
  | setType column type =>
    obtain rfl := List.mem_singleton.1 h
    exact (Within.refl _).back.front.front
  | setNullability column nullable =>
    obtain rfl := List.mem_singleton.1 h
    exact (Within.refl _).back.front
  | setDefault column value =>
    obtain rfl := List.mem_singleton.1 h
    exact (Within.refl _).back.front.front
  | dropDefault column =>
    obtain rfl := List.mem_singleton.1 h
    exact (Within.refl _).back.front
  | dropColumn column =>
    obtain rfl := List.mem_singleton.1 h
    cases d <;> exact (Within.refl _).back
  | renameColumn source target =>
    rcases List.mem_pair.1 h with rfl | rfl
    · exact (Within.refl _).back.front.front
    · exact (Within.refl _).back
  | renameTable target =>
    obtain rfl := List.mem_singleton.1 h
    exact (Within.refl _).back
  | addPrimaryKey columns => exact (within_columnize h).back.front
  | addUnique key columns =>
    rcases List.mem_cons.1 h with rfl | column
    · cases d <;> exact (Within.refl _).back.front.front.front
    · cases d <;> exact (within_columnize column).back.front
  | addIndex key columns =>
    rcases List.mem_cons.1 h with rfl | column
    · exact (Within.refl _).back.front.front.front
    · exact (within_columnize column).back.front
  | addForeignKey key fk =>
    rcases List.mem_cons.1 h with rfl | inside
    · exact (Within.refl _).back.front.front
    · exact (within_foreignKeyText inside).back
  | addValueCheck key column allowed =>
    rcases List.mem_pair.1 h with rfl | rfl
    · exact (Within.refl _).back.front.front
    · exact (Within.refl _).back.front.front.front.back
  | dropPrimaryKey => cases h
  | dropIndex key =>
    obtain rfl := List.mem_singleton.1 h
    exact (Within.refl _).back
  | dropForeignKey key =>
    obtain rfl := List.mem_singleton.1 h
    exact (Within.refl _).back
  | dropConstraint key ifExists =>
    obtain rfl := List.mem_singleton.1 h
    exact (Within.refl _).back

/-- What a statement quotes stands in its text between quotes. -/
theorem Statement.within_render {s : Statement} (h : name ∈ s.identifiers) :
    Within (d.wrap name) (s.render d) := by
  cases s with
  | createTable table columns constraints engine =>
    rcases List.mem_append.1 h with front | inside
    · rcases List.mem_cons.1 front with rfl | inside
      · exact (Within.refl _).back.front.front.front.front
      · obtain ⟨c, hc, inside⟩ := List.mem_flatMap.1 inside
        exact ((c.within_render inside).intercalate
          (List.mem_append_left _ (List.mem_map_of_mem hc))).back.front.front
    · obtain ⟨k, hk, inside⟩ := List.mem_flatMap.1 inside
      exact ((k.within_render inside).intercalate
        (List.mem_append_right _ (List.mem_map_of_mem hk))).back.front.front
  | copyTable target columns source =>
    rcases List.mem_append.1 h with front | last
    · rcases List.mem_cons.1 front with rfl | column
      · exact (Within.refl _).back.front.front.front.front
      · exact (within_columnize column).back.front.front
    · obtain rfl := List.mem_singleton.1 last
      exact (Within.refl _).back
  | insertFrom table columns source =>
    rcases List.mem_append.1 h with front | last
    · rcases List.mem_cons.1 front with rfl | column
      · exact (Within.refl _).back.front.front.front.front.front.front
      · exact (within_columnize column).back.front.front
    · obtain rfl := List.mem_singleton.1 last
      exact (Within.refl _).back
  | dropTable table ifExists =>
    obtain rfl := List.mem_singleton.1 h
    exact (Within.refl _).back
  | renameTable table target =>
    rcases List.mem_pair.1 h with rfl | rfl
    · exact (Within.refl _).back.front.front
    · exact (Within.refl _).back
  | alterTable table alterations =>
    rcases List.mem_cons.1 h with rfl | inside
    · exact (Within.refl _).back.front.front
    · obtain ⟨a, ha, inside⟩ := List.mem_flatMap.1 inside
      exact ((a.within_render inside).intercalate (List.mem_map_of_mem ha)).back
  | createIndex unique key table columns =>
    rcases List.mem_cons.1 h with rfl | front
    · exact (Within.refl _).back.front.front.front.front.front
    · rcases List.mem_cons.1 front with rfl | column
      · exact (Within.refl _).back.front.front.front
      · exact (within_columnize column).back.front
  | dropIndex key =>
    obtain rfl := List.mem_singleton.1 h
    exact (Within.refl _).back
  | enforceForeignKeys on => cases h

end Sql

end SchemaShift
