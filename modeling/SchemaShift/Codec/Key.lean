import SchemaShift.Key
import SchemaShift.Node.Fields

/-!
# Keys in documents

* `ForeignAction.ofNode_toDatum`: an action is read back as it was written.
-/

namespace SchemaShift

/-! ## Indexes -/

namespace Index

/-- An index as plain data. -/
def toDatum (i : Index) : Datum :=
  .record ([("type", .ofText i.kind.name), ("columns", .list (i.columns.map .ofText))] ++
    Fields.whenSome "name" .ofText i.name)

/-- Reads an index. -/
def ofNode (n : Node) : Decoder Index := do
  let fields ← n.fields
  return {
    kind := ← fields.required "type" (Node.choice IndexKind.ofName?)
    columns := ← fields.required "columns" (Node.listOf Node.text)
    name := ← fields.optional "name" Node.text }

end Index

/-! ## Foreign keys -/

namespace ForeignAction

/-- An action as plain data. -/
def toDatum (a : ForeignAction) : Datum := .ofText a.name

/-- Reads an action. -/
def ofNode (n : Node) : Decoder ForeignAction := n.choice ofName?

theorem ofNode_toDatum (a : ForeignAction) : ofNode (.native a.toDatum) = pure a :=
  Node.choice_ofText (ofName?_name a)

end ForeignAction

namespace ForeignKey

/-- A foreign key as plain data. -/
def toDatum (fk : ForeignKey) : Datum :=
  .record ([("columns", .list (fk.columns.map .ofText)), ("on", .ofText fk.table),
      ("references", .list (fk.references.map .ofText))] ++
    Fields.whenSome "on_delete" ForeignAction.toDatum fk.onDelete ++
    Fields.whenSome "on_update" ForeignAction.toDatum fk.onUpdate ++
    Fields.whenSome "name" .ofText fk.name)

/-- Reads a foreign key. -/
def ofNode (n : Node) : Decoder ForeignKey := do
  let fields ← n.fields
  return {
    columns := ← fields.required "columns" (Node.listOf Node.text)
    table := ← fields.required "on" Node.text
    references := ← fields.required "references" (Node.listOf Node.text)
    onDelete := ← fields.optional "on_delete" ForeignAction.ofNode
    onUpdate := ← fields.optional "on_update" ForeignAction.ofNode
    name := ← fields.optional "name" Node.text }

end ForeignKey

end SchemaShift
