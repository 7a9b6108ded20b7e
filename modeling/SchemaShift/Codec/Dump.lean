import SchemaShift.Dump.Basic
import SchemaShift.Node.Fields

/-!
# Dump settings in documents

* `ColumnOrder.ofNode_toDatum`: an order is read back as it was written.
-/

namespace SchemaShift.Dump

namespace ColumnOrder

/-- An order as plain data. -/
def toDatum (o : ColumnOrder) : Datum := .ofText o.name

/-- Reads an order. -/
def ofNode (n : Node) : Decoder ColumnOrder := n.choiceOrTag ofName?

theorem ofNode_toDatum (o : ColumnOrder) : ofNode (.native o.toDatum) = pure o :=
  Node.choiceOrTag_ofText (ofName?_name o)

end ColumnOrder

namespace Options

/-- Dump settings as plain data. -/
def toDatum (options : Options) : Datum :=
  .record ([("column_order", options.order.toDatum)] ++
    Fields.whenAny "ignore" .ofText options.ignored)

/-- Reads dump settings. -/
def ofNode (n : Node) : Decoder Options := do
  let fields ← n.fields
  return {
    order := ← fields.getD "column_order" ColumnOrder.ofNode .priority
    ignored := ← fields.listOf "ignore" Node.text }

end Options

end SchemaShift.Dump
