import SchemaShift.Codec.Migration
import SchemaShift.Yaml.Document
import SchemaShift.Yaml.Written

/-!
# Migration documents

Migrations are kept as YAML text.

* `ofYaml_eq_ok_iff`: a text is a migration exactly when the value of its document is one.
-/

namespace SchemaShift.MigrationDocument

/-- Reads a migration from YAML text. -/
def ofYaml (text : String) : Except Error MigrationDocument :=
  (Yaml.read text >>= Node.decode ofNode).mapError .yaml

/-- The YAML text of a migration. -/
def toYaml (m : MigrationDocument) : String := Yaml.write m.toFields

theorem ofYaml_eq_ok_iff {text : String} {m : MigrationDocument} :
    ofYaml text = .ok m ↔ ∃ n, Yaml.read text = .ok n ∧ n.decode ofNode = .ok m := by
  cases h : Yaml.read text with
  | error fault =>
    have faulty : ofYaml text = .error (.yaml fault) := by rw [ofYaml, h]; rfl
    simp [faulty]
  | ok n =>
    cases h' : n.decode ofNode with
    | error fault =>
      have faulty : ofYaml text = .error (.yaml fault) := by
        rw [ofYaml, h]
        show (n.decode ofNode).mapError Error.yaml = _
        rw [h']
        rfl
      simp [faulty, h']
    | ok m' =>
      have read : ofYaml text = .ok m' := by
        rw [ofYaml, h]
        show (n.decode ofNode).mapError Error.yaml = _
        rw [h']
        rfl
      simp [read, h']

end SchemaShift.MigrationDocument
