import Mathlib.Data.List.Forall2
import SchemaShift.Codec.Column
import SchemaShift.Yaml.Scalar

/-!
# Values that carry data

A value of a document carries plain data if it is that data, or if it spells it out: a scalar for
an atom, a list for a list, and a record with texts for names for a record. A scalar stands for an
atom only if all readers agree on it. So a flag or a number is written bare, and a minus sign stands
only in front of what is less than nothing: `-0` is an integer to some readers, and to others none.

Results:
* `Scalar.StandsFor.flag?_eq`, `Scalar.StandsFor.natural?_eq`, `Scalar.StandsFor.isNull?_eq`: what
  readers of one kind find in a scalar.
* `Node.Carries.text_eq`, `Node.Carries.word32_eq`, `Node.Carries.listOf_eq`: what was encoded is
  read back from each value that carries it.
-/

namespace SchemaShift

namespace Yaml

/-! ## Bare texts -/

namespace Plain

theorem isNull_eq_false_of_atom {s : String} (h : atom s ≠ .null) : isNull s = false := by
  by_contra null
  exact h (if_pos (Bool.not_eq_false _ ▸ null))

/-- The kinds that a bare text can have, in the order they are tried. -/
theorem atom_eq_of_isNull_eq_false {s : String} (h : isNull s = false) :
    (∃ b, flag? s = some b ∧ atom s = .bool b) ∨
      (∃ i, integer? s.toList = some i ∧ atom s = .integer i) ∨
      (∃ d, atom s = .float d) ∨ atom s = .text s := by
  unfold atom
  rw [if_neg (by simp [h])]
  cases flag? s with
  | some b => exact .inl ⟨b, rfl, rfl⟩
  | none =>
    cases integer? s.toList with
    | some i => exact .inr (.inl ⟨i, rfl, rfl⟩)
    | none =>
      dsimp only
      split
      · rename_i d _
        exact .inr (.inr (.inl ⟨d, rfl⟩))
      · exact .inr (.inr (.inr rfl))

theorem eq_of_atom_eq_text {s t : String} (h : atom s = .text t) : s = t := by
  have kinds := atom_eq_of_isNull_eq_false (isNull_eq_false_of_atom (by rw [h]; exact nofun))
  rw [h] at kinds
  simpa [eq_comm] using kinds

theorem flag?_of_atom {s : String} {b : Bool} (h : atom s = .bool b) : flag? s = some b := by
  have kinds := atom_eq_of_isNull_eq_false (isNull_eq_false_of_atom (by rw [h]; exact nofun))
  rw [h] at kinds
  simpa using kinds

theorem integer?_of_atom {s : String} {i : Int} (h : atom s = .integer i) :
    integer? s.toList = some i := by
  have kinds := atom_eq_of_isNull_eq_false (isNull_eq_false_of_atom (by rw [h]; exact nofun))
  rw [h] at kinds
  simpa using kinds

theorem unsigned?_of_integer? {cs : List Char} {n : Nat} (h : integer? cs = some (n : Int))
    (bare : cs.head? ≠ some '-') : unsigned? cs = some n := by
  unfold integer? at h
  split at h
  · exact absurd rfl bare
  · split at h
    · rename_i k found
      split at h
      · rw [found, ← Int.ofNat.inj (Option.some.inj h)]
      · cases h
    · cases h

end Plain

/-! ## Scalars -/

/-- A scalar that stands for an atom, whoever reads it. -/
structure Scalar.StandsFor (s : Scalar) (a : Atom) : Prop where
  value : s.value? = some a
  /-- Only a text can have quotes or a tag. -/
  bare : (∃ t, a = .text t) ∨ s.style = .plain ∧ s.tag = none
  /-- A minus sign stands in front of what is less than nothing. -/
  sign : ∀ n : Nat, a = .integer n → s.text.toList.head? ≠ some '-'

namespace Scalar

theorem value?_bare {s : Scalar} (bare : s.style = .plain ∧ s.tag = none) :
    s.value? = some (Plain.atom s.text) := by
  simp [value?, bare.1, bare.2]

theorem standsFor_quoted (text : String) : StandsFor ⟨text, .quoted, none⟩ (.text text) where
  value := value?_quoted text
  bare := .inl ⟨text, rfl⟩
  sign := nofun

theorem standsFor_plain {text : String} {a : Atom} (h : Plain.atom text = a)
    (sign : ∀ n : Nat, a = .integer n → text.toList.head? ≠ some '-') :
    StandsFor ⟨text, .plain, none⟩ a where
  value := by rw [value?_bare ⟨rfl, rfl⟩, h]
  bare := .inr ⟨rfl, rfl⟩
  sign := sign

namespace StandsFor

variable {s : Scalar} {a : Atom}

theorem atom_eq (h : s.StandsFor a) (other : ∀ t, a ≠ .text t) :
    s.style = .plain ∧ s.tag = none ∧ Plain.atom s.text = a := by
  have bare := h.bare.resolve_left fun ⟨t, same⟩ => other t same
  refine ⟨bare.1, bare.2, Option.some.inj ?_⟩
  rw [← value?_bare bare, h.value]

theorem text_eq {t : String} (h : s.StandsFor (.text t)) : s.text = t := by
  have value := h.value
  unfold value? at value
  split at value
  · split at value
    · exact Plain.eq_of_atom_eq_text (Option.some.inj value)
    · exact Atom.text.inj (Option.some.inj value)
  · exact Atom.text.inj (Option.some.inj value)
  · simp at value
  · simp at value
  · simp at value
  · split at value <;> cases value
  · cases value

theorem flag?_eq {b : Bool} (h : s.StandsFor (.bool b)) : s.flag? = some b := by
  obtain ⟨style, -, atom⟩ := h.atom_eq nofun
  simp [flag?, shows, style, Plain.flag?_of_atom atom]

theorem natural?_eq {n : Nat} (h : s.StandsFor (.integer n)) : s.natural? = some n := by
  obtain ⟨style, -, atom⟩ := h.atom_eq nofun
  have found := Plain.unsigned?_of_integer? (Plain.integer?_of_atom atom) (h.sign n rfl)
  simp [natural?, shows, style, found]

theorem isNull?_eq (h : s.StandsFor a) (present : a ≠ .null) : s.isNull? = some false := by
  unfold isNull?
  split
  · rename_i plain
    have value := h.value
    unfold value? at value
    split
    · rename_i bare
      rw [bare, if_pos plain] at value
      have atom := Option.some.inj value
      exact congrArg some (Plain.isNull_eq_false_of_atom (atom ▸ present))
    · rename_i null
      rw [null] at value
      dsimp only at value
      split at value
      · exact absurd (Option.some.inj value).symm present
      · cases value
    · rfl
  · rfl

end StandsFor

end Scalar

end Yaml

namespace Node

/-! ## Values -/

/-- A value that is written out as plain data. -/
inductive Spells : Node → Datum → Prop
  | scalar {s : Yaml.Scalar} {a : Atom} (h : s.StandsFor a) : Spells (.scalar s) (.atom a)
  | list {items : List Node} {ds : List Datum} (h : List.Forall₂ Spells items ds) :
      Spells (.list items) (.list ds)
  | record {nodes : List (Node × Node)} {fields : SchemaShift.Fields}
      (names : List.Forall₂ Spells (nodes.map Prod.fst) (fields.map fun f => Datum.ofText f.1))
      (values : List.Forall₂ Spells (nodes.map Prod.snd) (fields.map Prod.snd)) :
      Spells (.record nodes) (.record fields)

/-- A value that is plain data, or is written out as it. -/
def Carries (n : Node) (d : Datum) : Prop := n = .native d ∨ n.Spells d

theorem carries_native (d : Datum) : Carries (.native d) d := .inl rfl

theorem Spells.carries {n : Node} {d : Datum} (h : n.Spells d) : n.Carries d := .inr h

namespace Carries

variable {n : Node} {d : Datum}

/-- A value that carries data is found where it stands. -/
theorem resolve_eq (h : n.Carries d) : n.resolve = pure n := by
  rcases h with rfl | spelled
  · rfl
  · cases spelled <;> rfl

/-! ## Atoms -/

/-- What carries an atom. -/
theorem eq_or_standsFor {a : Atom} (h : n.Carries (.atom a)) :
    n = .native (.atom a) ∨ ∃ s : Yaml.Scalar, n = .scalar s ∧ s.StandsFor a := by
  rcases h with rfl | spelled
  · exact .inl rfl
  · cases spelled with
    | scalar stands => exact .inr ⟨_, rfl, stands⟩

theorem text_eq {t : String} (h : n.Carries (.ofText t)) : n.text = pure t := by
  rcases h.eq_or_standsFor with rfl | ⟨s, rfl, stands⟩
  · rfl
  · show (pure s.text : Decoder String) = pure t
    rw [stands.text_eq]

theorem flag_eq {b : Bool} (h : n.Carries (.ofFlag b)) : n.flag = pure b := by
  rcases h.eq_or_standsFor with rfl | ⟨s, rfl, stands⟩
  · rfl
  · simp only [Node.flag, resolve, pure_bind, stands.flag?_eq]

theorem integer_eq {α : Type} {accept : Int → Option α} {i : Nat} {a : α}
    (h : n.Carries (.ofInt i)) (accepted : accept i = some a) : n.integer accept = pure a := by
  rcases h.eq_or_standsFor with rfl | ⟨s, rfl, stands⟩
  · exact integer_ofInt accepted
  · have accepted : accept (Int.ofNat i) = some a := accepted
    simp only [integer, resolve, pure_bind, stands.natural?_eq, Option.map_some, accepted]

theorem word32_eq {w : UInt32} (h : n.Carries (.ofWord32 w)) : n.word32 = pure w :=
  h.integer_eq (Number.uint32?_toNat w)

theorem choice_eq {α : Type} {ofName? : String → Option α} {name : String} {a : α}
    (h : n.Carries (.ofText name)) (known : ofName? name = some a) :
    n.choice ofName? = pure a := by
  rcases h.eq_or_standsFor with rfl | ⟨s, rfl, stands⟩
  · exact choice_ofText known
  · simp only [choice, resolve, pure_bind, stands.value, named_of_eq_some known]

/-- A value that is not null is itself where null is allowed. -/
theorem optional_eq {α : Type} {read : Node → Decoder α} {a : α} (h : n.Carries d)
    (present : d ≠ .atom .null) (reads : read n = pure a) :
    n.optional read = pure (some a) := by
  rw [Node.optional, h.resolve_eq, pure_bind]
  rcases h with rfl | spelled
  · split
    · rename_i null
      cases null
      exact absurd rfl present
    · rename_i scalar
      cases scalar
    · rw [reads, pure_bind]
  · cases spelled with
    | scalar stands =>
      have other := stands.isNull?_eq fun null => present (by rw [null])
      simp only [other, reads, pure_bind]
    | list _ => simp only [reads, pure_bind]
    | record _ _ => simp only [reads, pure_bind]

/-! ## Lists -/

theorem exists_items {ds : List Datum} (h : n.Carries (.list ds)) :
    ∃ items, n.items = pure items ∧ List.Forall₂ Carries items ds := by
  rcases h with rfl | spelled
  · exact ⟨ds.map native, rfl,
      List.forall₂_map_left_iff.2 (List.forall₂_same.2 fun d _ => carries_native d)⟩
  · cases spelled with
    | list spelled => exact ⟨_, rfl, spelled.imp fun _ _ h => .inr h⟩

theorem mapM_eq {α : Type} {read : Node → Decoder α} {encode : α → Datum} {items : List Node}
    {as : List α} (h : List.Forall₂ Carries items (as.map encode))
    (reads : ∀ {n a}, Carries n (encode a) → read n = pure a) :
    items.mapM read = (pure as : Decoder (List α)) := by
  induction as generalizing items with
  | nil =>
    cases h
    rfl
  | cons a as ih =>
    obtain ⟨item, items, first, rest, rfl⟩ := List.forall₂_cons_right_iff.1 h
    rw [List.mapM_cons, reads first, pure_bind, ih rest, pure_bind]

theorem listOf_eq {α : Type} {read : Node → Decoder α} {encode : α → Datum} {as : List α}
    (h : n.Carries (.list (as.map encode)))
    (reads : ∀ {n a}, Carries n (encode a) → read n = pure a) :
    n.listOf read = pure as := by
  obtain ⟨items, found, carried⟩ := h.exists_items
  rw [Node.listOf, found, pure_bind, mapM_eq carried reads]

end Carries

/-! ## Records -/

/-- Fields that carry the fields of plain data, one by one. -/
def Fields.Carry (fs : Fields) (fields : SchemaShift.Fields) : Prop :=
  List.Forall₂ (fun f field => f.1 = field.1 ∧ f.2.Carries field.2) fs fields

theorem Fields.carry_native (fields : SchemaShift.Fields) :
    (Fields.native fields).Carry fields :=
  List.forall₂_map_left_iff.2 (List.forall₂_same.2 fun field _ => ⟨rfl, carries_native field.2⟩)

theorem Carries.exists_fields {n : Node} {fields : SchemaShift.Fields}
    (h : n.Carries (.record fields)) : ∃ fs, n.fields = pure fs ∧ fs.Carry fields := by
  rcases h with rfl | spelled
  · exact ⟨_, rfl, Fields.carry_native fields⟩
  cases spelled with
  | @record nodes _ names values =>
    show ∃ fs, nodes.mapM (fun field => do return (← field.1.text, field.2)) =
      (pure fs : Decoder Fields) ∧ fs.Carry fields
    induction fields generalizing nodes with
    | nil =>
      cases nodes with
      | nil => exact ⟨[], rfl, .nil⟩
      | cons node nodes => cases names
    | cons field fields ih =>
      cases nodes with
      | nil => cases names
      | cons node nodes =>
        obtain ⟨name, names⟩ := List.forall₂_cons.1 names
        obtain ⟨value, values⟩ := List.forall₂_cons.1 values
        obtain ⟨fs, read, carried⟩ := ih names values
        refine ⟨(field.1, node.2) :: fs, ?_, .cons ⟨rfl, .inr value⟩ carried⟩
        rw [List.mapM_cons, read]
        simp only [name.carries.text_eq, pure_bind]

end Node

end SchemaShift
