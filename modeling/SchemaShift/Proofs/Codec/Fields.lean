import SchemaShift.Proofs.Codec.Carried

/-!
# Fields are found again

A record is written as a list of fields, of which those with a usual value are left out. Looking a
name up in it depends only on the fields of that name, and of a list that is put together from
pieces these are the fields of that name in each piece. So what was written under a name is read
back under it from any fields that carry what was written.

Results:
* `only_append`, `only_whenSome`, `only_whenSet`, `only_whenAny`: the fields of one name, piece by
  piece.
* `Carry.required_of_only`, `Carry.optional_of_only`, `Carry.flag_of_only`,
  `Carry.listOf_of_only`: what was written under a name is read back under it.
-/

namespace SchemaShift

namespace Fields

variable {α : Type}

/-- The fields of one name. -/
def only (name : String) (fields : Fields) : Fields := fields.filter fun field => field.1 == name

@[simp] theorem only_nil (name : String) : only name [] = [] := rfl

@[simp] theorem only_cons (name other : String) (d : Datum) (fields : Fields) :
    only name ((other, d) :: fields) =
      if other = name then (other, d) :: only name fields else only name fields := by
  simp [only, List.filter_cons]

@[simp] theorem only_append (name : String) (xs ys : Fields) :
    only name (xs ++ ys) = only name xs ++ only name ys := List.filter_append ..

@[simp] theorem only_whenSome (name other : String) (encode : α → Datum) (o : Option α) :
    only name (whenSome other encode o) = if other = name then whenSome other encode o else [] := by
  cases o with
  | none => simp [whenSome, only]
  | some a => simp [whenSome, only_cons, only_nil]

@[simp] theorem only_whenSet (name other : String) (b : Bool) :
    only name (whenSet other b) = if other = name then whenSet other b else [] := by
  cases b with
  | false => simp [whenSet, only]
  | true => simp [whenSet, only_cons, only_nil]

@[simp] theorem only_whenAny (name other : String) (encode : α → Datum) (as : List α) :
    only name (whenAny other encode as) = if other = name then whenAny other encode as else [] := by
  cases as with
  | nil => simp [whenAny, only]
  | cons a as => simp [whenAny, only_cons, only_nil]

end Fields

namespace Node.Fields.Carry

variable {α : Type} {fs : Node.Fields} {fields : SchemaShift.Fields} {name : String}
  {read : Node → Decoder α}

/-- The fields of one name carry the fields of that name. -/
theorem filter_name (h : fs.Carry fields) (name : String) :
    Carry (fs.filter fun f => f.1 == name) (fields.only name) := by
  unfold SchemaShift.Fields.only
  induction h with
  | nil => exact .nil
  | @cons f field fs fields first _ ih =>
    rw [List.filter_cons, List.filter_cons, first.1]
    split
    · exact .cons first ih
    · exact ih

theorem find_of_only_nil (h : fs.Carry fields) (none : fields.only name = []) :
    fs.find name = pure Option.none := by
  have found := h.filter_name name
  rw [none] at found
  rw [find, List.forall₂_nil_right_iff.1 found]

theorem exists_find_of_only_singleton {d : Datum} (h : fs.Carry fields)
    (one : fields.only name = [(name, d)]) :
    ∃ n, Node.Carries n d ∧ fs.find name = pure (some n) := by
  have found := h.filter_name name
  rw [one] at found
  obtain ⟨f, rest, ⟨-, carries⟩, none, filtered⟩ := List.forall₂_cons_right_iff.1 found
  rw [List.forall₂_nil_right_iff.1 none] at filtered
  exact ⟨f.2, carries, by rw [find, filtered]⟩

/-! ## What was written under a name -/

theorem required_of_only {d : Datum} {a : α} (h : fs.Carry fields)
    (one : fields.only name = [(name, d)]) (reads : ∀ {n}, Node.Carries n d → read n = pure a) :
    fs.required name read = pure a := by
  obtain ⟨n, carries, found⟩ := h.exists_find_of_only_singleton one
  rw [required, found, pure_bind]
  exact reads carries

theorem getD_of_only_nil {usual : α} (h : fs.Carry fields) (none : fields.only name = []) :
    fs.getD name read usual = pure usual := by
  rw [getD, h.find_of_only_nil none, pure_bind]

theorem getD_of_only_singleton {usual a : α} {d : Datum} (h : fs.Carry fields)
    (one : fields.only name = [(name, d)]) (reads : ∀ {n}, Node.Carries n d → read n = pure a) :
    fs.getD name read usual = pure a := by
  obtain ⟨n, carries, found⟩ := h.exists_find_of_only_singleton one
  rw [getD, found, pure_bind]
  exact reads carries

/-- A field that is left out without a value is read back, whether it is there or not. -/
theorem optional_of_only {encode : α → Datum} {o : Option α} (h : fs.Carry fields)
    (written : fields.only name = SchemaShift.Fields.whenSome name encode o)
    (present : ∀ a, encode a ≠ .atom .null)
    (reads : ∀ {n a}, Node.Carries n (encode a) → read n = pure a) :
    fs.optional name read = pure o := by
  cases o with
  | none => exact h.getD_of_only_nil written
  | some a =>
    exact h.getD_of_only_singleton written fun carries =>
      carries.optional_eq (present a) (reads carries)

theorem flag_of_only {b : Bool} (h : fs.Carry fields)
    (written : fields.only name = SchemaShift.Fields.whenSet name b) :
    fs.flag name = pure b := by
  cases b with
  | false => exact h.getD_of_only_nil written
  | true => exact h.getD_of_only_singleton written Node.Carries.flag_eq

theorem listOf_of_only {encode : α → Datum} {as : List α} (h : fs.Carry fields)
    (written : fields.only name = SchemaShift.Fields.whenAny name encode as)
    (reads : ∀ {n a}, Node.Carries n (encode a) → read n = pure a) :
    fs.listOf name read = pure as := by
  cases as with
  | nil => exact h.getD_of_only_nil written
  | cons a as =>
    exact h.getD_of_only_singleton written fun carries => carries.listOf_eq reads

end Node.Fields.Carry

end SchemaShift
