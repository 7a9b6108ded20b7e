import SchemaShift.Ddl.Reader

/-!
# Runs of tokens with matching parentheses

A definition is read by finding the parenthesis that closes it and by splitting what is inside at
the commas. This file shows that both see through groups: a run in which the parentheses match is
passed over as a whole, and a list of such runs is split where it was put together.

Results:
* `run_groupRest`: the group that is read ends at the parenthesis that closes it.
* `splitTopLevel_intercalate`: clauses put together with commas are split into the same clauses.
* `splitAt_eq_singleton`: a run without the separator is not split.
-/

namespace SchemaShift.Token

/-! ## Matching parentheses -/

/-- A run in which the parentheses match and every token outside of them satisfies `p`. -/
inductive Nested : (Token → Prop) → List Token → Prop
  | nil {p : Token → Prop} : Nested p []
  | cons {p : Token → Prop} {t : Token} {ts : List Token} (left : t ≠ leftParen)
      (right : t ≠ rightParen) (ht : p t) (others : Nested p ts) : Nested p (t :: ts)
  | group {p : Token → Prop} {inside ts : List Token} (inner : Nested (fun _ => True) inside)
      (others : Nested p ts) : Nested p (leftParen :: (inside ++ rightParen :: ts))

theorem Nested.append {p : Token → Prop} {xs ys : List Token} (hx : Nested p xs)
    (hy : Nested p ys) : Nested p (xs ++ ys) := by
  induction hx with
  | nil => exact hy
  | cons left right ht _ ih => exact .cons left right ht (ih hy)
  | group inner _ _ ih =>
    rw [List.cons_append, List.append_assoc, List.cons_append]
    exact .group inner (ih hy)

theorem Nested.imp {p q : Token → Prop} {ts : List Token} (h : Nested p ts)
    (hpq : ∀ t, p t → q t) : Nested q ts := by
  induction h with
  | nil => exact .nil
  | cons left right ht _ ih => exact .cons left right (hpq _ ht) (ih hpq)
  | group inner _ _ ih => exact .group inner (ih hpq)

/-- A run without parentheses. -/
theorem nested_of_forall {p : Token → Prop} {ts : List Token}
    (h : ∀ t ∈ ts, t ≠ leftParen ∧ t ≠ rightParen ∧ p t) : Nested p ts := by
  induction ts with
  | nil => exact .nil
  | cons t ts ih =>
    obtain ⟨left, right, ht⟩ := h t (by simp)
    exact .cons left right ht (ih fun u hu => h u (by simp [hu]))

/-- Runs that match still do when they are put together. -/
theorem nested_flatMap {α : Type} {p : Token → Prop} {f : α → List Token} {xs : List α}
    (h : ∀ x ∈ xs, Nested p (f x)) : Nested p (xs.flatMap f) := by
  induction xs with
  | nil => exact .nil
  | cons x xs ih =>
    rw [List.flatMap_cons]
    exact (h x (by simp)).append (ih fun y hy => h y (by simp [hy]))

/-- Runs that match still do when they are put together with a separator. -/
theorem nested_intercalate {separator : Token} (left : separator ≠ leftParen)
    (right : separator ≠ rightParen) {runs : List (List Token)}
    (h : ∀ run ∈ runs, Nested (fun _ => True) run) :
    Nested (fun _ => True) ([separator].intercalate runs) := by
  induction runs with
  | nil => exact .nil
  | cons run runs ih =>
    have first := h run (by simp)
    have others := ih fun r hr => h r (by simp [hr])
    by_cases last : runs = []
    · subst last
      rw [List.intercalate_singleton]
      exact first
    · rw [List.intercalate_cons_of_ne_nil last, List.append_assoc]
      exact first.append (.cons left right trivial others)

/-! ## The closing parenthesis -/

theorem depthAfter_of_ne {t : Token} (left : t ≠ leftParen) (right : t ≠ rightParen)
    (depth : Nat) : depthAfter depth t = depth := by
  unfold depthAfter
  split <;> first | contradiction | rfl

/-- The parenthesis that closes a level is looked for behind a run that matches. -/
theorem closing?_append {p : Token → Prop} {ts : List Token} (h : Nested p ts) :
    ∀ depth rest, closing? (depth + 1) (ts ++ rest) =
      (closing? (depth + 1) rest).map (ts.length + ·) := by
  induction h with
  | nil =>
    intro depth rest
    rw [List.nil_append, List.length_nil]
    cases closing? (depth + 1) rest <;> simp
  | @cons _ t ts left right _ _ ih =>
    intro depth rest
    rw [List.cons_append, closing?, if_neg (fun both => right both.1),
      depthAfter_of_ne left right, ih]
    cases closing? (depth + 1) rest with
    | none => rfl
    | some n => simp; omega
  | @group _ inside ts _ _ ihInner ih =>
    intro depth rest
    have close : closing? (depth + 1 + 1) (rightParen :: (ts ++ rest)) =
        (closing? (depth + 1) (ts ++ rest)).map (· + 1) := by
      rw [closing?, if_neg (by simp [depthAfter])]
      rfl
    rw [List.cons_append, List.append_assoc, List.cons_append, closing?, if_neg (by simp),
      depthAfter, ihInner, close, ih]
    cases closing? (depth + 1) rest with
    | none => rfl
    | some n => simp; omega

theorem closing?_group {p : Token → Prop} {inside : List Token} (h : Nested p inside)
    (rest : List Token) : closing? 1 (inside ++ rightParen :: rest) = some inside.length := by
  rw [closing?_append h 0, closing?, if_pos (by simp [depthAfter])]
  rfl

/-- A group that was opened is read up to the parenthesis that closes it. -/
theorem run_groupRest {p : Token → Prop} {inside : List Token} (h : Nested p inside)
    (rest : List Token) :
    Reader.groupRest.run (inside ++ rightParen :: rest) = .ok (inside, rest) := by
  have found := closing?_group h rest
  unfold Reader.run Reader.groupRest
  split
  · rename_i e failed
    split at failed
    · cases failed
    · rename_i none
      rw [found] at none
      cases none
  · rename_i parsed read
    split at read
    · rename_i n position
      rw [found] at position
      cases position
      cases read
      simp
    · cases read

/-! ## Splitting at separators -/

theorem foldr_ontoFirst (ts : List Token) (part : List Token) (parts : List (List Token)) :
    ts.foldr ontoFirst (part :: parts) = (ts ++ part) :: parts := by
  induction ts with
  | nil => rfl
  | cons t ts ih => rw [List.foldr_cons, ih, ontoFirst, List.cons_append]

/-- Inside a group nothing is split. -/
theorem splitFrom_inside {separator : Token} {p : Token → Prop} {ts : List Token}
    (h : Nested p ts) :
    ∀ depth rest, splitFrom separator (depth + 1) (ts ++ rest) =
      ts.foldr ontoFirst (splitFrom separator (depth + 1) rest) := by
  induction h with
  | nil => intro depth rest; rfl
  | cons left right _ _ ih =>
    intro depth rest
    rw [List.cons_append, splitFrom, if_neg (by simp), depthAfter_of_ne left right, ih,
      List.foldr_cons]
  | @group _ inside ts _ _ ihInner ih =>
    intro depth rest
    have close : splitFrom separator (depth + 1 + 1) (rightParen :: (ts ++ rest)) =
        ontoFirst rightParen (splitFrom separator (depth + 1) (ts ++ rest)) := by
      rw [splitFrom, if_neg (by simp)]
      rfl
    rw [List.cons_append, List.append_assoc, List.cons_append, splitFrom, if_neg (by simp),
      depthAfter, ihInner, close, ih]
    simp

/-- Outside of all groups a run is split at the separators only. -/
theorem splitFrom_append {separator : Token} (left : separator ≠ leftParen) {ts : List Token}
    {p : Token → Prop} (h : Nested p ts) (apart : ∀ t, p t → t ≠ separator) :
    ∀ rest, splitFrom separator 0 (ts ++ rest) =
      ts.foldr ontoFirst (splitFrom separator 0 rest) := by
  induction h with
  | nil => intro rest; rfl
  | @cons _ t ts leftParen' rightParen' ht _ ih =>
    intro rest
    rw [List.cons_append, splitFrom, if_neg (fun both => apart t ht both.2),
      depthAfter_of_ne leftParen' rightParen', ih apart, List.foldr_cons]
  | @group _ inside ts inner _ _ ih =>
    intro rest
    have close : splitFrom separator (0 + 1) (rightParen :: (ts ++ rest)) =
        ontoFirst rightParen (splitFrom separator 0 (ts ++ rest)) := by
      rw [splitFrom, if_neg (by simp)]
      rfl
    rw [List.cons_append, List.append_assoc, List.cons_append, splitFrom,
      if_neg (fun both => left both.2.symm), depthAfter, splitFrom_inside inner, close, ih apart]
    simp

theorem splitFrom_separator (separator : Token) (rest : List Token) :
    splitFrom separator 0 (separator :: rest) = [] :: splitFrom separator 0 rest := by
  rw [splitFrom, if_pos ⟨rfl, rfl⟩]

/-- Runs without the separator that are put together with it are found again. -/
theorem splitFrom_intercalate (separator : Token) (left : separator ≠ leftParen)
    {runs : List (List Token)} (nonempty : runs ≠ [])
    (apart : ∀ run ∈ runs, Nested (· ≠ separator) run) :
    splitFrom separator 0 ([separator].intercalate runs) = runs := by
  induction runs with
  | nil => exact absurd rfl nonempty
  | cons run runs ih =>
    have first := splitFrom_append left (apart run (by simp)) (fun _ h => h)
    by_cases last : runs = []
    · subst last
      have alone := first []
      rw [List.append_nil] at alone
      rw [List.intercalate_singleton, alone, splitFrom, foldr_ontoFirst, List.append_nil]
    · have others := ih last fun r hr => apart r (by simp [hr])
      rw [List.intercalate_cons_of_ne_nil last, List.append_assoc, first, List.singleton_append,
        splitFrom_separator, others, foldr_ontoFirst, List.append_nil]

/-- Clauses that are put together with commas are split into the same clauses. -/
theorem splitTopLevel_intercalate {clauses : List (List Token)}
    (apart : ∀ clause ∈ clauses, clause ≠ [] ∧ Nested (· ≠ comma) clause) :
    splitTopLevel ([comma].intercalate clauses) = clauses := by
  cases clauses with
  | nil => rfl
  | cons clause clauses =>
    have found := splitFrom_intercalate comma (by simp) (List.cons_ne_nil clause clauses)
      (fun c hc => (apart c hc).2)
    have some : ([comma].intercalate (clause :: clauses)).isEmpty = false := by
      obtain ⟨t, ts, h⟩ := List.exists_cons_of_ne_nil (apart clause (by simp)).1
      cases clauses with
      | nil => rw [List.intercalate_singleton, h]; rfl
      | cons => rw [List.intercalate_cons_cons, h]; rfl
    rw [splitTopLevel, splitAt, some]
    exact found

/-- A run without the separator is not split. -/
theorem splitAt_eq_singleton {separator : Token} (left : separator ≠ leftParen)
    {ts : List Token} (some : ts ≠ []) (apart : Nested (· ≠ separator) ts) :
    splitAt separator ts = [ts] := by
  have found := splitFrom_intercalate separator left (List.cons_ne_nil ts []) (by simpa using apart)
  rw [List.intercalate_singleton] at found
  rw [splitAt, List.isEmpty_eq_false_iff.2 some]
  exact found

end SchemaShift.Token
