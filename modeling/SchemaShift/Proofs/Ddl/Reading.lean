import SchemaShift.Ddl.Table
import SchemaShift.Proofs.Except

/-!
# What readers return

A reader carries a proof with its result. This file says what the readers of definitions return on
given tokens, so that no later proof looks at how they are put together.

Results:
* `run_eatKeyword_of`, `run_expectKeyword`: a keyword that comes next is taken.
* `TypeSpec.run_read`: a type is read with its arguments and its flag.
* `Ddl.readOptions_cons`: the options of a column are read one by one.
* `Ddl.readEngine_engine`: the engine is read from the table options.
-/

namespace SchemaShift

namespace Reader

variable {α β : Type}

/-- A composed reader goes on after what its first reader returns. -/
theorem run_bind_of {r : Reader α} {f : α → Reader β} {ts rest : List Token} {a : α}
    (h : r.run ts = .ok (a, rest)) : (r >>= f).run ts = (f a).run rest := by
  rw [run_bind, h]
  rfl

/-! ## Single tokens -/

theorem run_eatKeyword_of (keyword : String) {t : Token} (h : t.isKeyword keyword = true)
    (ts : List Token) : (eatKeyword keyword).run (t :: ts) = .ok (true, ts) := by
  have read : eatKeyword keyword (t :: ts) = .ok ⟨true, ts, by simp⟩ := by
    rw [eatKeyword, if_pos h]
  rw [run, read]

theorem run_eatKeyword_of_not (keyword : String) {t : Token} (h : t.isKeyword keyword = false)
    (ts : List Token) : (eatKeyword keyword).run (t :: ts) = .ok (false, t :: ts) := by
  have read : eatKeyword keyword (t :: ts) = .ok ⟨false, t :: ts, Nat.le_refl _⟩ := by
    rw [eatKeyword, if_neg (by simp [h])]
  rw [run, read]

theorem run_expectKeyword {context keyword : String} {t : Token}
    (h : t.isKeyword keyword = true) (ts : List Token) :
    (expectKeyword context keyword).run (t :: ts) = .ok ((), ts) := by
  rw [expectKeyword, run_bind_of (run_eatKeyword_of keyword h ts)]
  rfl

theorem run_expectToken (context : String) (t : Token) (ts : List Token) :
    (expectToken context t).run (t :: ts) = .ok ((), ts) := by
  have read : expectToken context t (t :: ts) = .ok ⟨(), ts, by simp⟩ := by
    rw [expectToken, if_pos rfl]
  rw [run, read]

theorem run_next_cons (t : Token) (ts : List Token) : next.run (t :: ts) = .ok (some t, ts) := rfl

theorem run_peek (ts : List Token) : peek.run ts = .ok (ts.head?, ts) := rfl

/-- Without a parenthesis there is no group to pass over. -/
theorem run_skipGroup {ts : List Token} (h : ts.head? ≠ some .leftParen) :
    skipGroup.run ts = .ok ((), ts) := by
  have read : group ts = .ok ⟨none, ts, Nat.le_refl _⟩ := by
    unfold group
    split
    · exact absurd rfl h
    · rfl
  have run : group.run ts = .ok (none, ts) := by rw [Reader.run, read]
  rw [skipGroup, run_bind_of run]
  rfl

/-- A name in front of a parenthesis is read as it is. -/
theorem run_qualifiedName (context : String) {n : String} {t : Token} (h : t.name? = some n)
    (ts : List Token) :
    (qualifiedName context).run (t :: .leftParen :: ts) = .ok (n, .leftParen :: ts) := by
  rw [qualifiedName, run_bind_of (run_name_cons h _)]
  rfl

end Reader

/-! ## Types -/

namespace TypeSpec

theorem run_arguments_rightParen (type : String) (ts : List Token) :
    (arguments type).run (.rightParen :: ts) = .ok ([], ts) := rfl

theorem run_arguments_comma (type : String) (ts : List Token) :
    (arguments type).run (.comma :: ts) = (arguments type).run ts := by
  have step : arguments type (.comma :: ts) =
      (arguments type ts).map fun p => p.weaken (by simp) := rfl
  rw [Reader.run, step, Reader.run]
  cases arguments type ts <;> rfl

theorem run_arguments_number (type n : String) (ts : List Token) :
    (arguments type).run (.number n :: ts) =
      ((arguments type).run ts).map fun p => (n :: p.1, p.2) := by
  have step : arguments type (.number n :: ts) =
      (arguments type ts).map fun p => (p.map (n :: ·)).weaken (by simp) := rfl
  rw [Reader.run, step, Reader.run]
  cases arguments type ts <;> rfl

theorem run_arguments_str (type s : String) (ts : List Token) :
    (arguments type).run (.str s :: ts) =
      ((arguments type).run ts).map fun p => (s :: p.1, p.2) := by
  have step : arguments type (.str s :: ts) =
      (arguments type ts).map fun p => (p.map (s :: ·)).weaken (by simp) := rfl
  rw [Reader.run, step, Reader.run]
  cases arguments type ts <;> rfl

theorem run_flags_unsigned (ts : List Token) :
    flags.run (.word "UNSIGNED" :: ts) = (flags.run ts).map fun p => (true, p.2) := by
  have step : flags (.word "UNSIGNED" :: ts) =
      (flags ts).map fun p => (p.map fun _ => true).weaken (by simp) := if_pos (by decide)
  rw [Reader.run, step, Reader.run]
  cases flags ts <;> rfl

/-- A token that is no flag of a type. -/
def endsFlags (t : Token) : Prop :=
  t.isKeyword "unsigned" = false ∧ t.isKeyword "zerofill" = false

theorem run_flags_of_not {t : Token} (h : endsFlags t) (ts : List Token) :
    flags.run (t :: ts) = .ok (false, t :: ts) := by
  have read : flags (t :: ts) = .ok ⟨false, t :: ts, Nat.le_refl _⟩ := by
    exact (if_neg (by simp [h.1])).trans (if_neg (by simp [h.2]))
  rw [Reader.run, read]

end TypeSpec

/-! ## Column options -/

namespace Ddl

theorem readOptions_nil (context : String) : readOptions context [] = .ok [] := by
  rw [readOptions]

theorem readOptions_cons {context : String} {t : Token} {ts rest : List Token} {v : ColumnOption}
    (h : (readOption context t).run ts = .ok (v, rest)) :
    readOptions context (t :: ts) = (readOptions context rest).map (v :: ·) := by
  rw [readOptions]
  unfold Reader.run at h
  cases read : readOption context t ts with
  | error e =>
    rw [read] at h
    cases h
  | ok p =>
    rw [read] at h
    cases h
    rfl

theorem readOption_not (context : String) :
    readOption context (.word "NOT") =
      (do Reader.expectKeyword context "null"; pure .notNull) := by
  rw [readOption, readKeyword]
  exact if_pos (by decide)

theorem readOption_null (context : String) :
    readOption context (.word "NULL") = pure .null := by
  rw [readOption, readKeyword]
  exact (if_neg (by decide)).trans (if_pos (by decide))

theorem readOption_default (context : String) :
    readOption context (.word "DEFAULT") = (do return .default (← readDefault context)) := by
  rw [readOption, readKeyword]
  exact (if_neg (by decide)).trans ((if_neg (by decide)).trans (if_pos (by decide)))

theorem readOption_autoIncrement (context : String) :
    readOption context (.word "AUTO_INCREMENT") = pure .autoIncrement := by
  rw [readOption, readKeyword]
  exact (if_neg (by decide)).trans ((if_neg (by decide)).trans ((if_neg (by decide)).trans
    (if_pos (by decide))))

theorem readOption_primary (context : String) :
    readOption context (.word "PRIMARY") =
      (do Reader.expectKeyword context "key"; pure .primaryKey) := by
  rw [readOption, readKeyword]
  exact (if_neg (by decide)).trans ((if_neg (by decide)).trans ((if_neg (by decide)).trans
    ((if_neg (by decide)).trans ((if_neg (by decide)).trans ((if_neg (by decide)).trans
      (if_pos (by decide)))))))

theorem run_readDefault_str (context s : String) (ts : List Token) :
    (readDefault context).run (.str s :: ts) = .ok (.literal s, ts) := by
  rw [readDefault, Reader.run_bind_of (Reader.run_next_cons _ _)]
  rfl

theorem run_readDefault_now {context : String} {ts : List Token}
    (h : ts.head? ≠ some .leftParen) :
    (readDefault context).run (.word "CURRENT_TIMESTAMP" :: ts) = .ok (.now, ts) := by
  have now : (do Reader.skipGroup; pure DefaultClause.now : Reader DefaultClause).run ts =
      .ok (.now, ts) := by
    rw [Reader.run_bind_of (Reader.run_skipGroup h)]
    rfl
  rw [readDefault, Reader.run_bind_of (Reader.run_next_cons _ _)]
  simp only
  rw [if_neg (by decide), if_pos (by decide)]
  exact now

/-! ## Table options -/

theorem readEngine_engine (name : String) :
    readEngine none [.word "ENGINE", .symbol '=', .word name] = some name := by
  rw [readEngine, if_pos (by decide), if_pos rfl]
  rfl

end Ddl

end SchemaShift
