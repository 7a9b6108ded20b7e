import SchemaShift.Ddl.Token

/-!
# Parentheses

Finding the parenthesis that closes another one, and splitting a token run at the separators that
stand outside all parentheses.

* `matching_lt`: the closing parenthesis lies inside the run.
* `splitAt_ne_nil`: splitting gives at least one part.
-/

namespace SchemaShift.Token

/-- The depth after a token: parentheses open and close a level, and depth zero stays when one
closes. -/
def depthAfter (depth : Nat) : Token → Nat
  | leftParen => depth + 1
  | rightParen => depth - 1
  | _ => depth

/-- The position of the parenthesis that brings the depth to zero. -/
def closing? : Nat → List Token → Option Nat
  | _, [] => none
  | depth, t :: ts =>
    if t = rightParen ∧ depthAfter depth t = 0 then some 0
    else (closing? (depthAfter depth t) ts).map (· + 1)

/-- The position of the parenthesis that closes the one at `start`. -/
def matching (tokens : List Token) (start : Nat) : Except Error Nat :=
  match closing? 0 (tokens.drop start) with
  | some n => .ok (start + n)
  | none => .error (.badMatch .unbalancedParentheses)

/-- Puts a token in front of the first part. -/
def ontoFirst (t : Token) : List (List Token) → List (List Token)
  | [] => [[t]]
  | part :: parts => (t :: part) :: parts

/-- The parts between the separators at depth zero, from a given depth on. -/
def splitFrom (separator : Token) : Nat → List Token → List (List Token)
  | _, [] => [[]]
  | depth, t :: ts =>
    if depth = 0 ∧ t = separator then [] :: splitFrom separator 0 ts
    else ontoFirst t (splitFrom separator (depthAfter depth t) ts)

/-- The parts between the separators at depth zero. An empty run has no parts; an empty part
between two separators is kept, so that it can be reported. -/
def splitAt (separator : Token) (tokens : List Token) : List (List Token) :=
  if tokens.isEmpty then [] else splitFrom separator 0 tokens

/-- The parts between the commas at depth zero. -/
def splitTopLevel (tokens : List Token) : List (List Token) := splitAt comma tokens

/-! ## Laws -/

theorem closing?_lt {depth n : Nat} {ts : List Token} (h : closing? depth ts = some n) :
    n < ts.length := by
  induction ts generalizing depth n with
  | nil => simp [closing?] at h
  | cons t ts ih =>
    simp only [closing?] at h
    split at h
    · cases h; simp
    · obtain ⟨m, hm, rfl⟩ := Option.map_eq_some_iff.1 h
      simpa using ih hm

theorem matching_lt {tokens : List Token} {start close : Nat}
    (h : matching tokens start = .ok close) : start ≤ close ∧ close < tokens.length := by
  unfold matching at h
  split at h
  · rename_i n hn
    cases h
    have := closing?_lt hn
    simp at this
    omega
  · cases h

theorem splitFrom_ne_nil (separator : Token) (depth : Nat) (ts : List Token) :
    splitFrom separator depth ts ≠ [] := by
  cases ts with
  | nil => simp [splitFrom]
  | cons t ts =>
    simp only [splitFrom]
    split
    · simp
    · cases splitFrom separator (depthAfter depth t) ts <;> simp [ontoFirst]

theorem splitAt_ne_nil {separator : Token} {ts : List Token} (h : ts ≠ []) :
    splitAt separator ts ≠ [] := by
  cases ts with
  | nil => exact absurd rfl h
  | cons t ts => simpa [splitAt] using splitFrom_ne_nil separator 0 (t :: ts)

end SchemaShift.Token
