import Mathlib.Data.Nat.Find
import Mathlib.Order.Bounds.Image
import SchemaShift.Proofs.Ddl.Clauses

/-!
# Parentheses by count

Two loops keep a depth: one looks for the parenthesis that closes a given one, the other splits
what stands between the two at the commas. Neither depth falls below zero, so that both loops pass
over a parenthesis that closes nothing. Between a parenthesis and the one that closes it there is
none of that kind, and what the loops do can be told by counting the parentheses in front.

Results:
* `closing?_eq_some_iff`: a level ends at the first position with as many parentheses of each kind.
* `exists_nested_of_closing?`: the parentheses in front of that position match.
* `nested_of_mem_splitFrom`: in the parts of a run that matches the parentheses match as well.
* `outerCount_intercalate`: the separators outside of all parentheses are those between the parts.
* `matching_splitTopLevel`: where a parenthesis closes, and how its contents are split.
-/

namespace SchemaShift.Token

/-! ## Counting -/

/-- A run with as many closing parentheses as opening ones. -/
def IsEven (ts : List Token) : Prop := ts.count leftParen = ts.count rightParen

instance (ts : List Token) : Decidable (IsEven ts) :=
  inferInstanceAs (Decidable (ts.count leftParen = ts.count rightParen))

theorem isEven_nil : IsEven [] := rfl

theorem isEven_append_iff {xs : List Token} (h : IsEven xs) (ys : List Token) :
    IsEven (xs ++ ys) ↔ IsEven ys := by
  unfold IsEven at *
  rw [List.count_append, List.count_append, h, Nat.add_left_cancel_iff]

/-- Parentheses that match are as many of each kind. -/
theorem Nested.isEven {p : Token → Prop} {ts : List Token} (h : Nested p ts) : IsEven ts := by
  induction h with
  | nil => exact isEven_nil
  | cons left right _ _ ih => simpa [IsEven, left, right] using ih
  | group _ _ ihInner ih =>
    unfold IsEven at *
    rw [List.count_cons_self, List.count_cons_of_ne (by decide), List.count_append,
      List.count_append, List.count_cons_of_ne (by decide), List.count_cons_self]
    omega

/-- Where the parentheses match, none is closed before it is opened. -/
theorem Nested.count_take_le {p : Token → Prop} {ts : List Token} (h : Nested p ts) (i : Nat) :
    (ts.take i).count rightParen ≤ (ts.take i).count leftParen := by
  induction h generalizing i with
  | nil => simp
  | cons left right _ _ ih =>
    cases i with
    | zero => simp
    | succ i => simpa [left, right] using ih i
  | @group _ inside ts inner _ ihInner ih =>
    cases i with
    | zero => simp
    | succ i =>
      have first := ihInner i
      rw [List.take_succ_cons, List.take_append]
      cases behind : i - inside.length with
      | zero => simp; omega
      | succ j =>
        have whole : inside.take i = inside := List.take_of_length_le (by omega)
        have even : inside.count leftParen = inside.count rightParen := inner.isEven
        have rest := ih j
        rw [whole, List.take_succ_cons]
        simp
        omega

/-! ## The closing parenthesis -/

/-- The positions of a run at which all levels are closed, `depth` of which were open in front. -/
def closings (depth : Nat) (ts : List Token) : Set Nat :=
  {n | n < ts.length ∧
    depth + (ts.take (n + 1)).count leftParen = (ts.take (n + 1)).count rightParen}

theorem zero_mem_closings_iff {depth : Nat} (h : 0 < depth) (t : Token) (ts : List Token) :
    0 ∈ closings depth (t :: ts) ↔ t = rightParen ∧ depthAfter depth t = 0 := by
  cases t <;> simp [closings, depthAfter] <;> omega

theorem succ_mem_closings_iff {depth : Nat} (h : 0 < depth) (t : Token) (ts : List Token)
    (n : Nat) : n + 1 ∈ closings depth (t :: ts) ↔ n ∈ closings (depthAfter depth t) ts := by
  simp only [closings, Set.mem_ofPred_eq, List.length_cons, Nat.add_lt_add_iff_right,
    List.take_succ_cons]
  cases t <;> simp [depthAfter] <;> omega

/-- Where the first token closes no level, the others close what is open behind it. -/
theorem closings_cons {depth : Nat} (h : 0 < depth) {t : Token}
    (later : ¬(t = rightParen ∧ depthAfter depth t = 0)) (ts : List Token) :
    closings depth (t :: ts) = (· + 1) '' closings (depthAfter depth t) ts := by
  ext n
  cases n with
  | zero => simpa [zero_mem_closings_iff h] using later
  | succ n => simp [succ_mem_closings_iff h]

theorem depthAfter_pos {depth : Nat} (h : 0 < depth) {t : Token}
    (later : ¬(t = rightParen ∧ depthAfter depth t = 0)) : 0 < depthAfter depth t := by
  by_cases right : t = rightParen
  · exact Nat.pos_of_ne_zero fun closed => later ⟨right, closed⟩
  · cases t <;> simp_all [depthAfter]

theorem isLeast_image_iff {f : Nat → Nat} (mono : StrictMono f) {s : Set Nat} {n : Nat} :
    IsLeast (f '' s) n ↔ ∃ m, IsLeast s m ∧ f m = n := by
  constructor
  · intro least
    obtain ⟨m, -, rfl⟩ := least.1
    exact ⟨m, mono.map_isLeast.1 least, rfl⟩
  · rintro ⟨m, least, rfl⟩
    exact mono.map_isLeast.2 least

/-- The level that is looked for ends at the first position where all levels are closed. -/
theorem closing?_eq_some_iff {depth n : Nat} (h : 0 < depth) {ts : List Token} :
    closing? depth ts = some n ↔ IsLeast (closings depth ts) n := by
  induction ts generalizing depth n with
  | nil => simp [closing?, closings, IsLeast]
  | cons t ts ih =>
    rw [closing?]
    split
    · rename_i here
      have first : IsLeast (closings depth (t :: ts)) 0 :=
        ⟨(zero_mem_closings_iff h t ts).2 here, fun _ _ => Nat.zero_le _⟩
      rw [Option.some_inj, first.isLeast_iff_eq]
    · rename_i later
      have shifts : StrictMono fun m : Nat => m + 1 := fun _ _ => Nat.succ_lt_succ
      rw [Option.map_eq_some_iff, closings_cons h later, isLeast_image_iff shifts]
      simp only [ih (depthAfter_pos h later)]

/-- No position is found only where no position closes the level. -/
theorem closing?_eq_none_iff {depth : Nat} (h : 0 < depth) {ts : List Token} :
    closing? depth ts = none ↔ closings depth ts = ∅ := by
  classical
  rw [Set.eq_empty_iff_forall_notMem]
  constructor
  · intro none n closes
    have least : IsLeast (closings depth ts) (Nat.find ⟨n, closes⟩) :=
      ⟨Nat.find_spec ⟨n, closes⟩, fun _ earlier => Nat.find_min' ⟨n, closes⟩ earlier⟩
    rw [(closing?_eq_some_iff h).2 least] at none
    cases none
  · intro never
    exact Option.eq_none_iff_forall_ne_some.2 fun n found =>
      never n ((closing?_eq_some_iff h).1 found).1

theorem depthAfter_add {a b : Nat} (h : 0 < a) (t : Token) :
    depthAfter (a + b) t = depthAfter a t + b := by
  cases t <;> simp [depthAfter] <;> omega

/-- Where several levels end, some of them have ended before. -/
theorem exists_closing?_of_add {a b n : Nat} (ha : 0 < a) (hb : 0 < b) {ts : List Token}
    (h : closing? (a + b) ts = some n) :
    ∃ front rest m, ts = front ++ rightParen :: rest ∧ closing? a ts = some front.length ∧
      closing? b rest = some m ∧ n = front.length + (m + 1) := by
  induction ts generalizing a n with
  | nil => cases h
  | cons t ts ih =>
    rw [closing?, depthAfter_add ha, if_neg (fun both => by omega)] at h
    obtain ⟨m, found, rfl⟩ := Option.map_eq_some_iff.1 h
    by_cases here : t = rightParen ∧ depthAfter a t = 0
    · have closes : closing? a (t :: ts) = some 0 := by rw [closing?, if_pos here]
      rw [here.2, Nat.zero_add] at found
      exact ⟨[], ts, m, by rw [here.1, List.nil_append], closes, found, by simp⟩
    · obtain ⟨front, rest, k, rfl, closes, others, rfl⟩ := ih (depthAfter_pos ha here) found
      refine ⟨t :: front, rest, k, rfl, ?_, others, ?_⟩
      · rw [closing?, if_neg here, closes]
        rfl
      · rw [List.length_cons]
        omega

/-- The parentheses in front of the one that closes a level match. -/
theorem exists_nested_of_closing? {n : Nat} {ts : List Token} (h : closing? 1 ts = some n) :
    ∃ inside rest, ts = inside ++ rightParen :: rest ∧ inside.length = n ∧
      Nested (fun _ => True) inside := by
  -- A group inside is followed by a shorter run, which is the same level again.
  generalize size : ts.length = s
  induction s using Nat.strongRecOn generalizing ts n with
  | ind s ih =>
  cases ts with
  | nil => cases h
  | cons t ts =>
    rw [closing?] at h
    split at h
    · rename_i here
      obtain ⟨rfl, -⟩ := here
      cases h
      exact ⟨[], ts, rfl, rfl, .nil⟩
    rename_i later
    obtain ⟨m, found, rfl⟩ := Option.map_eq_some_iff.1 h
    rw [List.length_cons] at size
    by_cases left : t = leftParen
    · subst left
      obtain ⟨front, back, k, rfl, closes, others, rfl⟩ :=
        exists_closing?_of_add Nat.one_pos Nat.one_pos found
      rw [List.length_append, List.length_cons] at size
      obtain ⟨inner, behind, split, length, nested⟩ := ih _ (by simp; omega) closes rfl
      obtain ⟨inside, rest, rfl, rfl, nested'⟩ := ih _ (by omega) others rfl
      obtain ⟨rfl, same⟩ := List.append_inj split length.symm
      cases same
      refine ⟨leftParen :: (front ++ rightParen :: inside), rest, by simp, by simp, ?_⟩
      exact .group nested nested'
    · have right : t ≠ rightParen := fun same => later ⟨same, by rw [same, depthAfter]⟩
      rw [depthAfter_of_ne left right] at found
      obtain ⟨inside, rest, rfl, rfl, nested⟩ := ih _ (by omega) found rfl
      exact ⟨t :: inside, rest, rfl, rfl, .cons left right trivial nested⟩

/-! ## The parts of a run -/

section Parts

variable {separator : Token} (left : separator ≠ leftParen)

include left

/-- A group stands in one part. -/
theorem splitFrom_group {inside : List Token} (h : Nested (fun _ => True) inside)
    (ts : List Token) :
    splitFrom separator 0 (leftParen :: (inside ++ rightParen :: ts)) =
      (leftParen :: (inside ++ [rightParen])).foldr ontoFirst (splitFrom separator 0 ts) := by
  have group : Nested (· ≠ separator) (leftParen :: (inside ++ [rightParen])) := .group h .nil
  have split := splitFrom_append left group (fun _ apart => apart) ts
  rwa [List.cons_append, List.append_assoc, List.singleton_append] at split

/-- In the parts of a run that matches the parentheses match, and no separator is outside of
them. -/
theorem nested_of_mem_splitFrom {p : Token → Prop} {ts : List Token} (h : Nested p ts) :
    ∀ part ∈ splitFrom separator 0 ts, Nested (· ≠ separator) part := by
  induction h with
  | nil =>
    rw [splitFrom]
    simpa using Nested.nil
  | @cons _ t ts leftParen' rightParen' _ _ ih =>
    rw [splitFrom]
    split
    · exact List.forall_mem_cons.2 ⟨.nil, ih⟩
    · rename_i inside
      have apart : t ≠ separator := fun same => inside ⟨rfl, same⟩
      rw [depthAfter_of_ne leftParen' rightParen']
      obtain ⟨first, others, split⟩ :=
        List.exists_cons_of_ne_nil (splitFrom_ne_nil separator 0 ts)
      rw [split, List.forall_mem_cons] at ih
      rw [split, ontoFirst]
      exact List.forall_mem_cons.2 ⟨.cons leftParen' rightParen' apart ih.1, ih.2⟩
  | @group _ inside ts inner _ _ ih =>
    obtain ⟨first, others, split⟩ := List.exists_cons_of_ne_nil (splitFrom_ne_nil separator 0 ts)
    rw [split, List.forall_mem_cons] at ih
    rw [splitFrom_group left inner, split, foldr_ontoFirst, List.cons_append, List.append_assoc]
    exact List.forall_mem_cons.2 ⟨.group inner ih.1, ih.2⟩

end Parts

/-! ## Tokens outside of parentheses -/

/-- How often a token stands in a run behind as many parentheses of each kind. -/
def outerCount (t : Token) (ts : List Token) : Nat :=
  (List.range ts.length).countP fun i => ts[i]? = some t ∧ IsEven (ts.take i)

theorem outerCount_nil (t : Token) : outerCount t [] = 0 := rfl

theorem outerCount_singleton (t u : Token) : outerCount t [u] = if u = t then 1 else 0 := by
  simp [outerCount, List.countP_cons, isEven_nil]

theorem outerCount_append (t : Token) {xs : List Token} (h : IsEven xs) (ys : List Token) :
    outerCount t (xs ++ ys) = outerCount t xs + outerCount t ys := by
  unfold outerCount
  rw [List.length_append, List.range_add, List.countP_append, List.countP_map]
  congr 1
  · refine List.countP_congr fun i hi => ?_
    have within : i < xs.length := List.mem_range.1 hi
    rw [List.getElem?_append_left within, List.take_append_of_le_length within.le]
  · refine List.countP_congr fun i _ => ?_
    rw [Function.comp_apply, decide_eq_true_iff, decide_eq_true_iff,
      List.getElem?_append_right (Nat.le_add_right _ _), List.take_length_add_append,
      Nat.add_sub_cancel_left, isEven_append_iff h]

/-- Nothing in a group stands outside of parentheses. -/
theorem outerCount_group {t : Token} (left : t ≠ leftParen) {inside : List Token}
    (h : Nested (fun _ => True) inside) :
    outerCount t (leftParen :: (inside ++ [rightParen])) = 0 := by
  rw [outerCount, List.countP_eq_zero]
  intro i hi both
  obtain ⟨here, even⟩ := of_decide_eq_true both
  cases i with
  | zero => exact left (Option.some.inj here).symm
  | succ i =>
    have short : i ≤ inside.length := by
      rw [List.mem_range, List.length_cons, List.length_append, List.length_singleton] at hi
      omega
    have opened := h.count_take_le i
    rw [List.take_succ_cons, List.take_append_of_le_length short] at even
    simp [IsEven] at even
    omega

/-- A token that is kept inside the parentheses does not stand outside of them. -/
theorem outerCount_of_nested {t : Token} (left : t ≠ leftParen) {p : Token → Prop}
    (apart : ∀ u, p u → u ≠ t) {ts : List Token} (h : Nested p ts) : outerCount t ts = 0 := by
  induction h with
  | nil => exact outerCount_nil t
  | @cons _ u ts leftParen' rightParen' hu _ ih =>
    have even : IsEven [u] := by simp [IsEven, leftParen', rightParen']
    rw [← List.singleton_append, outerCount_append t even, outerCount_singleton,
      if_neg (apart u hu), ih apart]
  | @group _ inside ts inner _ _ ih =>
    have group : Nested (fun _ => True) (leftParen :: (inside ++ [rightParen])) :=
      .group inner .nil
    have split : leftParen :: (inside ++ rightParen :: ts) =
        leftParen :: (inside ++ [rightParen]) ++ ts := by simp
    rw [split, outerCount_append t group.isEven, outerCount_group left inner, ih apart]

/-- The separators outside of all parentheses are those between the parts. -/
theorem outerCount_intercalate {separator : Token} (left : separator ≠ leftParen)
    (right : separator ≠ rightParen) {parts : List (List Token)} (some : parts ≠ [])
    (apart : ∀ part ∈ parts, Nested (· ≠ separator) part) :
    outerCount separator ([separator].intercalate parts) + 1 = parts.length := by
  induction parts with
  | nil => exact absurd rfl some
  | cons part parts ih =>
    obtain ⟨first, others⟩ := List.forall_mem_cons.1 apart
    have none := outerCount_of_nested left (fun _ h => h) first
    by_cases last : parts = []
    · rw [last, List.intercalate_singleton, none]
      rfl
    · have even : IsEven [separator] := by simp [IsEven, left, right]
      rw [List.intercalate_cons_of_ne_nil last, List.append_assoc,
        outerCount_append separator first.isEven, outerCount_append separator even, none,
        outerCount_singleton, if_pos rfl, List.length_cons, ← ih last others]
      omega

/-! ## Positions in a run -/

/-- The positions up to which a run has, from a given one on, as many parentheses of each kind. -/
def evenEnds (tokens : List Token) (start : Nat) : Set Nat :=
  {n | start ≤ n ∧ n < tokens.length ∧ IsEven (tokens.extract start (n + 1))}

/-- How a run is cut at its commas: into parts in which the parentheses match and no comma is
outside of them, one more than there are such commas in the run. With commas between them the parts
are the run again. -/
structure CutsAtCommas (body : List Token) (parts : List (List Token)) : Prop where
  matched : ∀ part ∈ parts, Nested (fun _ => True) part
  whole : ∀ part ∈ parts, outerCount comma part = 0
  /-- An empty run has no parts, not an empty one. -/
  length : parts.length = if body = [] then 0 else outerCount comma body + 1
  joined : [comma].intercalate parts = body

/-- A run that matches is cut at its commas. -/
theorem cutsAtCommas_splitTopLevel {p : Token → Prop} {body : List Token} (h : Nested p body) :
    CutsAtCommas body (splitTopLevel body) := by
  by_cases none : body = []
  · subst none
    exact ⟨nofun, nofun, rfl, rfl⟩
  have split : splitTopLevel body = splitFrom comma 0 body := by
    rw [splitTopLevel, splitAt, List.isEmpty_eq_false_iff.2 none]
    rfl
  have joined := intercalate_splitFrom comma 0 body
  have apart : comma ≠ leftParen := by decide
  have nested := nested_of_mem_splitFrom apart h
  have count := outerCount_intercalate apart (by decide) (splitFrom_ne_nil comma 0 body) nested
  rw [joined] at count
  rw [split]
  refine ⟨fun part mem => ?_, fun part mem => ?_, by rw [if_neg none, count], joined⟩
  · exact (nested part mem).imp fun _ _ => trivial
  · exact outerCount_of_nested apart (fun _ other => other) (nested part mem)

section Matching

variable {tokens rest : List Token} {start : Nat}
  (opened : tokens.drop start = leftParen :: rest)

include opened

theorem matching_eq_ok_iff {close : Nat} :
    matching tokens start = .ok close ↔
      ∃ n, closing? 1 rest = some n ∧ start + (n + 1) = close := by
  rw [matching, opened, closing?, if_neg (by decide), depthAfter]
  cases closing? 1 rest with
  | none => simp
  | some n => simp

theorem matching_eq_error_iff :
    matching tokens start = .error (.badMatch .unbalancedParentheses) ↔
      closing? 1 rest = none := by
  rw [matching, opened, closing?, if_neg (by decide), depthAfter]
  cases closing? 1 rest with
  | none => simp
  | some n => simp

/-- From an opening parenthesis on a run is even up to the positions that close its level. -/
theorem evenEnds_eq_image :
    evenEnds tokens start = (fun n => start + (n + 1)) '' closings 1 rest := by
  have length : tokens.length = start + (rest.length + 1) := by
    have := congrArg List.length opened
    rw [List.length_drop, List.length_cons] at this
    omega
  have even (k : Nat) : IsEven (tokens.extract start (start + k + 1)) ↔
      1 + (rest.take k).count leftParen = (rest.take k).count rightParen := by
    rw [List.extract_eq_take_drop, opened, Nat.add_assoc, Nat.add_sub_cancel_left,
      List.take_succ_cons]
    simp [IsEven, Nat.add_comm]
  ext close
  constructor
  · rintro ⟨behind, within, same⟩
    obtain ⟨k, rfl⟩ := Nat.exists_eq_add_of_le behind
    rw [even] at same
    cases k with
    | zero => simp at same
    | succ n => exact ⟨n, ⟨by omega, same⟩, rfl⟩
  · rintro ⟨n, ⟨within, same⟩, rfl⟩
    dsimp only
    exact ⟨by omega, by omega, (even (n + 1)).2 same⟩

end Matching

/-- A parenthesis is closed by the first one up to which there are as many of each kind, and by none
if there is no such one; what stands between the two is cut at its commas. -/
theorem matching_splitTopLevel {tokens : List Token} {start : Nat}
    (opened : tokens[start]? = some leftParen) :
    (∀ close, matching tokens start = .ok close ↔ IsLeast (evenEnds tokens start) close) ∧
      (matching tokens start = .error (.badMatch .unbalancedParentheses) ↔
        evenEnds tokens start = ∅) ∧
      ∀ close, matching tokens start = .ok close →
        CutsAtCommas (tokens.extract (start + 1) close)
          (splitTopLevel (tokens.extract (start + 1) close)) := by
  obtain ⟨within, same⟩ := List.getElem?_eq_some_iff.1 opened
  have behind : tokens.drop start = leftParen :: tokens.drop (start + 1) := by
    rw [List.drop_eq_getElem_cons within, same]
  have shifts : StrictMono fun n => start + (n + 1) := fun _ _ earlier => by
    simpa using earlier
  refine ⟨fun close => ?_, ?_, fun close found => ?_⟩
  · rw [matching_eq_ok_iff behind, evenEnds_eq_image behind, isLeast_image_iff shifts]
    simp only [closing?_eq_some_iff Nat.one_pos]
  · rw [matching_eq_error_iff behind, evenEnds_eq_image behind, Set.image_eq_empty,
      closing?_eq_none_iff Nat.one_pos]
  · obtain ⟨n, closed, rfl⟩ := (matching_eq_ok_iff behind).1 found
    obtain ⟨inside, rest, split, rfl, nested⟩ := exists_nested_of_closing? closed
    have body : tokens.extract (start + 1) (start + (inside.length + 1)) = inside := by
      rw [List.extract_eq_take_drop, split, List.take_append_of_le_length (by omega),
        List.take_of_length_le (by omega)]
    rw [body]
    exact cutsAtCommas_splitTopLevel nested

/-- The values of a clause, one of them a call with commas of its own, and a parenthesis too many
behind them. -/
def valuesClause : List Token :=
  [word "enum", leftParen, str "a", comma, word "f", leftParen, comma, rightParen, comma,
    rightParen, rightParen]

/-- The parenthesis behind the last value closes the one in front of the first, and the comma of
the call separates nothing. The call alone, without its end, is not closed. -/
theorem matching_splitTopLevel_values :
    valuesClause[1]? = some leftParen ∧ IsLeast (evenEnds valuesClause 1) 9 ∧
      (splitTopLevel (valuesClause.extract 2 9)).length = 3 ∧
        (∀ part ∈ splitTopLevel (valuesClause.extract 2 9), outerCount comma part = 0) ∧
          (valuesClause.take 7)[5]? = some leftParen ∧ evenEnds (valuesClause.take 7) 5 = ∅ := by
  have opened : valuesClause[1]? = some leftParen := by decide
  have call : (valuesClause.take 7)[5]? = some leftParen := by decide
  have found : matching valuesClause 1 = .ok 9 := by rfl
  obtain ⟨closes, -, cuts⟩ := matching_splitTopLevel opened
  obtain ⟨-, unclosed, -⟩ := matching_splitTopLevel call
  exact ⟨opened, (closes 9).1 found, (cuts 9 found).length, (cuts 9 found).whole, call,
    unclosed.1 rfl⟩

end SchemaShift.Token
