import SchemaShift.Proofs.Ddl.Reading

/-!
# What readers take

A reader carries a proof that it lengthens nothing. It does more than that: what it leaves is the
end of the run that it was given, so a token that is left stood in the run, behind all that was
taken. This file shows it for the readers of heads, types and column options, together with what
can stand among the tokens that they take.

Results:
* `Ensures.bind`, `Takes.bind`: composed readers.
* `TypeSpec.read_ensures`: a type holds no comment, and its name and arguments alone are read as the
  same type.
* `Ddl.readHead_takesUpTo`: a head ends at the first opening parenthesis.
-/

namespace SchemaShift

/-! ## Ends of runs -/

/-- Behind tokens that all satisfy `p`, a run goes on as another one. -/
inductive Token.Reaches (p : Token → Prop) : List Token → List Token → Prop
  | refl (ts : List Token) : Reaches p ts ts
  | cons {t : Token} {ts rest : List Token} (ht : p t) (h : Reaches p ts rest) :
    Reaches p (t :: ts) rest

namespace Token.Reaches

variable {p q : Token → Prop} {ts mid rest : List Token}

theorem append {front : List Token} (h : ∀ t ∈ front, p t) (rest : List Token) :
    Reaches p (front ++ rest) rest := by
  induction front with
  | nil => exact .refl rest
  | cons t front ih =>
    obtain ⟨ht, others⟩ := List.forall_mem_cons.1 h
    exact .cons ht (ih others)

theorem append_right (h : Reaches p ts rest) (back : List Token) :
    Reaches p (ts ++ back) (rest ++ back) := by
  induction h with
  | refl ts => exact .refl _
  | cons ht _ ih => exact .cons ht ih

theorem exists_front (h : Reaches p ts rest) : ∃ front, ts = front ++ rest ∧ ∀ t ∈ front, p t := by
  induction h with
  | refl ts => exact ⟨[], rfl, fun _ mem => nomatch mem⟩
  | cons ht _ ih =>
    obtain ⟨front, rfl, all⟩ := ih
    exact ⟨_ :: front, rfl, List.forall_mem_cons.2 ⟨ht, all⟩⟩

theorem imp (h : Reaches p ts rest) (weaker : ∀ t, p t → q t) : Reaches q ts rest := by
  induction h with
  | refl ts => exact .refl ts
  | cons ht _ ih => exact .cons (weaker _ ht) ih

theorem trans (first : Reaches p ts mid) (second : Reaches p mid rest) : Reaches p ts rest := by
  induction first with
  | refl => exact second
  | cons ht _ ih => exact .cons ht (ih second)

end Token.Reaches

namespace Reader

open Token (Reaches)

variable {α β : Type} {r s : Reader α} {f : α → Reader β}

/-- A run, the value that a reader takes off it and the run that is left satisfy a relation. -/
def Ensures (R : List Token → α → List Token → Prop) (r : Reader α) : Prop :=
  ∀ ⦃ts : List Token⦄ ⦃parsed : Parsed α ts⦄, r ts = .ok parsed → R ts parsed.value parsed.rest

/-- A reader takes tokens that satisfy `p` off the front. -/
abbrev Takes (p : Token → Prop) (r : Reader α) : Prop :=
  r.Ensures fun ts _ rest => Reaches p ts rest

/-- A reader takes tokens off the front. -/
abbrev TakesFront (r : Reader α) : Prop := r.Takes fun _ => True

/-- A reader takes tokens that satisfy `p` off the front, and then the token `t`. -/
abbrev TakesUpTo (p : Token → Prop) (t : Token) (r : Reader α) : Prop :=
  r.Ensures fun ts _ rest => Reaches p ts (t :: rest)

/-- Every value that a reader returns satisfies `q`. -/
abbrev Gives (q : α → Prop) (r : Reader α) : Prop := r.Ensures fun _ a _ => q a

theorem run_eq_ok_iff {ts rest : List Token} {a : α} :
    r.run ts = .ok (a, rest) ↔
      ∃ parsed, r ts = .ok parsed ∧ parsed.value = a ∧ parsed.rest = rest := by
  unfold run
  cases r ts <;> simp

theorem run_bind_eq_ok_iff {ts rest : List Token} {b : β} :
    (r >>= f).run ts = .ok (b, rest) ↔
      ∃ a mid, r.run ts = .ok (a, mid) ∧ (f a).run mid = .ok (b, rest) := by
  rw [run_bind]
  exact Except.bind_eq_ok_iff.trans Prod.exists

/-! ## Composed readers -/

section Composed

variable {p q : Token → Prop} {R : List Token → α → List Token → Prop}
  {S T : List Token → β → List Token → Prop} {t : Token}

theorem Ensures.run (h : r.Ensures R) {ts rest : List Token} {a : α}
    (read : r.run ts = .ok (a, rest)) : R ts a rest := by
  obtain ⟨parsed, done, rfl, rfl⟩ := run_eq_ok_iff.1 read
  exact h done

theorem ensures_of_run (h : ∀ ⦃ts a rest⦄, r.run ts = .ok (a, rest) → R ts a rest) :
    r.Ensures R := fun _ _ read => h (run_eq_ok_iff.2 ⟨_, read, rfl, rfl⟩)

theorem Ensures.fail (e : Error) : (Reader.fail e : Reader α).Ensures R := nofun

theorem Ensures.unexpected (context : String) :
    (Reader.unexpected context : Reader α).Ensures R := by
  intro ts parsed read
  cases ts <;> cases read

theorem Ensures.pure {a : α} (h : ∀ ts, R ts a ts) : (Pure.pure a : Reader α).Ensures R := by
  intro ts parsed read
  cases read
  exact h ts

theorem Ensures.ite {c : Prop} [Decidable c] (yes : r.Ensures R) (no : s.Ensures R) :
    (if c then r else s).Ensures R := by
  split
  · exact yes
  · exact no

/-- What two readers in a row ensure. -/
theorem Ensures.bind (first : r.Ensures R) (next : ∀ a, (f a).Ensures S)
    (both : ∀ {ts a mid b rest}, R ts a mid → S mid b rest → T ts b rest) :
    (r >>= f).Ensures T := by
  refine ensures_of_run fun ts b rest read => ?_
  obtain ⟨a, mid, readFirst, readNext⟩ := run_bind_eq_ok_iff.1 read
  exact both (first.run readFirst) ((next a).run readNext)

theorem Takes.bind (first : r.Takes p) (next : ∀ a, (f a).Takes p) : (r >>= f).Takes p :=
  Ensures.bind first next .trans

theorem Takes.bind_takesUpTo (first : r.Takes p) (next : ∀ a, (f a).TakesUpTo p t) :
    (r >>= f).TakesUpTo p t := Ensures.bind first next .trans

theorem Gives.bind {q : β → Prop} (next : ∀ a, (f a).Gives q) : (r >>= f).Gives q :=
  Ensures.bind (R := fun _ _ _ => True) (fun _ _ _ => trivial) next fun _ h => h

theorem Takes.front (h : r.Takes p) : r.TakesFront :=
  fun _ _ read => (h read).imp fun _ _ => trivial

end Composed

/-! ## Single tokens -/

theorem eatKeyword_takes (keyword : String) : (eatKeyword keyword).Takes (· ≠ .leftParen) := by
  intro ts parsed read
  cases ts with
  | nil =>
    cases read
    exact .refl []
  | cons t ts =>
    rw [eatKeyword] at read
    split at read
    · rename_i found
      cases read
      refine .cons ?_ (.refl ts)
      rintro rfl
      cases found
    · cases read
      exact .refl _

theorem expectKeyword_ensures (context keyword : String) :
    (expectKeyword context keyword).Ensures fun ts _ rest =>
      ∃ t, ts = t :: rest ∧ t.isKeyword keyword = true := by
  refine ensures_of_run fun ts _ rest read => ?_
  cases ts with
  | nil => cases read
  | cons t ts =>
    cases found : t.isKeyword keyword with
    | true =>
      rw [run_expectKeyword found] at read
      cases read
      exact ⟨t, rfl, found⟩
    | false =>
      rw [expectKeyword, run_bind_of (run_eatKeyword_of_not keyword found ts)] at read
      cases read

theorem expectKeyword_takes (context keyword : String) :
    (expectKeyword context keyword).Takes (· ≠ .leftParen) :=
  (eatKeyword_takes keyword).bind fun _ => .ite (.pure .refl) (.unexpected context)

theorem expectToken_takesUpTo (context : String) (t : Token) (p : Token → Prop) :
    (expectToken context t).TakesUpTo p t := by
  intro ts parsed read
  cases ts with
  | nil => cases read
  | cons u ts =>
    rw [expectToken] at read
    split at read
    · rename_i same
      cases read
      rw [same]
      exact .refl _
    · cases read

theorem name_ensures (context : String) :
    (name context).Ensures fun ts n rest => ∃ t, ts = t :: rest ∧ t.name? = some n := by
  intro ts parsed read
  cases ts with
  | nil => cases read
  | cons t ts =>
    dsimp only [name] at read
    split at read
    · rename_i n named
      cases read
      exact ⟨t, rfl, named⟩
    · cases read

theorem name_takes (context : String) : (name context).Takes (· ≠ .leftParen) := by
  refine ensures_of_run fun ts n rest read => ?_
  obtain ⟨t, rfl, named⟩ := (name_ensures context).run read
  refine .cons ?_ (.refl rest)
  rintro rfl
  cases named

theorem next_takesFront : next.TakesFront := by
  intro ts parsed read
  cases read
  cases ts with
  | nil => exact .refl []
  | cons t ts => exact .cons trivial (.refl ts)

/-! ## Groups and lists -/

theorem groupRest_ensures :
    groupRest.Ensures fun ts inside rest =>
      ∃ n, Token.closing? 1 ts = some n ∧ inside = ts.take n ∧ rest = ts.drop (n + 1) := by
  intro ts parsed read
  unfold groupRest at read
  split at read
  · rename_i n closes
    cases read
    exact ⟨n, closes, rfl, rfl⟩
  · cases read

theorem groupRest_takesFront : groupRest.TakesFront := by
  intro ts parsed read
  obtain ⟨n, -, -, left⟩ := groupRest_ensures read
  have taken : Reaches (fun _ => True) (ts.take (n + 1) ++ ts.drop (n + 1)) (ts.drop (n + 1)) :=
    .append (fun _ _ => trivial) _
  rwa [List.take_append_drop, ← left] at taken

theorem group_takesFront : group.TakesFront := by
  intro ts parsed read
  unfold group at read
  split at read
  · rename_i ts
    obtain ⟨inside, readInside, rfl⟩ := Except.exists_of_map_eq_ok read
    exact .cons trivial (groupRest_takesFront readInside)
  · cases read
    exact .refl _

theorem skipGroup_takesFront : skipGroup.TakesFront :=
  group_takesFront.bind fun _ => .pure .refl

theorem columnList_takesFront (context : String) : (columnList context).TakesFront := by
  have opened : (expectToken context .leftParen).TakesFront :=
    fun ts parsed read => (expectToken_takesUpTo context _ _ read).trans (.cons trivial (.refl _))
  refine opened.bind fun _ => groupRest_takesFront.bind fun inside => ?_
  split
  · exact .fail _
  · exact .fail _
  · exact .pure .refl

theorem qualifiedFrom_takes (context current : String) :
    (qualifiedFrom context current).Takes (· ≠ .leftParen) := by
  intro ts
  fun_induction qualifiedFrom context current ts with
  | case1 current t ts n named ih =>
    intro parsed read
    obtain ⟨more, readMore, rfl⟩ := Except.exists_of_map_eq_ok read
    refine .cons (by simp) (.cons ?_ (ih readMore))
    rintro rfl
    cases named
  | case2 => exact nofun
  | case3 => exact nofun
  | case4 current ts =>
    rintro _ ⟨⟩
    exact .refl ts

theorem qualifiedName_takes (context : String) : (qualifiedName context).Takes (· ≠ .leftParen) :=
  (name_takes context).bind fun n => qualifiedFrom_takes context n

end Reader

open Reader

/-! ## Types -/

namespace TypeSpec

/-- The tokens of the type at the front of a run: its name and the arguments in parentheses. -/
def typeTokens : List Token → List Token
  | name :: .leftParen :: ts =>
    name :: .leftParen :: (ts.takeWhile (· != .rightParen) ++ [.rightParen])
  | ts => ts.take 1

theorem run_arguments_word (type w : String) (ts : List Token) :
    (arguments type).run (.word w :: ts) =
      ((arguments type).run ts).map fun p => (w :: p.1, p.2) := by
  have step : arguments type (.word w :: ts) =
      (arguments type ts).map fun p => (p.map (w :: ·)).weaken (by simp) := rfl
  rw [Reader.run, step, Reader.run]
  cases arguments type ts <;> rfl

/-- Arguments without comments that end at the first closing parenthesis and are read whatever
stands behind it. -/
def Closed (type : String) (ts : List Token) (args : List String) (rest : List Token) : Prop :=
  ∃ inside, ts = inside ++ .rightParen :: rest ∧
    (∀ t ∈ inside, t ≠ .rightParen ∧ t.isComment = false) ∧
      ∀ more, (arguments type).run (inside ++ .rightParen :: more) = .ok (args, more)

/-- One more token in front of arguments. -/
theorem Closed.cons {type : String} {t : Token} {ts rest : List Token} {args : List String}
    {g : List String → List String} (plain : t ≠ .rightParen ∧ t.isComment = false)
    (step : ∀ ts, (arguments type).run (t :: ts) =
      ((arguments type).run ts).map fun p => (g p.1, p.2))
    (others : ∀ {args}, (arguments type).run ts = .ok (args, rest) → Closed type ts args rest)
    (read : (arguments type).run (t :: ts) = .ok (args, rest)) :
    Closed type (t :: ts) args rest := by
  rw [step] at read
  obtain ⟨⟨behind, left⟩, readBehind, same⟩ := Except.exists_of_map_eq_ok read
  cases same
  obtain ⟨inside, rfl, commentless, again⟩ := others readBehind
  refine ⟨t :: inside, rfl, List.forall_mem_cons.2 ⟨plain, commentless⟩, fun more => ?_⟩
  rw [List.cons_append, step, again]
  rfl

theorem arguments_ensures (type : String) : (arguments type).Ensures (Closed type) := by
  refine ensures_of_run fun ts args rest read => ?_
  induction ts generalizing args with
  | nil => cases read
  | cons t ts ih =>
    cases t with
    | rightParen =>
      cases read
      exact ⟨[], rfl, by simp, run_arguments_rightParen type⟩
    | comma =>
      refine .cons (g := id) ⟨by simp, rfl⟩ (fun ts => ?_) (ih _) read
      rw [run_arguments_comma]
      cases (arguments type).run ts <;> rfl
    | number n => exact .cons ⟨by simp, rfl⟩ (run_arguments_number type n) (ih _) read
    | str s => exact .cons ⟨by simp, rfl⟩ (run_arguments_str type s) (ih _) read
    | word w => exact .cons ⟨by simp, rfl⟩ (run_arguments_word type w) (ih _) read
    | ident s | comment s | leftParen | semicolon | symbol c => cases read

theorem run_flags_of_unsigned {t : Token} (h : t.isKeyword "unsigned" = true) (ts : List Token) :
    flags.run (t :: ts) = (flags.run ts).map fun p => (true, p.2) := by
  have step : flags (t :: ts) =
      (flags ts).map fun p => (p.map fun _ => true).weaken (by simp) := if_pos h
  rw [Reader.run, step, Reader.run]
  cases flags ts <;> rfl

theorem run_flags_of_zerofill {t : Token} (signed : t.isKeyword "unsigned" = false)
    (h : t.isKeyword "zerofill" = true) (ts : List Token) :
    flags.run (t :: ts) = flags.run ts := by
  have step : flags (t :: ts) = (flags ts).map fun p => p.weaken (by simp) :=
    (if_neg (by simp [signed])).trans (if_pos h)
  rw [Reader.run, step, Reader.run]
  cases flags ts <;> rfl

theorem flags_takes : flags.Takes (·.isComment = false) := by
  have bare : ∀ {t : Token} {keyword : String}, t.isKeyword keyword = true →
      t.isComment = false := by
    intro t keyword found
    cases t <;> first | rfl | cases found
  refine ensures_of_run fun ts unsigned rest read => ?_
  induction ts generalizing unsigned with
  | nil =>
    cases read
    exact .refl []
  | cons t ts ih =>
    cases sign : t.isKeyword "unsigned" with
    | true =>
      rw [run_flags_of_unsigned sign] at read
      obtain ⟨⟨flag, left⟩, readBehind, same⟩ := Except.exists_of_map_eq_ok read
      cases same
      exact .cons (bare sign) (ih _ readBehind)
    | false =>
      cases fill : t.isKeyword "zerofill" with
      | true =>
        rw [run_flags_of_zerofill sign fill] at read
        exact .cons (bare fill) (ih _ read)
      | false =>
        rw [run_flags_of_not ⟨sign, fill⟩] at read
        cases read
        exact .refl _

theorem typeName_ensures :
    typeName.Ensures fun ts name rest => ∃ w, ts = .word w :: rest ∧ name = Text.asciiLower w := by
  intro ts parsed read
  unfold typeName at read
  split at read
  · cases read
  · rename_i w rest
    cases read
    exact ⟨w, rfl, rfl⟩
  · cases read

/-- A type holds no comment, and its name and arguments alone are read as the same type, but for
the flags behind them. -/
theorem read_ensures :
    read.Ensures fun ts spec rest => Token.Reaches (·.isComment = false) ts rest ∧
      read.run (typeTokens ts) = .ok ({ spec with unsigned := false }, []) := by
  refine ensures_of_run fun ts spec rest h => ?_
  rw [read] at h
  obtain ⟨name, mid, readName, h⟩ := run_bind_eq_ok_iff.1 h
  obtain ⟨w, rfl, rfl⟩ := typeName_ensures.run readName
  have again : ∀ ts, typeName.run (.word w :: ts) = .ok (Text.asciiLower w, ts) := fun _ => rfl
  obtain ⟨next, behind, readNext, h⟩ := run_bind_eq_ok_iff.1 h
  cases readNext
  split at h
  · rename_i opened
    obtain ⟨ts, rfl⟩ := List.head?_eq_some_iff.1 opened
    obtain ⟨_, _, readNext, h⟩ := run_bind_eq_ok_iff.1 h
    cases readNext
    obtain ⟨args, behind, readArgs, h⟩ := run_bind_eq_ok_iff.1 h
    obtain ⟨unsigned, _, readFlags, h⟩ := run_bind_eq_ok_iff.1 h
    cases h
    obtain ⟨inside, rfl, plain, closed⟩ := (arguments_ensures _).run readArgs
    constructor
    · have arguments := Token.Reaches.append (fun t mem => (plain t mem).2) (.rightParen :: behind)
      exact .cons rfl (.cons rfl (arguments.trans (.cons rfl (flags_takes.run readFlags))))
    · have tokens : typeTokens (.word w :: .leftParen :: (inside ++ .rightParen :: behind)) =
          .word w :: .leftParen :: (inside ++ [.rightParen]) := by
        rw [typeTokens, List.takeWhile_append_of_pos (by simpa using fun t mem => (plain t mem).1)]
        simp
      rw [tokens, read, run_bind_of (again _), run_bind_of (run_peek _)]
      simp only [List.head?_cons]
      rw [run_bind_of (run_next_cons _ _), run_bind_of (closed [])]
      rfl
  · rename_i closed
    obtain ⟨_, _, readNone, h⟩ := run_bind_eq_ok_iff.1 h
    cases readNone
    obtain ⟨unsigned, _, readFlags, h⟩ := run_bind_eq_ok_iff.1 h
    cases h
    refine ⟨.cons rfl (flags_takes.run readFlags), ?_⟩
    have tokens : typeTokens (.word w :: mid) = [.word w] := by
      unfold typeTokens
      split
      · rename_i same
        cases same
        exact absurd rfl closed
      · rfl
    rw [tokens]
    rfl

end TypeSpec

namespace Ddl

/-! ## Heads -/

/-- A head ends at the first opening parenthesis. -/
theorem readHead_takesUpTo (whole : List Token) :
    (readHead whole).TakesUpTo (· ≠ .leftParen) .leftParen := by
  -- The part behind the keywords follows `IF NOT EXISTS` or stands alone.
  have named : (do
      let table ← qualifiedName "CREATE TABLE"
      expectToken "CREATE TABLE" .leftParen
      pure table : Reader String).TakesUpTo (· ≠ .leftParen) .leftParen := by
    refine (qualifiedName_takes "CREATE TABLE").bind_takesUpTo fun table => ?_
    have last : (pure table : Reader String).Ensures fun ts _ rest => ts = rest :=
      .pure fun _ => rfl
    refine (expectToken_takesUpTo "CREATE TABLE" _ (· ≠ .leftParen)).bind (fun _ => last) ?_
    rintro ts _ mid _ _ reached rfl
    exact reached
  have failed : ∀ e : Error, ∀ f : Unit → Reader String,
      (Reader.fail e >>= f).TakesUpTo (· ≠ .leftParen) .leftParen := fun e f => nofun
  refine (eatKeyword_takes "create").bind_takesUpTo fun _ => .ite ?_ (failed _ _)
  refine (eatKeyword_takes "temporary").bind_takesUpTo fun _ => ?_
  refine (eatKeyword_takes "table").bind_takesUpTo fun _ => .ite ?_ (failed _ _)
  refine (eatKeyword_takes "if").bind_takesUpTo fun _ => .ite ?_ named
  refine (expectKeyword_takes _ "not").bind_takesUpTo fun _ => ?_
  exact (expectKeyword_takes _ "exists").bind_takesUpTo fun _ => named

/-! ## Column options -/

theorem readAction_takesFront (context : String) : (readAction context).TakesFront := by
  unfold readAction
  refine (name_takes context).front.bind fun first =>
    .ite ((name_takes context).front.bind fun second => Takes.bind (.pure .refl) ?_)
      (Takes.bind (.pure .refl) ?_)
  all_goals
    intro rule
    dsimp only
    split
    · exact .pure .refl
    · exact .fail _

theorem readActions_takesFront (context : String) (target : Reference) :
    (readActions context target).TakesFront := by
  intro ts
  fun_induction readActions context target ts with
  | case1 | case3 => exact nofun
  | case2 target t u ts _ _ action readAction ih | case4 target t u ts _ _ _ action readAction ih =>
    intro parsed read
    obtain ⟨more, readMore, rfl⟩ := Except.exists_of_map_eq_ok read
    have first := readAction_takesFront context readAction
    exact .cons trivial (.cons trivial (first.trans (ih readMore)))
  | case5 | case6 | case7 =>
    rintro _ ⟨⟩
    exact .refl _

theorem readTarget_takesFront (context : String) : (readTarget context).TakesFront :=
  (qualifiedName_takes context).front.bind fun _ =>
    (columnList_takesFront context).bind fun _ => readActions_takesFront context _

theorem readDefault_takesFront (context : String) : (readDefault context).TakesFront := by
  refine next_takesFront.bind fun t => ?_
  split
  · exact .fail _
  · exact .pure .refl
  · exact .pure .refl
  · refine next_takesFront.bind fun u => ?_
    split
    · exact .pure .refl
    · exact .fail _
    · exact .fail _
  · exact groupRest_takesFront.bind fun _ => .pure .refl
  · exact .ite (.pure .refl) (.ite (skipGroup_takesFront.bind fun _ => .pure .refl)
      (.ite (.pure .refl) (.pure .refl)))
  · exact .fail _

end Ddl

end SchemaShift
