import SchemaShift.Proofs.Ddl.Taking

/-!
# The phrases of a column clause

Behind its type a column clause consists of phrases, each of which is read as one option: `NOT
NULL`, `DEFAULT 'x'`, a comment that holds a type. What a phrase says is spelled in it, whatever
stands around it: whether its column may be null or counts up, and the type that a comment names.

Results:
* `readOption_completes`: the phrase of an option is spelled as the option demands.
* `readOptions_eq_ok_iff`: what is read of a clause are the options of its phrases.
* `sublist_origins`: the types that the options of a column name stand in comments of its clause,
  in the same order.
-/

namespace SchemaShift

open Token (Reaches)
open Reader

namespace Ddl

/-! ## The types that comments name -/

/-- The type clause that a comment holds; a comment that says `unsigned` is none. -/
def typeComment? : Token → Option TypeSpec
  | .comment body => if Text.sameWord body "unsigned" then none else (TypeSpec.ofText body).toOption
  | _ => none

/-- The type clauses that the comments of a run hold, in their order. -/
def typeComments (ts : List Token) : List TypeSpec := ts.filterMap typeComment?

/-- The type clause that an option repeats from a comment. -/
def ColumnOption.origin? : ColumnOption → Option TypeSpec
  | .origin spec => some spec
  | _ => none

theorem typeComments_append (xs ys : List Token) :
    typeComments (xs ++ ys) = typeComments xs ++ typeComments ys := List.filterMap_append

/-- Tokens that are no comments hold no type. -/
theorem typeComments_of_reaches {ts rest : List Token}
    (h : Token.Reaches (·.isComment = false) ts rest) : typeComments ts = typeComments rest := by
  induction h with
  | refl => rfl
  | @cons t ts rest plain _ ih =>
    have none : typeComment? t = none := by
      cases t <;> first | rfl | cases plain
    rw [typeComments, List.filterMap_cons_none none]
    exact ih

/-- A reader takes tokens off the front and returns an option that satisfies `q`. -/
abbrev Yields (q : ColumnOption → Prop) (r : Reader ColumnOption) : Prop :=
  r.Ensures fun ts option rest => Token.Reaches (fun _ => True) ts rest ∧ q option

namespace Yields

variable {q : ColumnOption → Prop}

theorem pure {option : ColumnOption} (h : q option) : Yields q (Pure.pure option) :=
  Ensures.pure fun ts => ⟨.refl ts, h⟩

theorem after {α : Type} {r : Reader α} {f : α → Reader ColumnOption} (first : r.TakesFront)
    (next : ∀ a, Yields q (f a)) : Yields q (r >>= f) :=
  Ensures.bind first next fun reached h => ⟨reached.trans h.1, h.2⟩

end Yields

/-! ## Phrases -/

/-- Tokens are certain words, one each. -/
def Spells (phrase : List Token) (words : List String) : Prop :=
  List.Forall₂ (fun t word => t.isKeyword word = true) phrase words

/-- A phrase forbids null. -/
def ForbidsNull (phrase : List Token) : Prop :=
  Spells phrase ["not", "null"] ∨ Spells phrase ["primary", "key"]

/-- A phrase lets its column count up. -/
def CountsUp (phrase : List Token) : Prop :=
  Spells phrase ["auto_increment"] ∨ Spells phrase ["autoincrement"]

theorem spells_cons_iff {t : Token} {phrase : List Token} {word : String} {words : List String} :
    Spells (t :: phrase) (word :: words) ↔ t.isKeyword word = true ∧ Spells phrase words :=
  List.forall₂_cons

/-- A phrase is spelled as its option demands, as far as the option settles whether the column may
be null or names a type. -/
structure Settles (phrase : List Token) (option : ColumnOption) : Prop where
  notNull : Spells phrase ["not", "null"] ↔ option = .notNull
  primaryKey : Spells phrase ["primary", "key"] ↔ option = .primaryKey
  null : Spells phrase ["null"] ↔ option = .null
  countsUp : CountsUp phrase ↔ option = .autoIncrement
  origin : option.origin? = phrase.head?.bind typeComment?

theorem Settles.forbidsNull {phrase : List Token} {option : ColumnOption}
    (h : Settles phrase option) :
    ForbidsNull phrase ↔ option = .notNull ∨ option = .primaryKey :=
  or_congr h.notNull h.primaryKey

/-- An option that does not settle whether the column may be null. -/
def ColumnOption.IsNeutral (option : ColumnOption) : Prop :=
  option ≠ .notNull ∧ option ≠ .primaryKey ∧ option ≠ .null ∧ option ≠ .autoIncrement

instance (option : ColumnOption) : Decidable option.IsNeutral :=
  inferInstanceAs (Decidable (_ ∧ _))

/-- The words with which the phrases begin that settle it. -/
def settlingWords : List String := ["not", "primary", "null", "auto_increment", "autoincrement"]

theorem Settles.of_neutral {t : Token} {phrase : List Token} {option : ColumnOption}
    (plain : ∀ word ∈ settlingWords, t.isKeyword word = false) (neutral : option.IsNeutral)
    (origin : option.origin? = typeComment? t) : Settles (t :: phrase) option := by
  simp only [settlingWords, List.forall_mem_cons] at plain
  obtain ⟨not, primary, null, up, up', -⟩ := plain
  obtain ⟨notNull, primaryKey, isNull, autoIncrement⟩ := neutral
  constructor
  · simp [spells_cons_iff, not, notNull]
  · simp [spells_cons_iff, primary, primaryKey]
  · simp [spells_cons_iff, null, isNull]
  · simp [CountsUp, spells_cons_iff, up, up', autoIncrement]
  · exact origin

/-- A reader of what stands behind a token takes the rest of a phrase that its option demands. -/
abbrev Completes (t : Token) (r : Reader ColumnOption) : Prop :=
  r.Ensures fun ts option rest => ∃ phrase, ts = phrase ++ rest ∧ Settles (t :: phrase) option

/-- An option that names the given type, if any, and settles nothing else. -/
def ColumnOption.Names (type : Option TypeSpec) (option : ColumnOption) : Prop :=
  option.IsNeutral ∧ option.origin? = type

theorem Completes.of_names {t : Token} {r : Reader ColumnOption}
    (plain : ∀ word ∈ settlingWords, t.isKeyword word = false)
    (names : Yields (ColumnOption.Names (typeComment? t)) r) : Completes t r := by
  intro ts parsed read
  obtain ⟨reached, neutral, origin⟩ := names read
  obtain ⟨phrase, split, -⟩ := reached.exists_front
  exact ⟨phrase, split, .of_neutral plain neutral origin⟩

theorem Completes.ite {t : Token} {c : Prop} [Decidable c] {r s : Reader ColumnOption}
    (yes : c → Completes t r) (no : Completes t s) : Completes t (if c then r else s) := by
  split
  · rename_i h
    exact yes h
  · exact no

/-- A keyword that is expected completes a phrase of two words. -/
theorem Completes.expect {t : Token} {context word : String} {option : ColumnOption}
    (h : ∀ u, u.isKeyword word = true → Settles [t, u] option) :
    Completes t (expectKeyword context word >>= fun _ => pure option) := by
  refine Ensures.bind (expectKeyword_ensures context word)
    (fun _ => .pure (R := fun ts a rest => ts = rest ∧ a = option) fun _ => ⟨rfl, rfl⟩) ?_
  rintro ts _ mid _ rest ⟨u, rfl, found⟩ ⟨rfl, rfl⟩
  exact ⟨[u], rfl, h u found⟩

theorem Completes.pure {t : Token} {option : ColumnOption} (h : Settles [t] option) :
    Completes t (Pure.pure option) := Ensures.pure fun _ => ⟨[], rfl, h⟩

/-- What a word is, another word is that is the same. -/
theorem isKeyword_word {word keyword : String} (h : Text.sameWord word keyword = true)
    (other : String) : (Token.word word).isKeyword other = Text.sameWord keyword other := by
  rw [Token.isKeyword, Text.sameWord, Text.sameWord_iff.1 h]
  rfl

/-- A phrase that begins with a word that settles whether the column may be null. -/
theorem Settles.of_word {word keyword : String} (h : Text.sameWord word keyword = true)
    (settling : keyword ∈ settlingWords) {phrase : List Token} {option : ColumnOption}
    (notNull : keyword = "not" ∧ Spells phrase ["null"] ↔ option = .notNull)
    (primaryKey : keyword = "primary" ∧ Spells phrase ["key"] ↔ option = .primaryKey)
    (null : keyword = "null" ∧ Spells phrase [] ↔ option = .null)
    (countsUp : (keyword = "auto_increment" ∨ keyword = "autoincrement") ∧ Spells phrase [] ↔
      option = .autoIncrement)
    (origin : option.origin? = none) : Settles (.word word :: phrase) option := by
  have apart : ∀ a ∈ settlingWords, ∀ b ∈ settlingWords, Text.sameWord a b = decide (a = b) := by
    decide +kernel
  have first : ∀ other ∈ settlingWords,
      (Token.word word).isKeyword other = true ↔ keyword = other := by
    intro other mem
    rw [isKeyword_word h, apart keyword settling other mem, decide_eq_true_iff]
  simp only [settlingWords, List.forall_mem_cons] at first
  obtain ⟨firstNot, firstPrimary, firstNull, firstUp, firstUp', -⟩ := first
  constructor
  · rw [spells_cons_iff, firstNot, notNull]
  · rw [spells_cons_iff, firstPrimary, primaryKey]
  · rw [spells_cons_iff, firstNull, null]
  · rw [CountsUp, spells_cons_iff, spells_cons_iff, firstUp, firstUp', ← or_and_right, countsUp]
  · exact origin

/-- The phrase behind a keyword is spelled as its option demands. -/
theorem readKeyword_completes (context word : String) :
    Completes (.word word) (readKeyword context word) := by
  have silent : ∀ {keyword : String} {r : Reader ColumnOption},
      (∀ other ∈ settlingWords, Text.sameWord keyword other = false) →
      Yields (ColumnOption.Names none) r → Text.sameWord word keyword = true →
      Completes (.word word) r := by
    intro keyword r plain yields same
    refine .of_names (fun other mem => ?_) yields
    rw [isKeyword_word same, plain other mem]
  have plain : ∀ {option : ColumnOption}, option.IsNeutral → option.origin? = none →
      Yields (ColumnOption.Names none) (pure option) :=
    fun neutral origin => Yields.pure ⟨neutral, origin⟩
  have ignored : Yields (ColumnOption.Names none) (pure .ignored) := plain (by decide) rfl
  have next : Yields (ColumnOption.Names none) ignoreNext :=
    Yields.after next_takesFront fun _ => ignored
  have skipped : Yields (ColumnOption.Names none) (skipGroup >>= fun _ => pure .ignored) :=
    Yields.after skipGroup_takesFront fun _ => ignored
  have keyword : ∀ {w : String} {r : Reader ColumnOption}, Yields (ColumnOption.Names none) r →
      Yields (ColumnOption.Names none) (expectKeyword context w >>= fun _ => r) :=
    fun yields => Yields.after (expectKeyword_takes context _).front fun _ => yields
  unfold readKeyword
  refine .ite ?not (.ite ?null (.ite ?default (.ite ?counts (.ite ?unsigned (.ite ?zerofill
    (.ite ?primary (.ite ?unique (.ite ?references (.ite ?on (.ite ?collate (.ite ?character
      (.ite ?comment (.ite ?check (.fail _))))))))))))))
  case not =>
    intro same
    refine .expect fun u null => ?_
    apply Settles.of_word same <;> simp [settlingWords, Spells, ColumnOption.origin?, null]
  case primary =>
    intro same
    refine .expect fun u key => ?_
    apply Settles.of_word same <;> simp [settlingWords, Spells, ColumnOption.origin?, key]
  case null =>
    intro same
    refine .pure ?_
    apply Settles.of_word same <;> simp [settlingWords, Spells, ColumnOption.origin?]
  case counts =>
    intro either
    refine .pure ?_
    rcases Bool.or_eq_true_iff.1 either with same | same
    all_goals apply Settles.of_word same <;> simp [settlingWords, Spells, ColumnOption.origin?]
  case default =>
    refine silent (by decide +kernel) (Yields.after (readDefault_takesFront context) fun _ => ?_)
    exact plain (by simp [ColumnOption.IsNeutral]) rfl
  case unsigned => exact silent (by decide +kernel) (plain (by decide) rfl)
  case zerofill => exact silent (by decide +kernel) ignored
  case unique =>
    refine silent (by decide +kernel) (Yields.after (eatKeyword_takes "key").front fun _ => ?_)
    exact plain (by decide) rfl
  case references =>
    refine silent (by decide +kernel) (Yields.after (readTarget_takesFront context) fun _ => ?_)
    exact plain (by simp [ColumnOption.IsNeutral]) rfl
  case on =>
    exact silent (by decide +kernel) (keyword (Yields.after next_takesFront fun _ => skipped))
  case collate =>
    intro either
    rcases Bool.or_eq_true_iff.1 either with same | same
    all_goals exact silent (by decide +kernel) next same
  case character => exact silent (by decide +kernel) (keyword next)
  case comment => exact silent (by decide +kernel) next
  case check => exact silent (by decide +kernel) skipped

/-- The phrase of an option is spelled as the option demands. -/
theorem readOption_completes (context : String) (t : Token) :
    Completes t (readOption context t) := by
  unfold readOption
  split
  · rename_i body
    refine .of_names (fun _ _ => rfl) ?_
    rw [typeComment?]
    by_cases unsigned : Text.sameWord body "unsigned" = true
    · rw [if_pos unsigned, if_pos unsigned]
      exact Yields.pure ⟨by decide, rfl⟩
    · rw [if_neg unsigned, if_neg unsigned]
      cases TypeSpec.ofText body with
      | ok spec => exact Yields.pure ⟨by simp [ColumnOption.IsNeutral], rfl⟩
      | error e => exact Yields.pure ⟨by decide, rfl⟩
  · exact readKeyword_completes context _
  · exact .fail _

/-- A run of tokens, cut into the phrases that are read as one option each. -/
inductive Phrases (context : String) :
    List Token → List (List Token) → List ColumnOption → Prop
  | nil : Phrases context [] [] []
  | cons {t : Token} {phrase rest : List Token} {option : ColumnOption}
      {phrases : List (List Token)} {options : List ColumnOption}
      (read : (readOption context t).run (phrase ++ rest) = .ok (option, rest))
      (others : Phrases context rest phrases options) :
      Phrases context (t :: phrase ++ rest) ((t :: phrase) :: phrases) (option :: options)

/-- What is read of a clause are the options of its phrases. -/
theorem readOptions_eq_ok_iff {context : String} {ts : List Token} {options : List ColumnOption} :
    readOptions context ts = .ok options ↔ ∃ phrases, Phrases context ts phrases options := by
  constructor
  · intro h
    fun_induction readOptions context ts generalizing options with
    | case1 =>
      cases h
      exact ⟨[], .nil⟩
    | case2 => cases h
    | case3 t ts parsed read ih =>
      obtain ⟨others, readOthers, rfl⟩ := Except.exists_of_map_eq_ok h
      obtain ⟨phrases, rest⟩ := ih readOthers
      have run : (readOption context t).run ts = .ok (parsed.value, parsed.rest) :=
        run_eq_ok_iff.2 ⟨parsed, read, rfl, rfl⟩
      generalize parsed.value = value, parsed.rest = behind at run rest
      obtain ⟨phrase, rfl, -⟩ := (readOption_completes context t).run run
      exact ⟨_, .cons run rest⟩
  · rintro ⟨phrases, cut⟩
    induction cut with
    | nil => rw [readOptions]
    | @cons t phrase rest option phrases options read _ ih =>
      obtain ⟨parsed, done, rfl, behind⟩ := run_eq_ok_iff.1 read
      rw [List.cons_append, readOptions, done]
      dsimp only
      rw [behind, ih]
      rfl

theorem Phrases.settles {context : String} {ts : List Token} {phrases : List (List Token)}
    {options : List ColumnOption} (h : Phrases context ts phrases options) :
    List.Forall₂ Settles phrases options := by
  induction h with
  | nil => exact .nil
  | cons read _ ih =>
    obtain ⟨phrase, split, settles⟩ := (readOption_completes context _).run read
    rw [List.append_cancel_right_eq] at split
    subst split
    exact .cons settles ih

theorem Phrases.flatten_eq {context : String} {ts : List Token} {phrases : List (List Token)}
    {options : List ColumnOption} (h : Phrases context ts phrases options) :
    phrases.flatten = ts := by
  induction h with
  | nil => rfl
  | cons _ _ ih => rw [List.flatten_cons, ih]

/-- The types that the options of a column name stand in comments of its clause, in the same
order. -/
theorem sublist_origins {context : String} {ts : List Token} {options : List ColumnOption}
    (read : readOptions context ts = .ok options) :
    (options.filterMap ColumnOption.origin?).Sublist (typeComments ts) := by
  obtain ⟨phrases, cut⟩ := readOptions_eq_ok_iff.1 read
  rw [← cut.flatten_eq]
  have all := cut.settles
  clear read cut
  induction all with
  | nil => exact .slnil
  | @cons phrase option phrases options settles _ ih =>
    rw [List.flatten_cons, typeComments_append, List.filterMap_cons, settles.origin]
    cases phrase with
    | nil => exact ih
    | cons t phrase =>
      have behind := ih.trans (List.sublist_append_right (typeComments phrase) _)
      rw [List.head?_cons, Option.bind_some, typeComments, List.filterMap_cons]
      cases typeComment? t with
      | none => exact behind
      | some spec => exact behind.cons_cons spec

end Ddl

end SchemaShift
