import SchemaShift.Yaml.Quoted
import SchemaShift.Yaml.Written

/-!
# Quoted texts are read back

Between double quotes every text can be written: what is not written as itself is written by an
escape, so the only gaps are spaces, and these end no line. Between single quotes this holds for
texts of one line.

Results:
* `Escape.numbered?_hexText`: a character is read back from the digits of its code.
* `Quoted.read_doubleText`: a text between double quotes is read back, whatever follows.
* `Quoted.read_singleText`: so is a text of one line between single quotes.
-/

namespace SchemaShift.Yaml

/-! ## Digits in base sixteen -/

namespace Escape

/-- The value of digits that follow others. -/
private def digitsFrom (value : Nat) (cs : List Char) : Option Nat :=
  cs.foldlM (fun value c => (Number.digitValue? 16 c).map (value * 16 + ·)) value

private theorem digitsFrom_append (value : Nat) (cs ds : List Char) :
    digitsFrom value (cs ++ ds) = (digitsFrom value cs).bind fun v => digitsFrom v ds :=
  List.foldlM_append

private theorem digitsFrom_digitChar {d : Nat} (h : d < 16) (value : Nat) :
    digitsFrom value [d.digitChar.toUpper] = some (value * 16 + d) := by
  have digit : ∀ d < 16, Number.digitValue? 16 d.digitChar.toUpper = some d := by decide
  rw [digitsFrom, List.foldlM_cons, digit d h]
  rfl

private theorem digitsFrom_zeros (n : Nat) : digitsFrom 0 (List.replicate n '0') = some 0 := by
  induction n with
  | zero => rfl
  | succ n ih => exact ih

private theorem digitsFrom_toDigits (n : Nat) :
    digitsFrom 0 ((Nat.toDigits 16 n).map Char.toUpper) = some n := by
  induction n using Nat.base_induction 16 (by decide) with
  | single d hd =>
    rw [Nat.toDigits_of_lt_base hd, List.map_singleton, digitsFrom_digitChar hd, Nat.zero_mul,
      Nat.zero_add]
  | digit n d hd hn ih =>
    rw [← Nat.toDigits_append_toDigits (by decide) hn hd, List.map_append, digitsFrom_append, ih,
      Option.bind_some, Nat.toDigits_of_lt_base hd, List.map_singleton, digitsFrom_digitChar hd,
      Nat.mul_comm]

theorem length_hexText {width n : Nat} (positive : 0 < width) (small : n < Nat.pow 16 width) :
    (hexText width n).length = width := by
  have most := (Nat.length_toDigits_le_iff (by decide) positive).2 small
  simp only [hexText, List.length_append, List.length_replicate, List.length_map]
  omega

/-- A character is read back from the digits of its code. -/
theorem numbered?_hexText (width : Nat) (c : Char) :
    numbered? (hexText width c.toNat) = some c := by
  have code : Number.natural? 16 (hexText width c.toNat) = some c.toNat := by
    have filled : (hexText width c.toNat).isEmpty = false := by
      simp [hexText, Nat.toDigits_ne_nil]
    have value : digitsFrom 0 (hexText width c.toNat) = some c.toNat := by
      dsimp only [hexText]
      rw [digitsFrom_append, digitsFrom_zeros, Option.bind_some, digitsFrom_toDigits]
    rw [Number.natural?, filled]
    exact value
  have valid : c.toNat.isValidChar := c.valid
  rw [numbered?, code]
  simp [valid]

end Escape

namespace Quoted

/-! ## Pieces -/

/-- What is read behind a character that was written so. -/
def behind (c : Char) (written : Nat) (read : List Char × Nat) : List Char × Nat :=
  (c :: read.1, written + read.2)

/-- Whether a gap in front of a text ends no line. -/
def StaysOnLine (cs : List Char) : Prop := ∀ c ∈ cs.takeWhile isGap, isBreak c = false

theorem staysOnLine_of_not_isGap {c : Char} (h : isGap c = false) (cs : List Char) :
    StaysOnLine (c :: cs) := by
  intro d hd
  rw [List.takeWhile_cons_of_neg (by simp [h])] at hd
  cases hd

theorem staysOnLine_cons {c : Char} {cs : List Char} (h : isBreak c = false)
    (line : StaysOnLine cs) : StaysOnLine (c :: cs) := by
  intro d hd
  rw [List.takeWhile_cons] at hd
  split at hd
  · rcases List.mem_cons.1 hd with rfl | later
    · exact h
    · exact line d later
  · cases hd

variable {quote c : Char} {rest : List Char}

/-- A gap within a line is read as itself. -/
theorem read_gap (other : c ≠ quote) (gap : isSpacing c = true) (line : StaysOnLine rest) :
    read quote (c :: rest) =
      (read quote (rest.dropWhile isGap)).map fun (text, width) =>
        (c :: rest.takeWhile isGap ++ text, 1 + (rest.takeWhile isGap).length + width) := by
  have none : ∀ d ∈ c :: rest.takeWhile isGap, isBreak d = false := by
    intro d hd
    rcases List.mem_cons.1 hd with rfl | later
    · exact not_isBreak_of_isSpacing gap
    · exact line d later
  have stays : endsLine (c :: rest.takeWhile isGap) = false := by
    rw [endsLine, List.getLast?_eq_some_getLast (by simp), Option.map_some, Option.getD_some]
    exact none _ (List.getLast_mem _)
  have letter : ¬(quote = '"' ∧ c = '\\') := by
    rintro ⟨-, rfl⟩
    cases gap
  have piece : piece? quote c rest =
      some (.text (c :: rest.takeWhile isGap) (rest.takeWhile isGap).length) := by
    rw [piece?, if_neg other, if_neg letter, isGap, gap, Bool.true_or, if_pos rfl, gap?]
    simp only [stays, Bool.false_and, Bool.false_eq_true, if_false, foldGap_of_not_break none,
      List.length_cons, Nat.add_sub_cancel]
  have left : rest.drop (rest.takeWhile isGap).length = rest.dropWhile isGap := calc
    _ = (rest.takeWhile isGap ++ rest.dropWhile isGap).drop (rest.takeWhile isGap).length := by
      rw [List.takeWhile_append_dropWhile]
    _ = rest.dropWhile isGap := List.drop_left
  rw [read, piece]
  simp only [left]

/-- So is one character of it. -/
theorem read_spacing (mark : isGap quote = false) (gap : isSpacing c = true)
    (line : StaysOnLine rest) :
    read quote (c :: rest) = (read quote rest).map (behind c 1) := by
  have other : ∀ {d : Char}, isSpacing d = true → d ≠ quote := by
    rintro d hd rfl
    simp [isGap, hd] at mark
  rw [read_gap (other gap) gap line]
  cases rest with
  | nil => rfl
  | cons d rest =>
    cases hd : isGap d with
    | false =>
      rw [List.takeWhile_cons_of_neg (by simp [hd]), List.dropWhile_cons_of_neg (by simp [hd])]
      rfl
    | true =>
      have more : isSpacing d = true := by
        have within := line d (by rw [List.takeWhile_cons_of_pos hd]; exact List.mem_cons_self)
        simpa [isGap, within] using hd
      have rest_line : StaysOnLine rest := fun e he =>
        line e (by rw [List.takeWhile_cons_of_pos hd]; exact List.mem_cons_of_mem _ he)
      rw [read_gap (other more) more rest_line, List.takeWhile_cons_of_pos hd,
        List.dropWhile_cons_of_pos hd, Option.map_map]
      congr 1
      funext ⟨text, width⟩
      simp only [Function.comp_apply, behind, List.length_cons, List.cons_append, Prod.mk.injEq,
        true_and]
      omega

/-- A character that means nothing else is read as itself. -/
theorem read_cons (other : c ≠ quote) (solid : isGap c = false) (bare : ¬(quote = '"' ∧ c = '\\')) :
    read quote (c :: rest) = (read quote rest).map (behind c 1) := by
  have piece : piece? quote c rest = some (.text [c] 0) := by
    rw [piece?, if_neg other, if_neg bare, solid]
    rfl
  rw [read, piece]
  rfl

/-- An escape is read as the character it stands for. -/
theorem read_escape (code : List Char)
    (escape : escape? (code ++ rest) = some (.text [c] code.length)) :
    read '"' ('\\' :: (code ++ rest)) = (read '"' rest).map (behind c (code.length + 1)) := by
  have piece : piece? '"' '\\' (code ++ rest) = some (.text [c] code.length) := by
    rw [piece?, if_neg (by decide), if_pos ⟨rfl, rfl⟩, escape]
  rw [read, piece]
  simp only [List.drop_left, Nat.add_comm 1]
  rfl

/-! ## Double quotes -/

theorem escape?_letter {letter : Char} (h : Escape.letter? c = some letter) :
    escape? (letter :: rest) = some (.text [c] 1) := by
  have named := Escape.named?_letter? h
  have single : isBreak letter = false ∧ Escape.width? letter = none := by
    revert h
    simp only [Escape.letter?]
    generalize c.toNat = n
    split <;> simp only [Option.some.injEq, reduceCtorEq, false_implies] <;> rintro rfl <;> decide
  simp only [escape?, single, named]
  rfl

theorem escape?_digits (letter : Char) {width : Nat} (apart : isBreak letter = false)
    (given : Escape.width? letter = some width) (positive : 0 < width)
    (small : c.toNat < Nat.pow 16 width) :
    escape? (letter :: hexText width c.toNat ++ rest) =
      some (.text [c] (letter :: hexText width c.toNat).length) := by
  have length := Escape.length_hexText positive small
  have digits : (hexText width c.toNat ++ rest).take width = hexText width c.toNat :=
    List.take_left' length
  rw [List.cons_append, escape?]
  simp only [apart, given, digits, length, Escape.numbered?_hexText, Bool.false_eq_true, if_false,
    if_true, Option.map_some, List.length_cons, Nat.add_comm 1]

/-- A character is read back from the way it is written between double quotes. -/
theorem read_escaped (line : StaysOnLine rest) :
    read '"' (escaped c ++ rest) = (read '"' rest).map (behind c (escaped c).length) := by
  rw [escaped]
  split
  · rename_i itself
    simp only [Bool.and_eq_true, bne_iff_ne, Bool.not_eq_true'] at itself
    obtain ⟨⟨⟨-, within⟩, apart⟩, bare⟩ := itself
    cases gap : isSpacing c with
    | true => exact read_spacing (by decide) gap line
    | false => exact read_cons apart (by rw [isGap, gap, within]; rfl) (fun h => bare h.2)
  · split
    · rename_i letter short
      exact read_escape [letter] (escape?_letter short)
    split
    · rename_i byte
      have small : c.toNat < Nat.pow 16 2 := Nat.lt_of_le_of_lt byte (by decide)
      exact read_escape _ (escape?_digits 'x' (by decide) rfl (by decide) small)
    split
    · rename_i word
      have small : c.toNat < Nat.pow 16 4 := Nat.lt_of_le_of_lt word (by decide)
      exact read_escape _ (escape?_digits 'u' (by decide) rfl (by decide) small)
    · have small : c.toNat < Nat.pow 16 8 := c.val.toNat_lt
      exact read_escape _ (escape?_digits 'U' (by decide) rfl (by decide) small)

theorem staysOnLine_escaped (c : Char) (line : StaysOnLine rest) :
    StaysOnLine (escaped c ++ rest) := by
  rw [escaped]
  split
  · rename_i itself
    simp only [Bool.and_eq_true, Bool.not_eq_true'] at itself
    exact staysOnLine_cons itself.1.1.2 line
  · have backslash : isGap '\\' = false := by decide
    split
    · exact staysOnLine_of_not_isGap backslash _
    split
    · exact staysOnLine_of_not_isGap backslash _
    split <;> exact staysOnLine_of_not_isGap backslash _

theorem staysOnLine_flatMap_escaped (cs rest : List Char) :
    StaysOnLine (cs.flatMap escaped ++ '"' :: rest) := by
  induction cs with
  | nil => exact staysOnLine_of_not_isGap (by decide) rest
  | cons c cs ih =>
    rw [List.flatMap_cons, List.append_assoc]
    exact staysOnLine_escaped c ih

theorem read_flatMap_escaped (cs rest : List Char) :
    read '"' (cs.flatMap escaped ++ '"' :: rest) = some (cs, (cs.flatMap escaped).length + 1) := by
  induction cs with
  | nil =>
    have close : piece? '"' '"' rest = some .close := by simp [piece?]
    rw [List.flatMap_nil, List.nil_append, read, close]
    rfl
  | cons c cs ih =>
    rw [List.flatMap_cons, List.append_assoc, read_escaped (staysOnLine_flatMap_escaped cs rest),
      ih]
    simp only [Option.map_some, behind, List.length_append, Nat.add_assoc]

/-- A text between double quotes is read back, whatever follows. -/
theorem read_doubleText (cs rest : List Char) :
    ∃ written, doubleText cs = '"' :: written ∧
      read '"' (written ++ rest) = some (cs, written.length) := by
  refine ⟨cs.flatMap escaped ++ ['"'], rfl, ?_⟩
  rw [List.append_assoc, List.length_append]
  exact read_flatMap_escaped cs rest

example : doubleText "a\tb é".toList = "\"a\\tb é\"".toList := by decide +kernel

/-! ## Single quotes -/

/-- A character as it is written between single quotes. -/
def doubled (c : Char) : List Char := if c = '\'' then ['\'', '\''] else [c]

theorem read_doubled (within : isBreak c = false) (line : StaysOnLine rest) :
    read '\'' (doubled c ++ rest) = (read '\'' rest).map (behind c (doubled c).length) := by
  rw [doubled]
  split
  · rename_i same
    subst same
    have piece : piece? '\'' '\'' ('\'' :: rest) = some (.text ['\''] 1) := by simp [piece?]
    simp only [List.cons_append, List.nil_append]
    rw [read, piece]
    rfl
  · rename_i other
    cases gap : isSpacing c with
    | true => exact read_spacing (by decide) gap line
    | false => exact read_cons other (by rw [isGap, gap, within]; rfl) (fun h => by cases h.1)

theorem staysOnLine_flatMap_doubled {cs : List Char} (within : ∀ c ∈ cs, isBreak c = false)
    (rest : List Char) : StaysOnLine (cs.flatMap doubled ++ '\'' :: rest) := by
  induction cs with
  | nil => exact staysOnLine_of_not_isGap (by decide) rest
  | cons c cs ih =>
    have line := ih fun d hd => within d (List.mem_cons_of_mem c hd)
    rw [List.flatMap_cons, List.append_assoc, doubled]
    split
    · exact staysOnLine_of_not_isGap (by decide) _
    · exact staysOnLine_cons (within c List.mem_cons_self) line

theorem read_flatMap_doubled {cs rest : List Char} (within : ∀ c ∈ cs, isBreak c = false)
    (ended : rest.head? ≠ some '\'') :
    read '\'' (cs.flatMap doubled ++ '\'' :: rest) =
      some (cs, (cs.flatMap doubled).length + 1) := by
  induction cs with
  | nil =>
    have close : piece? '\'' '\'' rest = some .close := by simp [piece?, ended]
    rw [List.flatMap_nil, List.nil_append, read, close]
    rfl
  | cons c cs ih =>
    have later : ∀ d ∈ cs, isBreak d = false := fun d hd => within d (List.mem_cons_of_mem c hd)
    rw [List.flatMap_cons, List.append_assoc,
      read_doubled (within c List.mem_cons_self) (staysOnLine_flatMap_doubled later rest), ih later]
    simp only [Option.map_some, behind, List.length_append, Nat.add_assoc]

theorem indentLines_of_not_break {indent : Nat} {cs : List Char}
    (within : ∀ c ∈ cs, isBreak c = false) : indentLines indent false cs = cs := by
  induction cs with
  | nil => rfl
  | cons c cs ih =>
    rw [indentLines, within c List.mem_cons_self,
      ih fun d hd => within d (List.mem_cons_of_mem c hd)]
    rfl

/-- A text of one line between single quotes is read back, whatever follows but another quote. -/
theorem read_singleText (indent : Nat) {cs rest : List Char}
    (within : ∀ c ∈ cs, isBreak c = false) (ended : rest.head? ≠ some '\'') :
    ∃ written, singleText indent cs = '\'' :: written ∧
      read '\'' (written ++ rest) = some (cs, written.length) := by
  have stays : endsLine cs = false := by
    cases last : cs.getLast? with
    | none => rw [endsLine, last]; rfl
    | some c => rw [endsLine, last]; exact within c (List.mem_of_getLast? last)
  refine ⟨cs.flatMap doubled ++ ['\''], ?_, ?_⟩
  · rw [singleText, indentLines_of_not_break within, stays]
    show '\'' :: cs.flatMap doubled ++ [] ++ ['\''] = '\'' :: (cs.flatMap doubled ++ ['\''])
    rw [List.append_nil, List.cons_append]
  · rw [List.append_assoc, List.length_append]
    exact read_flatMap_doubled within ended

end Quoted

end SchemaShift.Yaml
