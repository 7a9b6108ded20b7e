import SchemaShift.Files.Tree
import SchemaShift.Proofs.Except

/-!
# The entries of a folder

A path that leads to a folder leads to its entries when their names are put behind it, whether it
ends in a slash or not. This needs names that are steps of their own: not empty, without a slash,
and neither of the dots that stand for a folder.

Results:
* `Path.parts_join`: a name that is put behind a path is its last part.
* `FileTree.follow_concat`: one more step leads to an entry.
* `FileTree.find_join`: a path to a folder with a name behind it leads to the entry of that name.
-/

namespace SchemaShift

/-! ## Paths -/

namespace Path

theorem partsChars_ne_nil (cs : List Char) : partsChars cs ≠ [] := by
  unfold partsChars
  split
  · simp
  · simp
  · split <;> simp

theorem partsChars_append_slash (a b : List Char) :
    partsChars (a ++ '/' :: b) = partsChars a ++ partsChars b := by
  induction a with
  | nil => rfl
  | cons c a ih =>
    by_cases slash : c = '/'
    · subst slash
      rw [List.cons_append, partsChars, ih, partsChars, List.cons_append]
    · rw [List.cons_append, partsChars.eq_3 c _ slash, partsChars.eq_3 c _ slash, ih]
      cases parts : partsChars a with
      | nil => exact absurd parts (partsChars_ne_nil a)
      | cons part rest => rfl

theorem partsChars_of_not_mem {cs : List Char} (h : '/' ∉ cs) : partsChars cs = [cs] := by
  induction cs with
  | nil => rfl
  | cons c cs ih =>
    obtain ⟨first, others⟩ := not_or.1 (mt List.mem_cons.2 h)
    rw [partsChars.eq_3 c cs (Ne.symm first), ih others]

theorem not_isAbsolute_of_not_mem {name : String} (h : '/' ∉ name.toList) :
    isAbsolute name = false := by
  rw [isAbsolute, beq_eq_false_iff_ne]
  exact fun first => h (List.mem_of_head? first)

/-- A name that is put behind a path is its last part, and a slash at the end of the path stands in
front of it. -/
theorem parts_join {path name : String} (some : path ≠ "") (plain : '/' ∉ name.toList) :
    (parts (join path name) = parts path ++ [name]) ∨
      ∃ front, parts path = front ++ [""] ∧ parts (join path name) = front ++ [name] := by
  have last : (partsChars name.toList).map String.ofList = [name] := by
    rw [partsChars_of_not_mem plain, List.map_singleton, String.ofList_toList]
  unfold join
  rw [not_isAbsolute_of_not_mem plain, Bool.false_or, if_neg (by simpa using some)]
  split
  · rename_i slash
    right
    obtain ⟨front, text⟩ := List.getLast?_eq_some_iff.1 (beq_iff_eq.1 slash)
    refine ⟨(partsChars front).map String.ofList, ?_, ?_⟩
    · rw [parts, text, partsChars_append_slash, List.map_append]
      rfl
    · rw [parts, String.toList_append, text, List.append_assoc, List.singleton_append,
        partsChars_append_slash, List.map_append, last]
  · left
    have text : (path ++ "/" ++ name).toList = path.toList ++ '/' :: name.toList := by simp
    rw [parts, text, partsChars_append_slash, List.map_append, last, parts]

/-- A path with a name behind it starts where the path does. -/
theorem isAbsolute_join {path name : String} (some : path ≠ "") (plain : '/' ∉ name.toList) :
    isAbsolute (join path name) = isAbsolute path ∧ join path name ≠ "" := by
  obtain ⟨more, joined⟩ : ∃ more, (join path name).toList = path.toList ++ more := by
    unfold join
    rw [not_isAbsolute_of_not_mem plain, Bool.false_or, if_neg (by simpa using some)]
    split <;> simp
  have chars : path.toList ≠ [] := by simpa using some
  constructor
  · rw [isAbsolute, joined, List.head?_append_of_ne_nil _ chars, isAbsolute]
  · rw [← String.toList_inj.ne, joined]
    simp [some]

end Path

/-! ## Folders -/

namespace FileTree

/-- A name that an entry of a folder can have. -/
def IsEntryName (name : String) : Prop :=
  name ≠ "" ∧ name ≠ "." ∧ name ≠ ".." ∧ '/' ∉ name.toList

instance (name : String) : Decidable (IsEntryName name) := inferInstanceAs (Decidable (_ ∧ _))

/-- The entries of a folder have names, and each has its own. -/
structure WellNamed (entries : List (String × FileTree)) : Prop where
  names : ∀ entry ∈ entries, IsEntryName entry.1
  once : (entries.map Prod.fst).Nodup

/-- What a name stands for in a folder. -/
def entryOf (entries : List (String × FileTree)) (name : String) : Except FileFault FileTree :=
  match entries.lookup name with
  | some node => .ok node
  | none => .error .missing

theorem WellNamed.lookup_eq_some_iff {entries : List (String × FileTree)} (h : WellNamed entries)
    {name : String} {node : FileTree} :
    entries.lookup name = some node ↔ (name, node) ∈ entries := by
  obtain ⟨-, once⟩ := h
  induction entries with
  | nil => simp
  | cons entry entries ih =>
    obtain ⟨other, found⟩ := entry
    obtain ⟨apart, once⟩ := List.nodup_cons.1 once
    rw [List.lookup_cons, List.mem_cons]
    by_cases same : name = other
    · subst same
      have gone : (name, node) ∉ entries := fun mem =>
        apart (List.mem_map.2 ⟨_, mem, rfl⟩)
      simp [gone, eq_comm]
    · have differs : (name == other) = false := beq_eq_false_iff_ne.2 same
      simp [differs, ih once, same]

/-- A step that is none. -/
theorem follow_stay {step : String} (h : step = "" ∨ step = ".") (above : List FileTree)
    (entries : List (String × FileTree)) (steps : List String) :
    follow above (.folder entries) (step :: steps) = follow above (.folder entries) steps := by
  cases above <;> rw [follow, if_pos h]

/-- A step to an entry. -/
theorem follow_down {step : String} (h : ¬ (step = "" ∨ step = ".")) (down : step ≠ "..")
    (above : List FileTree) (entries : List (String × FileTree)) (steps : List String) :
    follow above (.folder entries) (step :: steps) =
      entryOf entries step >>= fun next => follow (.folder entries :: above) next steps := by
  rw [entryOf]
  cases above <;> rw [follow, if_neg h, if_neg down] <;> cases entries.lookup step <;> rfl

/-- Following steps and then more is going on from where the steps lead; `around` are the folders
around that place. -/
theorem exists_follow_append (steps : List String) (above : List FileTree) (here : FileTree) :
    ∃ around, ∀ more, follow above here (steps ++ more) =
      follow above here steps >>= fun there => follow around there more := by
  induction steps generalizing above here with
  | nil => exact ⟨above, fun more => rfl⟩
  | cons step steps ih =>
    cases here with
    | file bytes => exact ⟨[], fun more => by rw [List.cons_append, follow, follow]; rfl⟩
    | folder inside =>
      by_cases still : step = "" ∨ step = "."
      · obtain ⟨around, onward⟩ := ih above (.folder inside)
        refine ⟨around, fun more => ?_⟩
        rw [List.cons_append, follow_stay still, follow_stay still, onward]
      by_cases up : step = ".."
      · subst up
        cases above with
        | nil => exact ⟨[], fun more => rfl⟩
        | cons outer above => exact ih above outer
      · cases found : entryOf inside step with
        | error fault =>
          refine ⟨[], fun more => ?_⟩
          rw [List.cons_append, follow_down still up, follow_down still up, found]
          rfl
        | ok next =>
          obtain ⟨around, onward⟩ := ih (.folder inside :: above) next
          refine ⟨around, fun more => ?_⟩
          rw [List.cons_append, follow_down still up, follow_down still up, found]
          exact onward more

/-- One more step leads from a folder to an entry. -/
theorem follow_concat {name : String} (h : IsEntryName name)
    {entries : List (String × FileTree)} {steps : List String} {above : List FileTree}
    {here : FileTree} (reached : follow above here steps = .ok (.folder entries)) :
    follow above here (steps ++ [name]) = entryOf entries name := by
  obtain ⟨some, dot, dots, -⟩ := h
  obtain ⟨around, onward⟩ := exists_follow_append steps above here
  rw [onward, reached]
  show follow around (.folder entries) [name] = _
  rw [follow_down (not_or.2 ⟨some, dot⟩) dots]
  cases entryOf entries name <;> rfl

/-- A slash at the end of a path leads nowhere else. -/
theorem follow_of_concat_blank {steps : List String} {above : List FileTree} {here there : FileTree}
    (reached : follow above here (steps ++ [""]) = .ok there) :
    follow above here steps = .ok there := by
  obtain ⟨around, onward⟩ := exists_follow_append steps above here
  rw [onward] at reached
  obtain ⟨place, led, stays⟩ := Except.bind_eq_ok_iff.1 reached
  rw [led]
  cases place with
  | file bytes => cases stays
  | folder inside => exact stays

/-- A path to a folder with a name behind it leads to the entry of that name. -/
theorem find_join {root : FileTree} {path name : String} {entries : List (String × FileTree)}
    (here : root.folder? path = some entries) (h : IsEntryName name) :
    root.find (Path.join path name) = entryOf entries name := by
  have reached : root.find path = .ok (.folder entries) := by
    unfold folder? at here
    split at here
    · rename_i inside found
      cases here
      exact found
    · cases here
  unfold find at reached
  split at reached
  · cases reached
  rename_i relative
  rw [Bool.not_eq_true, Bool.or_eq_false_iff] at relative
  obtain ⟨some, relative⟩ := relative
  have some : path ≠ "" := by simpa using some
  obtain ⟨sameStart, joined⟩ := Path.isAbsolute_join some h.2.2.2
  rw [find, if_neg (by simp [sameStart, relative, joined])]
  rcases Path.parts_join some h.2.2.2 with parts | ⟨front, split, parts⟩
  · rw [parts]
    exact follow_concat h reached
  · rw [parts]
    rw [split] at reached
    exact follow_concat h (follow_of_concat_blank reached)

end FileTree

end SchemaShift
