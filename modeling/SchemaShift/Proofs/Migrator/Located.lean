import Mathlib.Data.List.Pairwise
import SchemaShift.Proofs.Files.Folder
import SchemaShift.Proofs.Migrator.Discovery

/-!
# Discovered migrations are located

The names of migrations are found by taking extensions off the names of files, and the file of a
migration is found by putting extensions behind its name. Both agree on every folder, whatever else
it holds: folders that are named like files of migrations, files without an extension or with
several, and names with points in them.

Results:
* `nameOf?_eq_some_iff`: the files that a migration can have.
* `holdsFiles_of_repeated?`, `eq_of_isFileOf`: a name stands twice in a row only if it has two
  files, and if none does, each has one.
* `load_eq_ofBytes`: the bytes of the only file of a migration are read.
* `discover_located`: what is discovered in a folder, and that it is read from there.
-/

namespace SchemaShift

open FileTree (WellNamed IsEntryName entryOf)

/-! ## Extensions -/

/-- The stem and the extension of a file name stand around its last point. -/
theorem Path.splitExtension?_eq_some_iff {name stem extension : String} :
    splitExtension? name = some (stem, extension) ↔
      name = stem ++ "." ++ extension ∧ stem ≠ "" ∧ '.' ∉ extension.toList := by
  have around : ∀ before after : List Char, '.' ∉ after →
      splitExtension? (String.ofList (before ++ '.' :: after)) =
        if before = [] then none else some (String.ofList before, String.ofList after) := by
    intro before after last
    have plain : ∀ c ∈ after.reverse, (c != '.') = true := by
      rintro c mem
      rw [bne_iff_ne]
      rintro rfl
      exact last (List.mem_reverse.1 mem)
    have taken : ((before ++ '.' :: after).reverse.takeWhile (· != '.')).reverse = after := by
      rw [List.reverse_append, List.reverse_cons, List.append_assoc,
        List.takeWhile_append_of_pos plain]
      simp
    have length : (String.ofList (before ++ '.' :: after)).length - after.length - 1 =
        before.length := by
      rw [String.length_ofList, List.length_append, List.length_cons]
      omega
    rw [splitExtension?, String.toList_ofList, taken, length, List.take_left]
    cases before <;> simp
  constructor
  · intro split
    have point : '.' ∈ name.toList := by
      by_contra none
      simp [splitExtension?, none] at split
    obtain ⟨after, before, chars, last⟩ :=
      List.eq_append_cons_of_mem (List.mem_reverse.2 point)
    have chars : name = String.ofList (before.reverse ++ '.' :: after.reverse) := by
      rw [← String.toList_inj, String.toList_ofList, ← List.reverse_inj, chars]
      simp
    have last : '.' ∉ after.reverse := mt List.mem_reverse.1 last
    rw [chars, around _ _ last] at split
    split at split
    · cases split
    · rename_i some
      cases split
      refine ⟨?_, by simpa using some, by simpa using last⟩
      rw [chars, ← String.toList_inj]
      simp
  · rintro ⟨rfl, some, last⟩
    have chars : stem ++ "." ++ extension =
        String.ofList (stem.toList ++ '.' :: extension.toList) := by
      rw [← String.toList_inj]
      simp
    rw [chars, around _ _ last, if_neg (by simpa using some), String.ofList_toList,
      String.ofList_toList]

example : Path.splitExtension? ".a.b" = some (".a", "b") ∧ Path.splitExtension? ".a" = none := by
  decide +kernel

namespace MigrationFile

/-! ## Names -/

/-- The name of a migration: digits, an underscore and something more. -/
def IsMigrationName (name : String) : Prop :=
  ∃ digits rest, name.toList = digits ++ '_' :: rest ∧ digits ≠ [] ∧
    (∀ c ∈ digits, c.isDigit = true) ∧ rest ≠ []

/-- The file that a migration has under either extension. -/
def IsFileOf (name file : String) : Prop := file = name ++ ".yaml" ∨ file = name ++ ".yml"

theorem isName_iff {name : String} : isName name.toList = true ↔ IsMigrationName name := by
  rw [isName, Bool.and_eq_true, Number.isDigits, Bool.and_eq_true, List.all_eq_true,
    decide_eq_true_iff]
  constructor
  · rintro ⟨⟨some, digits⟩, more⟩
    have split := List.takeWhile_append_dropWhile (p := (· != '_')) (l := name.toList)
    cases behind : name.toList.dropWhile (· != '_') with
    | nil => simp [behind] at more
    | cons c rest =>
      have stop : c = '_' := by
        have head := List.head?_dropWhile_not (· != '_') name.toList
        simpa [behind] using head
      rw [behind, stop] at split
      refine ⟨_, rest, split.symm, by simpa using some, digits, ?_⟩
      rintro rfl
      simp [behind] at more
  · rintro ⟨digits, rest, chars, some, all, more⟩
    have plain : ∀ c ∈ digits, (c != '_') = true := by
      intro c mem
      rw [bne_iff_ne]
      rintro rfl
      exact absurd (all _ mem) (by decide)
    have taken : name.toList.takeWhile (· != '_') = digits := by
      rw [chars, List.takeWhile_append_of_pos plain]
      simp
    have dropped : name.toList.dropWhile (· != '_') = '_' :: rest := by
      rw [chars, List.dropWhile_append_of_pos plain]
      simp
    rw [taken, dropped]
    refine ⟨⟨by simpa using some, all⟩, ?_⟩
    have := List.length_pos_iff.2 more
    rw [List.length_cons]
    omega

theorem IsMigrationName.ne_empty {name : String} (h : IsMigrationName name) : name ≠ "" := by
  obtain ⟨digits, rest, chars, -⟩ := h
  rintro rfl
  simp at chars

/-- The files that a migration can have. -/
theorem nameOf?_eq_some_iff {file name : String} :
    nameOf? file = some name ↔ IsMigrationName name ∧ IsFileOf name file := by
  constructor
  · intro named
    unfold nameOf? at named
    split at named
    · rename_i stem extension found
      split at named
      · rename_i both
        cases named
        obtain ⟨known, valid⟩ := Bool.and_eq_true_iff.1 both
        obtain ⟨rfl, -, -⟩ := Path.splitExtension?_eq_some_iff.1 found
        refine ⟨isName_iff.1 valid, ?_⟩
        simp only [extensions, List.contains_cons, List.contains_nil, Bool.or_false,
          Bool.or_eq_true, beq_iff_eq] at known
        rcases known with rfl | rfl
        · exact .inl (String.append_assoc ..)
        · exact .inr (String.append_assoc ..)
      · cases named
    · cases named
  · rintro ⟨valid, of⟩
    have found : ∀ extension ∈ extensions, nameOf? (name ++ "." ++ extension) = some name := by
      intro extension known
      have last : '.' ∉ extension.toList := by
        revert extension
        decide
      rw [nameOf?, Path.splitExtension?_eq_some_iff.2 ⟨rfl, valid.ne_empty, last⟩]
      simp [known, isName_iff.2 valid]
    rcases of with rfl | rfl
    · simpa [String.append_assoc] using found "yaml" (by decide)
    · simpa [String.append_assoc] using found "yml" (by decide)

/-! ## Files -/

section

variable {entries : List (String × FileTree)}

/-- A folder holds a file of the given name. -/
def HoldsFile (entries : List (String × FileTree)) (file : String) : Prop :=
  ∃ bytes, (file, FileTree.file bytes) ∈ entries

/-- The migration that an entry of a folder is a file of. -/
def migrationIn? (entry : String × FileTree) : Option String :=
  match entry.2 with
  | .file _ => nameOf? entry.1
  | .folder _ => none

theorem namesIn_eq (entries : List (String × FileTree)) :
    namesIn entries =
      (entries.filterMap migrationIn?).mergeSort fun a b => decide (a ≤ b) := rfl

theorem migrationIn?_eq_some_iff {file name : String} {node : FileTree} :
    migrationIn? (file, node) = some name ↔
      IsMigrationName name ∧ IsFileOf name file ∧ ∃ bytes, node = .file bytes := by
  cases node with
  | file bytes => simp [migrationIn?, nameOf?_eq_some_iff]
  | folder inside => simp [migrationIn?]

/-- The names of migrations in a folder are those that have a file. -/
theorem mem_namesIn_iff {name : String} :
    name ∈ namesIn entries ↔ IsMigrationName name ∧
      (HoldsFile entries (name ++ ".yaml") ∨ HoldsFile entries (name ++ ".yml")) := by
  rw [namesIn_eq, List.mem_mergeSort, List.mem_filterMap]
  constructor
  · rintro ⟨⟨file, node⟩, mem, named⟩
    obtain ⟨valid, of, bytes, rfl⟩ := migrationIn?_eq_some_iff.1 named
    rcases of with rfl | rfl
    · exact ⟨valid, .inl ⟨bytes, mem⟩⟩
    · exact ⟨valid, .inr ⟨bytes, mem⟩⟩
  · rintro ⟨valid, ⟨bytes, mem⟩ | ⟨bytes, mem⟩⟩
    · exact ⟨_, mem, migrationIn?_eq_some_iff.2 ⟨valid, .inl rfl, bytes, rfl⟩⟩
    · exact ⟨_, mem, migrationIn?_eq_some_iff.2 ⟨valid, .inr rfl, bytes, rfl⟩⟩

/-- A name that stands twice in a row. -/
theorem exists_append_of_repeated? {names : List String} {name : String}
    (h : repeated? names = some name) :
    ∃ before behind, names = before ++ name :: name :: behind := by
  induction names with
  | nil => cases h
  | cons a rest ih =>
    cases rest with
    | nil => cases h
    | cons b rest =>
      rw [repeated?] at h
      split at h
      · rename_i same
        cases h
        exact ⟨[], rest, by rw [← same, List.nil_append]⟩
      · obtain ⟨before, behind, split⟩ := ih h
        exact ⟨a :: before, behind, by rw [split, List.cons_append]⟩

/-- A name that stands twice in a row has two files. -/
theorem holdsFiles_of_repeated? (named : WellNamed entries) {name : String}
    (h : repeated? (namesIn entries) = some name) :
    IsMigrationName name ∧ HoldsFile entries (name ++ ".yaml") ∧
      HoldsFile entries (name ++ ".yml") := by
  obtain ⟨before, behind, split⟩ := exists_append_of_repeated? h
  have found : name ∈ namesIn entries := by simp [split]
  have valid := (mem_namesIn_iff.1 found).1
  by_contra lacks
  have one : ¬ (HoldsFile entries (name ++ ".yaml") ∧ HoldsFile entries (name ++ ".yml")) :=
    fun both => lacks ⟨valid, both⟩
  -- With one file at most, no two entries are files of the name.
  have apart : (entries.filterMap migrationIn?).Pairwise fun a b => ¬ (a = name ∧ b = name) := by
    rw [List.pairwise_filterMap]
    refine (List.pairwise_map.1 named.once).imp_of_mem ?_
    rintro ⟨file, node⟩ ⟨file', node'⟩ mem mem' differ a ha b hb ⟨rfl, rfl⟩
    obtain ⟨-, of, bytes, rfl⟩ := migrationIn?_eq_some_iff.1 ha
    obtain ⟨-, of', bytes', rfl⟩ := migrationIn?_eq_some_iff.1 hb
    rcases of with rfl | rfl <;> rcases of' with rfl | rfl
    · exact differ rfl
    · exact one ⟨⟨bytes, mem⟩, ⟨bytes', mem'⟩⟩
    · exact one ⟨⟨bytes', mem'⟩, ⟨bytes, mem⟩⟩
    · exact differ rfl
  have sorted := apart.perm (List.mergeSort_perm _ fun a b => decide (a ≤ b)).symm
    fun both swapped => both swapped.symm
  rw [← namesIn_eq, split, List.pairwise_append, List.pairwise_cons] at sorted
  exact sorted.2.1.1 name (by simp) ⟨rfl, rfl⟩

/-- Where names are in strict order, each has one file. -/
theorem eq_of_isFileOf (sorted : (namesIn entries).Pairwise (· < ·)) {name : String}
    (valid : IsMigrationName name) {file file' : String} (of : IsFileOf name file)
    (of' : IsFileOf name file') (holds : HoldsFile entries file)
    (holds' : HoldsFile entries file') : file = file' := by
  obtain ⟨bytes, mem⟩ := holds
  obtain ⟨bytes', mem'⟩ := holds'
  have once : (entries.filterMap migrationIn?).Nodup := by
    rw [← (List.mergeSort_perm _ fun a b => decide (a ≤ b)).nodup_iff]
    exact sorted.imp fun less same => absurd (same ▸ less) (String.lt_irrefl _)
  have apart := List.pairwise_filterMap.1 once
  have symmetric : Std.Symm fun a b : String × FileTree => ∀ name, migrationIn? a = some name →
      ∀ name', migrationIn? b = some name' → name ≠ name' :=
    ⟨fun _ _ h name' hb name ha => (h name ha name' hb).symm⟩
  by_contra differ
  have entry := migrationIn?_eq_some_iff.2 ⟨valid, of, bytes, rfl⟩
  have entry' := migrationIn?_eq_some_iff.2 ⟨valid, of', bytes', rfl⟩
  refine apart.forall mem mem' (fun same => differ ?_) name entry name entry' rfl
  exact congrArg Prod.fst same

/-! ## Reading -/

/-- The migration that the bytes of a file stand for. -/
def ofBytes (name : String) (bytes : List UInt8) : Except Error MigrationDocument :=
  match Text.ofUtf8? bytes with
  | none => .error (.resolution name (.unreadable .notUtf8))
  | some text =>
    match Yaml.read text >>= Node.decode MigrationDocument.ofNode with
    | .error fault => .error (.resolution name (.invalid fault))
    | .ok migration => .ok migration

/-- Bytes that are there are never reported as a file that is missing. -/
theorem ofBytes_ne_noFile (name : String) (bytes : List UInt8) (other place : String) :
    ofBytes name bytes ≠ .error (.resolution other (.noFile place)) := by
  unfold ofBytes
  split
  · simp
  · split <;> simp

/-- If one file of a migration can be an entry of a folder, so can the other. -/
theorem isEntryName_of_isFileOf {name file : String} (of : IsFileOf name file)
    (entry : IsEntryName file) (extension : String) (plain : '/' ∉ extension.toList)
    (long : 2 ≤ extension.length) : IsEntryName (name ++ "." ++ extension) := by
  have slashless : '/' ∉ name.toList := by
    obtain ⟨-, -, -, plain⟩ := entry
    rcases of with rfl | rfl <;> simp at plain <;> exact plain
  have longer : 3 ≤ (name ++ "." ++ extension).length := by
    have point : ".".length = 1 := rfl
    rw [String.length_append, String.length_append, point]
    omega
  refine ⟨?_, ?_, ?_, by simp [slashless, plain]⟩ <;>
    · intro short
      rw [short] at longer
      revert longer
      decide

section

variable {root : FileTree} {path : String} (here : root.folder? path = some entries)
  (named : WellNamed entries)

include here named

theorem find_join_eq_ok_iff {file : String} {node : FileTree} (entry : IsEntryName file) :
    root.find (Path.join path file) = .ok node ↔ (file, node) ∈ entries := by
  rw [FileTree.find_join here entry, entryOf, ← named.lookup_eq_some_iff]
  cases entries.lookup file <;> simp

theorem hasFile_join_iff {file : String} (entry : IsEntryName file) :
    root.hasFile (Path.join path file) = true ↔ HoldsFile entries file := by
  unfold FileTree.hasFile
  constructor
  · intro found
    split at found
    · rename_i bytes reached
      exact ⟨bytes, (find_join_eq_ok_iff here named entry).1 reached⟩
    · cases found
  · rintro ⟨bytes, mem⟩
    rw [(find_join_eq_ok_iff here named entry).2 mem]

/-- The only file of a migration is the one that is found. -/
theorem locate?_eq_some {name file : String} (of : IsFileOf name file)
    (holds : HoldsFile entries file)
    (only : ∀ other, IsFileOf name other → HoldsFile entries other → other = file) :
    locate? root path name = some (Path.join path file) := by
  have entry : IsEntryName file := named.names _ holds.choose_spec
  have found := (hasFile_join_iff here named entry).2 holds
  unfold locate? extensions
  rcases of with rfl | rfl
  · simp only [List.map_cons, String.append_assoc]
    exact List.find?_cons_of_pos found
  · have other := isEntryName_of_isFileOf (.inr rfl) entry "yaml" (by decide) (by decide)
    have lacks : ¬ root.hasFile (Path.join path (name ++ "." ++ "yaml")) = true := by
      intro found
      have first := only _ (.inl (String.append_assoc ..))
        ((hasFile_join_iff here named other).1 found)
      rw [String.append_assoc, String.append_right_inj] at first
      revert first
      decide
    rw [List.map_cons, List.find?_cons_of_neg lacks]
    simp only [List.map_cons, String.append_assoc]
    exact List.find?_cons_of_pos found

/-- The bytes of the only file of a migration are read. -/
theorem load_eq_ofBytes {name file : String} {bytes : List UInt8} (of : IsFileOf name file)
    (mem : (file, .file bytes) ∈ entries)
    (only : ∀ other, IsFileOf name other → HoldsFile entries other → other = file) :
    load root path name = ofBytes name bytes := by
  have reached := (find_join_eq_ok_iff here named (named.names _ mem)).2 mem
  have text : root.readText (Path.join path file) =
      (Text.ofUtf8? bytes).elim (.error .notUtf8) .ok := by
    unfold FileTree.readText
    rw [reached]
    simp only [bind, Except.bind]
    cases Text.ofUtf8? bytes <;> rfl
  unfold load ofBytes
  rw [locate?_eq_some here named of ⟨bytes, mem⟩ only]
  dsimp only
  rw [text]
  cases Text.ofUtf8? bytes <;> rfl

/-- Discovery in a folder either finds a migration with two files, or finds in strict order the
migrations that have a file there; each has no other, and that one is read. -/
theorem discover_located :
    (∃ name, discover root path = .error (.resolution name .twoFiles) ∧ IsMigrationName name ∧
      HoldsFile entries (name ++ ".yaml") ∧ HoldsFile entries (name ++ ".yml")) ∨
    ∃ names, discover root path = .ok names ∧ names.Pairwise (· < ·) ∧
      (∀ name, name ∈ names ↔ IsMigrationName name ∧
        (HoldsFile entries (name ++ ".yaml") ∨ HoldsFile entries (name ++ ".yml"))) ∧
      ∀ name ∈ names, ∃ file bytes, IsFileOf name file ∧ (file, .file bytes) ∈ entries ∧
        (∀ other, IsFileOf name other → HoldsFile entries other → other = file) ∧
        load root path name = ofBytes name bytes ∧
        ∀ other place, load root path name ≠ .error (.resolution other (.noFile place)) := by
  cases twice : repeated? (namesIn entries) with
  | some name =>
    left
    have found : discover root path = .error (.resolution name .twoFiles) := by
      simp only [discover, here, twice]
    exact ⟨name, found, holdsFiles_of_repeated? named twice⟩
  | none =>
    right
    have found : discover root path = .ok (namesIn entries) := by
      simp only [discover, here, twice]
    have sorted := pairwise_of_repeated?_eq_none (pairwise_le_mergeSort _) twice
    refine ⟨_, found, sorted, fun name => mem_namesIn_iff, fun name mem => ?_⟩
    obtain ⟨valid, holds⟩ := mem_namesIn_iff.1 mem
    obtain ⟨file, of, bytes, mem⟩ : ∃ file, IsFileOf name file ∧ HoldsFile entries file :=
      holds.elim (fun holds => ⟨_, .inl rfl, holds⟩) fun holds => ⟨_, .inr rfl, holds⟩
    have only : ∀ other, IsFileOf name other → HoldsFile entries other → other = file :=
      fun other of' holds => eq_of_isFileOf sorted valid of' of holds ⟨bytes, mem⟩
    have read := load_eq_ofBytes here named of mem only
    refine ⟨file, bytes, of, mem, only, read, fun other place => ?_⟩
    rw [read]
    exact ofBytes_ne_noFile name bytes other place

end

end

/-- A folder with other entries that share the stems of its migrations. -/
def crowded : List (String × FileTree) :=
  [("2_a.b.yaml", .file [0x75]), ("1_users.yaml", .folder []), ("1_users.yml", .file []),
    ("1_users.sql", .file []), ("2_a.b", .folder []), ("README", .file [])]

theorem eq_of_holdsFile_crowded {name file : String} (valid : IsMigrationName name)
    (of : IsFileOf name file) (holds : HoldsFile crowded file) :
    name = "2_a.b" ∧ file = "2_a.b.yaml" ∨ name = "1_users" ∧ file = "1_users.yml" := by
  obtain ⟨bytes, mem⟩ := holds
  have found := nameOf?_eq_some_iff.2 ⟨valid, of⟩
  have each : ∀ entry ∈ crowded, migrationIn? entry = none ∨
      (migrationIn? entry = some "2_a.b" ∧ entry.1 = "2_a.b.yaml") ∨
      (migrationIn? entry = some "1_users" ∧ entry.1 = "1_users.yml") := by decide +kernel
  rcases each _ mem with none | ⟨named, file⟩ | ⟨named, file⟩
  · exact absurd (found.symm.trans none) nofun
  · exact .inl ⟨Option.some.inj (found.symm.trans named), file⟩
  · exact .inr ⟨Option.some.inj (found.symm.trans named), file⟩

theorem discover_located_crowded :
    (FileTree.folder [("all", .folder crowded)]).folder? "all/" = some crowded ∧
      WellNamed crowded ∧
      ∃ names, discover (.folder [("all", .folder crowded)]) "all/" = .ok names ∧
        (∀ name, name ∈ names ↔ name = "1_users" ∨ name = "2_a.b") ∧
        load (.folder [("all", .folder crowded)]) "all/" "1_users" = ofBytes "1_users" [] := by
  have here : (FileTree.folder [("all", .folder crowded)]).folder? "all/" = some crowded := rfl
  have named : WellNamed crowded := ⟨by decide +kernel, by decide +kernel⟩
  have users : IsMigrationName "1_users" := isName_iff.1 (by decide)
  have dotted : IsMigrationName "2_a.b" := isName_iff.1 (by decide)
  refine ⟨here, named, ?_⟩
  rcases discover_located here named with
    ⟨name, -, valid, first, second⟩ | ⟨names, found, -, each, located⟩
  · exfalso
    rcases eq_of_holdsFile_crowded valid (.inl rfl) first with ⟨rfl, -⟩ | ⟨rfl, twin⟩
    · rcases eq_of_holdsFile_crowded valid (.inr rfl) second with ⟨-, twin⟩ | ⟨other, -⟩
      · exact absurd twin (by decide)
      · exact absurd other (by decide)
    · exact absurd twin (by decide)
  · have usersFound : "1_users" ∈ names := (each _).2 ⟨users, .inr ⟨[], by simp [crowded]⟩⟩
    refine ⟨names, found, fun name => ⟨fun mem => ?_, ?_⟩, ?_⟩
    · obtain ⟨file, bytes, of, held, -⟩ := located name mem
      rcases eq_of_holdsFile_crowded ((each name).1 mem).1 of ⟨bytes, held⟩ with
        ⟨same, -⟩ | ⟨same, -⟩
      · exact .inr same
      · exact .inl same
    · rintro (rfl | rfl)
      · exact usersFound
      · exact (each _).2 ⟨dotted, .inl ⟨[0x75], by simp [crowded]⟩⟩
    · obtain ⟨file, bytes, of, mem, only, read, -⟩ := located _ usersFound
      have bytes : bytes = [] := by
        rcases eq_of_holdsFile_crowded users of ⟨bytes, mem⟩ with ⟨other, -⟩ | ⟨-, rfl⟩
        · exact absurd other (by decide)
        · simpa [crowded] using mem
      rw [read, bytes]

end MigrationFile

end SchemaShift
