import SchemaShift.Error
import SchemaShift.Files.Path
import SchemaShift.Text.Utf8

/-!
# Files

A folder with everything in it, as a value. Paths lead from a folder to what is in it.
-/

namespace SchemaShift

/-- A file or a folder. -/
inductive FileTree where
  | file (bytes : List UInt8)
  | folder (entries : List (String × FileTree))

namespace FileTree

/-- What steps lead to; `above` are the folders around, innermost first. -/
def follow (above : List FileTree) (here : FileTree) : List String → Except FileFault FileTree
  | [] => .ok here
  | step :: steps =>
    match here with
    | file _ => .error .notDirectory
    | folder entries =>
      if step = "" ∨ step = "." then follow above here steps
      else if step = ".." then
        match above with
        | [] => .error .missing
        | up :: above => follow above up steps
      else
        match entries.lookup step with
        | some next => follow (here :: above) next steps
        | none => .error .missing

/-- What a path leads to. Outside the folder there is nothing. -/
def find (root : FileTree) (path : String) : Except FileFault FileTree :=
  if path.isEmpty || Path.isAbsolute path then .error .missing
  else follow [] root (Path.parts path)

/-- The entries of the folder that a path leads to. -/
def folder? (root : FileTree) (path : String) : Option (List (String × FileTree)) :=
  match root.find path with
  | .ok (folder entries) => some entries
  | _ => none

/-- Whether a path leads to a file. -/
def hasFile (root : FileTree) (path : String) : Bool :=
  match root.find path with
  | .ok (file _) => true
  | _ => false

/-- The text of the file that a path leads to. -/
def readText (root : FileTree) (path : String) : Except FileFault String := do
  match ← root.find path with
  | folder _ => .error .isDirectory
  | file bytes =>
    match Text.ofUtf8? bytes with
    | some text => .ok text
    | none => .error .notUtf8

/-! ## Changes -/

/-- The entries with another meaning of a name. -/
def setEntry (name : String) (value : FileTree) (entries : List (String × FileTree)) :
    List (String × FileTree) :=
  entries.filter (·.1 != name) ++ [(name, value)]

/-- Puts a file or a folder where names lead to; folders on the way are made, and a folder that is
there stays. -/
def put (value : FileTree) : List String → FileTree → FileTree
  | [], here =>
    match value, here with
    | folder [], folder entries => folder entries
    | value, _ => value
  | name :: names, here =>
    match here with
    | file bytes => file bytes
    | folder entries =>
      folder (setEntry name (put value names ((entries.lookup name).getD (folder []))) entries)

/-- Removes what names lead to. -/
def remove : List String → FileTree → FileTree
  | [], here => here
  | [name], folder entries => folder (entries.filter (·.1 != name))
  | name :: names, folder entries =>
    match entries.lookup name with
    | some next => folder (setEntry name (remove names next) entries)
    | none => folder entries
  | _, here => here

end FileTree

end SchemaShift
