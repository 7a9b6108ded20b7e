import SchemaShift.Text.Case

/-!
# Paths

A path is a text whose parts are separated by slashes. A single dot is no step, two dots are a step
up.
-/

namespace SchemaShift.Path

/-- The parts of a text between slashes. -/
def partsChars : List Char → List (List Char)
  | [] => [[]]
  | '/' :: cs => [] :: partsChars cs
  | c :: cs =>
    match partsChars cs with
    | [] => [[c]]
    | part :: rest => (c :: part) :: rest

/-- The parts of a path. -/
def parts (path : String) : List String := (partsChars path.toList).map String.ofList

/-- Whether a path starts at the root of all files. -/
def isAbsolute (path : String) : Bool := path.toList.head? == some '/'

/-- A path that leads on from another. -/
def join (path more : String) : String :=
  if isAbsolute more || path.isEmpty then more
  else if path.toList.getLast? == some '/' then path ++ more
  else path ++ "/" ++ more

/-- The last part of a path; a path that ends with a step up has none. -/
def fileName? (path : String) : Option String :=
  match ((parts path).filter fun part => part != "" && part != ".").getLast? with
  | some ".." => none
  | name => name

/-- The stem and the extension of a file name: what stands around the last dot, unless it comes
first. -/
def splitExtension? (name : String) : Option (String × String) :=
  let after := (name.toList.reverse.takeWhile (· != '.')).reverse
  let stem := name.toList.take (name.length - after.length - 1)
  if name.toList.contains '.' && !stem.isEmpty then
    some (String.ofList stem, String.ofList after)
  else none

end SchemaShift.Path
