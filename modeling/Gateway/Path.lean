import Gateway.Text.Split

/-!
# Paths

Texts that name files: names with slashes between them. What a path leads to is for the files to
say, so nothing is taken out of a path here; a name that leads nowhere cannot be stepped back from.
-/

namespace Gateway.Path

/-- The names of a path in order. -/
def names (path : String) : List String :=
  ((Text.fields (· == '/') path.toList).filter fun name => !name.isEmpty).map String.ofList

/-- Whether a path ends like one that only a directory can have. -/
def namesDirectory (path : String) : Bool := path.toList.getLast? == some '/'

/-- The steps of a path: a slash first if it starts at the root, then names. A dot is a step only where
a path begins with it. -/
def steps (path : String) : List String :=
  if path.toList.head? == some '/' then "/" :: (names path).filter (· ≠ ".")
  else (names path).take 1 ++ ((names path).drop 1).filter (· ≠ ".")

/-- Whether two paths take the same steps. -/
def same (a b : String) : Bool := steps a == steps b

/-- The path of a name in a directory. -/
def join (directory name : String) : String :=
  if directory.isEmpty || namesDirectory directory then directory ++ name
  else directory ++ "/" ++ name

/-- A reversed path from its last name on: slashes and dots behind that name are dropped. -/
def fromLastName : List Char → List Char
  | '/' :: rest => fromLastName rest
  | '.' :: '/' :: rest => fromLastName rest
  | reversed => reversed

/-- The last name of a path, unless it is a step to where one is or back. -/
def fileName? (path : String) : Option String :=
  let name := ((fromLastName path.toList.reverse).takeWhile (· ≠ '/')).reverse
  if name = [] ∨ name = ['.'] ∨ name = ['.', '.'] then none else some (String.ofList name)

/-- A path without its last name. -/
def parent (path : String) : String :=
  let above := (fromLastName path.toList.reverse).dropWhile (· ≠ '/')
  match fromLastName above with
  | [] => String.ofList (above.take 1)
  | reversed => String.ofList reversed.reverse

/-- A file name up to its last dot; a dot in front does not count. -/
def stem (name : List Char) : List Char :=
  match (name.reverse.dropWhile (· ≠ '.')).drop 1 with
  | [] => name
  | rest => rest.reverse

/-- A path whose last name has another ending. -/
def withEnding (path ending : String) : String :=
  let reversed := fromLastName path.toList.reverse
  let name := (reversed.takeWhile (· ≠ '/')).reverse
  let directory := (reversed.dropWhile (· ≠ '/')).reverse
  if name = [] ∨ name = ['.'] ∨ name = ['.', '.'] then path
  else String.ofList (directory ++ stem name) ++ "." ++ ending

end Gateway.Path
