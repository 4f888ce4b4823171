import HandleWatch.FileFault

/-!
# Directories

A tree of files, and what a path leads to in it. A path is walked from the
directory itself, part by part: a part that is empty or `.` stays where it is,
`..` goes back, and any other goes on to what has this name. All parts but the
last must lead to directories. Outside of the directory there are directories
without names, and nothing else can be reached.

A directory inside the tree is there if a file is below it.
-/

namespace HandleWatch

/-- The parts of a path between its slashes. -/
def pathParts : List Char → List (List Char)
  | [] => [[]]
  | c :: cs =>
    if c = '/' then [] :: pathParts cs
    else
      match pathParts cs with
      | [] => [[c]]
      | part :: parts => (c :: part) :: parts

/-- The text of bytes. -/
def decodeText (bytes : ByteArray) : Except FileFault String :=
  match String.fromUTF8? bytes with
  | some text => .ok text
  | none => .error .notText

/-- A tree of files, each with the names that lead to it. -/
structure Directory where
  files : List (List String × ByteArray) := []

namespace Directory

/-- What a path leads to. -/
inductive Target where
  | file (names : List String) (contents : ByteArray)
  | directory
  /-- Nothing yet, in a directory that is there. -/
  | vacant (names : List String)

/-- The greatest number of bytes in a name. -/
def maxNameSize : Nat := 255

/-- The contents of a file. -/
def contents? (d : Directory) (names : List String) : Option ByteArray := d.files.lookup names

/-- Whether there is a directory at these names. -/
def hasDirectory (d : Directory) (names : List String) : Bool :=
  names.isEmpty || d.files.any fun file => names.isPrefixOf file.1 && names != file.1

/-- What is at these names. -/
def target (d : Directory) (names : List String) : Target :=
  match d.contents? names with
  | some contents => .file names contents
  | none => if d.hasDirectory names then .directory else .vacant names

/-- Whether a part of a path is no name. -/
def isNameless (part : List Char) : Bool := part = [] || part = ['.'] || part = ['.', '.']

/-- Where the rest of a path leads outside: to a directory, if it has no names,
    and else to nothing. -/
def outside (parts : List (List Char)) : Except FileFault Target :=
  if parts.all isNameless then .ok .directory else .error .notFound

/-- Where a path leads from the directory at `names`. -/
def walk (d : Directory) (names : List String) : List (List Char) → Except FileFault Target
  | [] => .ok .directory
  | part :: parts =>
    if part = [] ∨ part = ['.'] then walk d names parts
    else if part = ['.', '.'] then
      if names.isEmpty then outside parts else walk d names.dropLast parts
    else
      let name := String.ofList part
      if name.utf8ByteSize > maxNameSize then .error .nameTooLong
      else
        let names := names ++ [name]
        if parts.isEmpty then .ok (d.target names)
        else
          match d.target names with
          | .directory => walk d names parts
          | .file _ _ => .error .notADirectory
          | .vacant _ => .error .notFound

/-- Where a path leads. One that starts with a slash leads outside, and the
    empty one nowhere. -/
def find (d : Directory) (path : List (List Char)) : Except FileFault Target :=
  match path with
  | [[]] => .error .notFound
  | [] :: parts => outside parts
  | parts => d.walk [] parts

/-- The greatest number of bytes in a path. -/
def maxPathSize : Nat := 4095

/-- The parts of a path, unless it is too long. -/
def partsOf (path : String) : Except FileFault (List (List Char)) :=
  if path.utf8ByteSize > maxPathSize then .error .nameTooLong else .ok (pathParts path.toList)

/-- The text of the file that a path leads to. -/
def read (d : Directory) (path : String) : Except FileFault String := do
  match ← d.find (← partsOf path) with
  | .file _ contents => decodeText contents
  | .directory => throw .isADirectory
  | .vacant _ => throw .notFound

/-- Puts a file at these names, in the place of the one that is there. -/
def put (d : Directory) (names : List String) (contents : ByteArray) : Directory :=
  if (d.contents? names).isSome then
    ⟨d.files.map fun file => if file.1 = names then (names, contents) else file⟩
  else ⟨d.files ++ [(names, contents)]⟩

/-- A path without the slashes at its end, if it has any there. -/
def trimSlashes? (path : List (List Char)) : Option (List (List Char)) :=
  match path.reverse with
  | [] :: rest => some (rest.dropWhile (· == [])).reverse
  | _ => none

/-- Writes the file that a path leads to, whether it is there or not. With a
    slash at its end a path leads to no file, whatever its last name is; but
    the directory of that must be there. -/
def write (d : Directory) (path text : String) : Except FileFault Directory := do
  let parts ← partsOf path
  match trimSlashes? parts with
  | some trimmed => do
    let _ ← d.find (trimmed.dropLast ++ [['.']])
    throw .isADirectory
  | none =>
    match ← d.find parts with
    | .directory => throw .isADirectory
    | .file names _ | .vacant names => return d.put names text.toUTF8

end Directory

end HandleWatch
