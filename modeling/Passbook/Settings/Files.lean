/-
**Finding a file of settings.**

The files stand in one folder under names that end in `.toml`. A file is asked for by a path from
that folder.

* `findFile?`: the file of exactly that path, or else the file of that path with the ending.
-/

namespace Passbook.Settings

/-- The folders that a path may lead through: the one of the files, and the one around it. -/
inductive Folder where
  | around
  | files
deriving DecidableEq

/-- The name of the folder of the files. -/
def folderName : List Char := ['c', 'o', 'n', 'f', 'i', 'g']

/-- The ending of the names of files. -/
def ending : List Char := ['.', 't', 'o', 'm', 'l']

/-- The parts of a path. -/
def partsOf : List Char → List (List Char)
  | [] => [[]]
  | '/' :: rest => [] :: partsOf rest
  | char :: rest =>
    match partsOf rest with
    | first :: others => (char :: first) :: others
    | [] => [[char]]

/-- A part of a path that leads nowhere else. -/
def isIdle (part : List Char) : Bool := part == [] || part == ['.']

/-- The folder that a part of a path leads to. -/
def Folder.enter? (folder : Folder) (part : List Char) : Option Folder :=
  if isIdle part then some folder
  else
    match folder with
    | .files => if part = ['.', '.'] then some .around else none
    | .around => if part = folderName then some .files else none

/-- The name at the end of a path into the folder of the files. -/
def nameIn? (parts : List (List Char)) : Option (List Char) := do
  let name ← parts.getLast?
  let folder ← parts.dropLast.foldlM Folder.enter? .files
  if folder = .files && name != ['.', '.'] then some name else none

/-- A name without the ending. -/
def stem? (name : List Char) : Option (List Char) :=
  if ending.isSuffixOf name && ending.length < name.length then
    some (name.take (name.length - ending.length))
  else none

/-- The content of the file at a path, `files` telling the contents by names without the ending. -/
def findFile? (files : String → Option String) (path : String) : Option String :=
  let parts := partsOf path.toList
  let exact := ((nameIn? parts).bind stem?).bind fun name => files (String.ofList name)
  let kept := (parts.reverse.dropWhile isIdle).reverse
  exact <|> (nameIn? kept).bind fun name => files (String.ofList name)

end Passbook.Settings
