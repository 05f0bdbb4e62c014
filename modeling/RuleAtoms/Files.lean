/-
**Files by their paths.**

What stands under a path is a text, a directory, or nothing that can be read. A tree of files is a
list of texts with their paths from the directory in which the work is done.
-/

import RuleAtoms.Text.Split

namespace RuleAtoms

/-- What stands under a path. -/
inductive FileState where
  | text (content : String)
  | directory
  | missing
  /-- A part of the path that should be a directory is a text. -/
  | beyondText
  /-- The path or a part of it has more bytes than a name may have. -/
  | tooLong
  /-- The path has a character that no path can have. -/
  | unnameable
  /-- There is a file, but no text can be had from it. -/
  | unreadable (detail : String)
deriving DecidableEq

namespace FileState

def isThere : FileState → Bool
  | text _ | directory | unreadable _ => true
  | missing | beyondText | tooLong | unnameable => false

def isFile : FileState → Bool
  | text _ | unreadable _ => true
  | directory | missing | beyondText | tooLong | unnameable => false

/-- The text of a file, or why there is none. -/
def content : FileState → Except String String
  | text content => .ok content
  | directory => .error "Is a directory (os error 21)"
  | missing => .error "No such file or directory (os error 2)"
  | beyondText => .error "Not a directory (os error 20)"
  | tooLong => .error "File name too long (os error 36)"
  | unnameable => .error "file name contained an unexpected NUL byte"
  | unreadable detail => .error detail

end FileState

/-- The path of what has a name in a directory. The slash between them is not doubled, and the empty
path is the working directory. -/
def pathWithin (directory name : String) : String :=
  if directory.isEmpty || directory.endsWith "/" then directory ++ name
  else directory ++ "/" ++ name

/-- Texts with their paths from the working directory. -/
abbrev FileTree := List (String × String)

namespace FileTree

/-- The parts of a path between slashes. -/
def parts (path : String) : List String :=
  (path.toList.splitOn '/').map String.ofList

/-- Whether some path goes on behind another one. -/
def goesOn (start path : List String) : Bool :=
  match start.isPrefixOf? path with
  | some (_ :: _) => true
  | _ => false

/-- What stands under a path of which every part is a name. -/
def stateOf (tree : FileTree) (place : List String) : FileState :=
  match tree.find? fun file => parts file.1 == place with
  | some (_, content) => .text content
  | none =>
    if place.isEmpty || tree.any (fun file => goesOn place (parts file.1)) then .directory
    else .missing

/-- The most bytes that one name in a path may have. -/
def nameLimit : Nat := 255

/-- The most bytes that a path may have. -/
def pathLimit : Nat := 4095

/-- Whether a part of a path is no name, but stands for the same directory or the one around it. -/
def isStep (part : String) : Bool := part == "" || part == "." || part == ".."

/-- What stands under a path outside the tree. Nothing is known there but the directories around the
tree and the root. -/
def outside (path : List String) : FileState :=
  match path.find? fun part => !isStep part with
  | none => .directory
  | some name => if name.utf8ByteSize ≤ nameLimit then .missing else .tooLong

/-- What stands under a path that is followed from a place part by part. -/
def follow (tree : FileTree) (place : List String) : List String → FileState
  | [] => tree.stateOf place
  | part :: rest =>
    match tree.stateOf place with
    | .directory =>
      if part == "" || part == "." then tree.follow place rest
      else if part == ".." then
        if place.isEmpty then outside rest else tree.follow place.dropLast rest
      else if part.utf8ByteSize ≤ nameLimit then tree.follow (place ++ [part]) rest
      else .tooLong
    | .missing => .missing
    | .text _ | .beyondText | .tooLong | .unnameable | .unreadable _ => .beyondText

/-- What stands under a path from the working directory. -/
def state (tree : FileTree) (path : String) : FileState :=
  if path.isEmpty then .missing
  else if path.contains '\x00' then .unnameable
  else if pathLimit < path.utf8ByteSize then .tooLong
  else if path.startsWith "/" then outside (parts path)
  else tree.follow [] (parts path)

end FileTree

end RuleAtoms
