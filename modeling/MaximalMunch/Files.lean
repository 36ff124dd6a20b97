import MaximalMunch.Text.Utf8

/-!
Paths and a tree of files. A path is written without empty parts and without parts that are a single
dot; two dots are kept and go up. A relative path starts at the top of the tree. Above the top there
are directories, of which nothing else is known.
-/

namespace MaximalMunch

structure Path where
  /-- The slashes at the beginning: none, one or two. -/
  root : Text
  parts : List Text
  deriving DecidableEq, Repr

/-- The parts between slashes. -/
def splitSlashes : Text → List Text
  | [] => [[]]
  | c :: rest =>
    match splitSlashes rest with
    | [] => [[c]]
    | part :: parts => if c = '/' then [] :: part :: parts else (c :: part) :: parts

namespace Path

def up : Text := ['.', '.']

/-- More than two slashes at the beginning count as one. -/
def ofText (t : Text) : Path :=
  let slashes := t.takeWhile (· == '/')
  ⟨if slashes.length = 2 then slashes else slashes.take 1,
    (splitSlashes t).filter fun part => !part.isEmpty && part != ['.']⟩

def joined : List Text → Text
  | [] => []
  | [part] => part
  | part :: rest => part ++ ['/'] ++ joined rest

def text (p : Path) : Text :=
  if p.root.isEmpty && p.parts.isEmpty then ['.'] else p.root ++ joined p.parts

end Path

inductive Entry where
  | directory
  | file (bytes : List UInt8)
  deriving DecidableEq, Repr

/-- Files and directories with their parts from the top; a later one takes the place of an earlier
one. -/
abbrev Files := List (List Text × Entry)

inductive Found where
  | missing
  | nameTooLong
  | directory
  | file (bytes : List UInt8)
  deriving DecidableEq, Repr

namespace Files

/-- A part of a path has at most so many bytes. -/
def maxNameSize : Nat := 255

/-- A whole path has at most so many bytes. -/
def maxPathSize : Nat := 4095

def size (t : Text) : Nat := (Utf8.encode t).length

/-- What is at a place. What holds anything is a directory. -/
def entryAt? (files : Files) (parts : List Text) : Option Entry :=
  if parts.isEmpty then some .directory
  else
    match files.reverse.find? fun f => f.1 == parts with
    | some f => some f.2
    | none =>
      if files.any fun f => parts.isPrefixOf f.1 then some .directory else none

/-- Follows parts from a directory, which lies outside of the tree if it is `none`. -/
def follow (files : Files) : (here : Option (List Text)) → List Text → Found
  | _, [] => .directory
  | here, part :: rest =>
    if maxNameSize < size part then .nameTooLong
    else if part = Path.up then
      match here with
      | some (name :: names) => follow files (some (name :: names).dropLast) rest
      | _ => follow files none rest
    else
      match here with
      | none => .missing
      | some names =>
        match files.entryAt? (names ++ [part]) with
        | none => .missing
        | some .directory => follow files (some (names ++ [part])) rest
        | some (.file bytes) => if rest.isEmpty then .file bytes else .missing

def find (files : Files) (path : Path) : Found :=
  if maxPathSize < size path.text then .nameTooLong
  else files.follow (if path.root.isEmpty then some [] else none) path.parts

end Files
end MaximalMunch
