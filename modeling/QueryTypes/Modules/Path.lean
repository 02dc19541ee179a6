/-!
Slash-separated paths: joining a relative specifier to the file it stands in, and writing a path
relative to a directory.
-/

set_option autoImplicit false

namespace QueryTypes.Path

/-- The pieces between slashes; there is always at least one. -/
def segments : List Char → List (List Char)
  | [] => [[]]
  | '/' :: rest => [] :: segments rest
  | char :: rest =>
      match segments rest with
      | [] => [[char]]
      | first :: others => (char :: first) :: others

def joined : List (List Char) → List Char
  | [] => []
  | [last] => last
  | first :: others => first ++ '/' :: joined others

/-- Follows one piece of a specifier from a directory. Going up stops at the first segment, which
is the empty one of an absolute path. -/
def follow (directory : List (List Char)) (piece : List Char) : List (List Char) :=
  if piece = [] ∨ piece = ['.'] then directory
  else if piece = ['.', '.'] then
    if 1 < directory.length then directory.dropLast else directory
  else directory ++ [piece]

def directoryOf (file : List Char) : List (List Char) := (segments file).dropLast

def join (importer specifier : String) : String :=
  String.ofList (joined
    ((segments specifier.toList).foldl follow (directoryOf importer.toList)))

def isRelative (specifier : String) : Bool :=
  "./".toList.isPrefixOf specifier.toList || "../".toList.isPrefixOf specifier.toList

inductive Lead where
  | root
  | current
deriving DecidableEq

/-- Pieces that say nothing about where a path leads. -/
def isIdle (piece : List Char) : Bool := piece == [] || piece == ['.']

def parts (path : List Char) : Option Lead × List (List Char) :=
  match path with
  | '/' :: rest => (some .root, segments rest)
  | ['.'] => (some .current, segments [])
  | '.' :: '/' :: rest => (some .current, segments ('/' :: rest))
  | _ => (none, segments path)

/-- The pieces left over after those of a directory, idle ones being passed over; nothing if the
path leads elsewhere. -/
def piecesAfter : (pieces directory : List (List Char)) → Option (List (List Char))
  | pieces, [] => some pieces
  | [], _ :: _ => none
  | piece :: pieces, wanted :: directory =>
      if isIdle piece then piecesAfter pieces (wanted :: directory)
      else if piece = wanted then piecesAfter pieces directory
      else none

def dropIdleEnd (pieces : List (List Char)) : List (List Char) :=
  (pieces.reverse.dropWhile isIdle).reverse

def Lead.chars : Lead → List Char
  | .root => ['/']
  | .current => ['.']

/-- What a path is below a directory, or nothing if it is not below it. What is left is written as
it was, without idle pieces at its ends; below an empty directory only the end is changed. -/
def below? (directory path : String) : Option String :=
  let (directoryLead, directoryPieces) := parts directory.toList
  let (lead, pieces) := parts path.toList
  let wanted := directoryPieces.filter fun piece => !isIdle piece
  if directoryLead.isNone && wanted.isEmpty then
    some (String.ofList (lead.elim [] Lead.chars ++ joined (dropIdleEnd pieces)))
  else if directoryLead = lead then
    (piecesAfter pieces wanted).map fun rest =>
      String.ofList (joined (dropIdleEnd (rest.dropWhile isIdle)))
  else none

/-- A path as it is shown: relative to a directory and with slashes if it is below the directory,
and unchanged otherwise. -/
def shown (directory : Option String) (path : String) : String :=
  match directory.bind fun root => below? root path with
  | some rest => String.ofList (rest.toList.map fun char => if char = '\\' then '/' else char)
  | none => path

end QueryTypes.Path
