import DeviceTwin.Uri.Percent

/-!
# Paths of addresses

A path below the root is a list of segments. The segments `.` and `..` stand for the directory itself
and for the one above it and do not remain in the path. A drive such as `c:` is never left.
-/
namespace DeviceTwin.Uri.Path

def isReserved (c : Char) : Bool := c ∈ [' ', '"', '<', '>', '`', '#', '?', '{', '}']

/-- The segment with each escape of a point as a point. -/
def plain : List Char → List Char
  | '%' :: '2' :: 'e' :: rest => '.' :: plain rest
  | '%' :: '2' :: 'E' :: rest => '.' :: plain rest
  | c :: rest => c :: plain rest
  | [] => []

/-- Whether a segment stands for the directory itself. -/
def isHere (segment : List Char) : Bool := plain segment = ['.']

/-- Whether a segment stands for the directory above. -/
def isAbove (segment : List Char) : Bool := plain segment = ['.', '.']

def isDrive : List Char → Bool
  | [letter, mark] => letter.isAlpha && (mark = ':' || mark = '|')
  | letter :: mark :: next :: _ => letter.isAlpha && (mark = ':' || mark = '|') && next = '\\'
  | _ => false

/-- The directories without the last one, unless that is a drive. -/
def climb (directories : List (List Char)) : List (List Char) :=
  match directories.getLast? with
  | some last => if isDrive last then directories else directories.dropLast
  | none => []

/-- Enters one directory. -/
def enter (directories : List (List Char)) (segment : List Char) : List (List Char) :=
  if isAbove segment then climb directories
  else if isHere segment then directories
  else directories ++ [segment]

/-- The directories that remain and the last segment. -/
def resolve : (directories : List (List Char)) → (segments : List (List Char)) →
    List (List Char) × List Char
  | directories, [] => (directories, [])
  | directories, [last] =>
    if isAbove last || isHere last then (enter directories last, [])
    else (directories, last)
  | directories, segment :: rest => resolve (enter directories segment) rest

/-- A path from what follows the slash of its root. -/
def rooted (text : List Char) : List Char :=
  let (directories, last) := resolve [] (text.splitOn '/')
  Percent.encode isReserved ('/' :: directories.flatMap (· ++ ['/']) ++ last)

end DeviceTwin.Uri.Path
