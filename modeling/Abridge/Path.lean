import Abridge.Text.Search

/-!
File paths with `/` between their components. Empty components and inner `.` are skipped, so that
`a//b/.` names the same file as `a/b`.
-/
namespace Abridge

/-- A file path as it was given. -/
structure Path where
  text : Text
  deriving DecidableEq, Repr

namespace Path

def ofString (s : String) : Path :=
  ⟨s.toList⟩

def toString (p : Path) : String :=
  String.ofList p.text

/-- A component of a path. -/
inductive Component where
  | root
  | current
  | up
  | name (text : Text)
  deriving DecidableEq, Repr

/-- The component that a piece between two `/` stands for; `.` stands for one only in front of a
relative path. -/
def component? (leading : Bool) (piece : Text) : Option Component :=
  if piece.isEmpty then none
  else if piece = ['.'] then if leading then some .current else none
  else if piece = ['.', '.'] then some .up
  else some (.name piece)

def components (p : Path) : List Component :=
  match Text.split '/' p.text with
  | [] => []
  | first :: rest =>
    let inner := rest.filterMap (component? false)
    if p.text.head? = some '/' then .root :: inner
    else (component? true first).toList ++ inner

/-- The last component, if it is a name. -/
def fileName (p : Path) : Text :=
  match p.components.getLast? with
  | some (.name name) => name
  | _ => []

/-- What stands behind the last point of the file name; a point that begins the name does not
count. -/
def extension (p : Path) : Text :=
  let tail := p.fileName.reverse.takeWhile (· ≠ '.')
  if tail.length + 1 < p.fileName.length then tail.reverse else []

/-- The names of the directories on the way to the file. -/
def directories (p : Path) : List Text :=
  p.components.dropLast.filterMap fun
    | .name name => some name
    | _ => none

end Path

end Abridge
