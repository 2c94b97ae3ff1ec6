import Abridge.Text.Blank

/-!
How a language writes comments: up to the end of the line, between two delimiters, or both. A text
can be rendered as a comment and taken out of one again.
-/
namespace Abridge

/-- The comment delimiters of a language. -/
structure CommentStyle where
  /-- What opens a comment that runs to the end of the line. -/
  line : Option String
  /-- What opens and closes a comment that ends on its own. -/
  block : Option (String × String)
  /-- Openers that make a comment a piece of documentation. -/
  docMarkers : List String
  deriving DecidableEq, Repr

namespace CommentStyle

/-- A text between two delimiters. -/
def enclose (opener closer : String) (t : Text) : Text :=
  opener.toList ++ [' '] ++ t ++ [' '] ++ closer.toList

/-- A text as a comment that closes itself, if the language has such comments. -/
def blockComment? (style : CommentStyle) (t : Text) : Option Text :=
  style.block.map fun (opener, closer) => enclose opener closer t

/-- A text as a comment up to the end of the line. -/
def lineComment (style : CommentStyle) (t : Text) : Text :=
  match style.line with
  | some opener => opener.toList ++ [' '] ++ t
  | none => (style.blockComment? t).getD t

def hasBlock (style : CommentStyle) : Bool :=
  style.block.isSome

/-- Whether a comment that begins with a marker is documentation: the last character of the marker
must not come again, as in a banner. -/
def followsMarker (comment : Text) (marker : String) : Bool :=
  match comment.stripStart? marker.toList with
  | none => false
  | some rest =>
    match marker.toList.getLast? with
    | some last => rest.head? != some last
    | none => true

/-- Whether a comment is documentation by its opener. -/
def isDoc (style : CommentStyle) (comment : Text) : Bool :=
  let trimmed := comment.trimStart
  trimmed != "/**/".toList && style.docMarkers.any (followsMarker trimmed)

/-- A line of a block comment without the star at its edge. -/
def stripGutter (line : Text) : Text :=
  let line := line.trim
  match line.stripStart? ['*'] with
  | some rest => Text.trimStart rest
  | none => line

/-- A line comment without its opener and the marks that make it documentation. -/
def stripOpener (opener : String) (line : Text) : Text :=
  let line := line.trim
  match line.stripStart? opener.toList with
  | some rest => Text.trimStart (rest.dropWhile fun c => c == '/' || c == '!' || c == '#')
  | none => line

/-- The inside of a block comment, if the text is one. -/
def inside? (opener closer : String) (comment : Text) : Option Text :=
  let opener := opener.toList
  let closer := closer.toList
  if comment.startsWith opener && comment.endsWith closer &&
      opener.length + closer.length ≤ comment.length then
    some ((comment.drop opener.length).take (comment.length - opener.length - closer.length))
  else none

/-- The lines of a text, each changed by `f`, without blanks around the whole. -/
def mapLines (f : Text → Text) (t : Text) : Text :=
  (Text.join ['\n'] ((t.split '\n').map f)).trim

/-- What a comment says, without delimiters, stars at the edge and marks of documentation. -/
def stripMarkers (style : CommentStyle) (comment : Text) : Text :=
  let body := comment.trim
  match style.block.bind fun (opener, closer) => inside? opener closer body with
  | some inner => mapLines stripGutter (inner.dropWhile fun c => c == '*' || c == '!')
  | none =>
    match style.line with
    | some opener => mapLines (stripOpener opener) body
    | none => body

end CommentStyle

end Abridge
