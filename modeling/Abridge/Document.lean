import Abridge.Error
import Abridge.Language.Table
import Abridge.Text.Lines
import Abridge.Tree.Node

/-!
Documents: a source text with its syntax tree. Documents are never changed; whoever changes a text
parses it anew, so that the places of the nodes are always exact.
-/
namespace Abridge

/-- A source text, its language and its tree. -/
structure Document where
  language : Language
  lines : Lines
  tree : Tree

namespace Document

def ofTree (language : Language) (text : Text) (tree : Tree) : Document where
  language
  lines := { text }
  tree

def text (d : Document) : Text :=
  d.lines.text

def grammar (d : Document) : Grammar :=
  d.language.grammar

def comments (d : Document) : CommentStyle :=
  d.grammar.comments

def root (d : Document) : Node :=
  ⟨d.tree, []⟩

/-- Whether the parser met anything that it could not make sense of. -/
def hasErrors (d : Document) : Bool :=
  d.root.label.hasError

def hasRole (d : Document) (n : Node) (role : Role) : Bool :=
  d.grammar.hasRole n.kind role

/-! ### Text and lines of nodes -/

def textOf (d : Document) (n : Node) : Text :=
  d.lines.textOf n.span

def textBetween (d : Document) (start stop : Nat) : Text :=
  d.lines.textOf (.between start stop)

/-- The span of a node without blanks at its end; some grammars take the line feed into a
comment. -/
def trimmedSpan (d : Document) (n : Node) : Span where
  start := n.start
  stop := n.start + Text.size (d.textOf n).trimEnd

/-- The 0-based line on which a node begins. -/
def firstLine (d : Document) (n : Node) : Nat :=
  d.lines.lineOf n.start

/-- The 0-based line on which a node ends. -/
def lastLine (d : Document) (n : Node) : Nat :=
  d.lines.lineOf n.stop

/-- The number of lines that a node touches. -/
def lineCount (d : Document) (n : Node) : Nat :=
  d.lastLine n - d.firstLine n + 1

/-- Whether only blanks stand in front of a node on its first line. -/
def startsLine (d : Document) (n : Node) : Bool :=
  (d.lines.lineFront n.start).isBlankText

/-- Whether only blanks stand behind a node on its last line. -/
def endsLine (d : Document) (n : Node) : Bool :=
  (d.lines.lineRest (d.trimmedSpan n).stop).isBlankText

/-- One level of indentation more than `outer`: a tab below tabs and in Go, four spaces
otherwise. -/
def deeper (d : Document) (outer : Text) : Text :=
  outer ++ if outer.startsWith ['\t'] || d.language == .go then ['\t'] else [' ', ' ', ' ', ' ']

/-! ### Queries -/

/-- A node that a query found, and the name it found it under. -/
structure Capture where
  node : Node
  label : String
  deriving Repr

namespace Capture

/-- Order by start; of two nodes that start together the longer one comes first. -/
def precedes (a b : Capture) : Bool :=
  a.node.start < b.node.start || (a.node.start == b.node.start && b.node.stop ≤ a.node.stop)

def repeats (a b : Capture) : Bool :=
  a.node.same b.node && a.label == b.label

end Capture

/-- What a selector finds at a node. -/
def select (n : Node) : Selector → List Capture
  | .kind kind label => if n.isNamed && n.kind == kind then [⟨n, label⟩] else []
  | .withField kind field child label childLabel =>
    if n.isNamed && n.kind == kind then
      ((n.childrenInField field).filter fun c => c.isNamed && c.kind == child).flatMap fun c =>
        ⟨n, label⟩ :: (childLabel.map fun l => ⟨c, l⟩).toList
    else []
  | .child kind child label =>
    if n.isNamed && n.kind == kind then
      (n.children.filter fun c => c.isNamed && c.kind == child).map fun c => ⟨c, label⟩
    else []

/-- Drops the elements that repeat the one kept before them. -/
def dropRepeats {α : Type} (repeats : α → α → Bool) : List α → List α
  | [] => []
  | a :: rest => go a rest
where
  go (kept : α) : List α → List α
    | [] => [kept]
    | a :: rest => if repeats kept a then go kept rest else kept :: go a rest

/-- What selectors find in a document, outer nodes before the nodes inside them. -/
def capturesOf (d : Document) (selectors : List Selector) : List Capture :=
  dropRepeats Capture.repeats
    (((d.root :: d.root.descendants).flatMap fun n => selectors.flatMap (select n)).mergeSort
      Capture.precedes)

/-- What a named query finds in a document. -/
def query (d : Document) (name : String) : Except SourceError (List Capture) :=
  match d.grammar.query? name with
  | some query => .ok (d.capturesOf query.selectors)
  | none => .error (.queryNotFound d.language name)

/-- The nodes that a named query finds under one name. -/
def queryNodes (d : Document) (name label : String) : Except SourceError (List Node) := do
  let captures ← d.query name
  return (captures.filter (·.label == label)).map (·.node)

end Document

end Abridge
