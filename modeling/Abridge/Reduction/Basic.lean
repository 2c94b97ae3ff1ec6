import Abridge.Budget.Counter
import Abridge.Comment.Placeholder
import Abridge.Config.Basic
import Abridge.Edit.Queue
import Abridge.Profile.Basic
import Abridge.Tally

/-!
Reductions: each takes one sort of thing out of a document and counts what it took.

A reduction writes a draft. Every edit of a draft comes with the counter that it raises, and an edit
that the queue refuses raises none. `Draft.remove` puts a placeholder where something stood; where a
block has lost all its statements, the first placeholder in it brings a stub along.
-/
namespace Abridge

/-- What a reduction works on. -/
structure Job where
  profile : Profile
  document : Document
  config : Config
  count : Counter

namespace Job

/-- What a named query finds. -/
def query (job : Job) (name : String) : Except Error (List Document.Capture) :=
  (job.document.query name).mapError Error.source

/-- The nodes that a named query finds under one name. -/
def queryNodes (job : Job) (name label : String) : Except Error (List Node) :=
  (job.document.queryNodes name label).mapError Error.source

end Job

/-- What a reduction gives: the new text, if it changed, and the counts. -/
structure Outcome where
  text : Option Text := none
  tally : Tally := {}
  deriving DecidableEq, Repr

/-- A way to shorten a document. -/
structure Reduction where
  name : String
  /-- Whether a configuration asks for anything to be done. -/
  isEnabled : Config → Bool
  /-- Reads the patterns of a configuration, with which a document can then be reduced. -/
  prepare : Config → Except Error (Job → Except Error Outcome)

/-- Reduces a document. -/
def Reduction.run (r : Reduction) (job : Job) : Except Error Outcome := do
  let reduce ← r.prepare job.config
  reduce job

/-! ### Stubs -/

/-- The stub that some emptied blocks still wait for. -/
structure Stubs where
  text : Text := []
  /-- The paths of these blocks. -/
  pending : List (List Nat) := []
  deriving DecidableEq, Repr

namespace Stubs

/-- Whether each statement of a block lies in one of the removed spans. -/
def isEmptied (removed : List (Span × Node)) (block : Node) : Bool :=
  block.statements.all fun s => removed.any fun (span, _) => span.contains s.span

/-- The stubs that are due once the given spans are removed, each of which starts with a
statement. -/
def plan (profile : Profile) (removed : List (Span × Node)) : Stubs :=
  match profile.stub? with
  | none => {}
  | some stub =>
    let blocks := removed.filterMap fun (_, statement) => statement.parent?
    { text := stub.text
      pending := (blocks.filter fun b => stub.kinds.contains b.kind && isEmptied removed b).map
        Node.path }

/-- The stub for the block of a statement, if it still waits for one. -/
def take (s : Stubs) (statement : Node) : Option Text × Stubs :=
  match statement.parent? with
  | none => (none, s)
  | some block =>
    if s.pending.contains block.path then
      (some s.text, { s with pending := s.pending.filter (· != block.path) })
    else (none, s)

end Stubs

/-! ### Drafts -/

/-- Edits with the counts of what they take out. -/
structure Draft where
  queue : EditQueue
  tally : Tally := {}
  stubs : Stubs := {}

/-- Something to be taken out, and how its placeholder counts it. -/
structure Removal where
  span : Span
  /-- The statement that it starts with. -/
  statement : Node
  count : Nat
  noun : String

namespace Draft

def of (d : Document) : Draft where
  queue := { source := d.text }

/-- Queues an edit and raises a counter, unless the edit is refused. -/
def replace (draft : Draft) (span : Span) (text : Text) (key : String) (n : Nat) : Draft :=
  match draft.queue.replace? span text with
  | some queue => { draft with queue, tally := draft.tally.incr key n }
  | none => draft

/-- A placeholder behind the stub that is due, if any. -/
def withStub (stub : Option Text) (comment : Text) : Text :=
  match stub with
  | some stub => stub ++ [' ', ' '] ++ comment
  | none => comment

/-- The counter of what was removed of a sort. -/
def removedKey (noun : String) : String :=
  "removed." ++ noun

/-- The comment that stands in for a removal, if one fits at its end. -/
def placeholder? (d : Document) (r : Removal) : Option Text :=
  Placeholder.commentBefore? d.lines d.comments r.span.stop
    (Placeholder.omitted r.count r.noun.toList)

/-- Puts a placeholder in the place of a removal; where no comment fits, all stays as it is. -/
def remove (d : Document) (draft : Draft) (r : Removal) : Draft :=
  match placeholder? d r with
  | none => draft
  | some comment =>
    let (stub, stubs) := draft.stubs.take r.statement
    { draft with stubs }.replace r.span (withStub stub comment) (removedKey r.noun) r.count

def finish (draft : Draft) : Outcome where
  text := draft.queue.edited?
  tally := draft.tally

end Draft

end Abridge
