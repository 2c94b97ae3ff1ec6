import Abridge.Proofs.Comment.Emptied
import Abridge.Proofs.Declaration.Emptied

/-!
Blocks of Python that a reduction empties.

Two reductions take statements out of blocks: the one that leaves the public surface only, and the
one that takes docstrings out together with the comments. A block without a statement is no Python,
so that a stub stands in for what goes. `emptied_blocks_get_one_stub` says that each emptied block
has just one, however many groups its statements go in.
-/
namespace Abridge.Reduction

/-- **An emptied block has just one stub.** In a tree of Python, take a block each of whose
statements lies inside an edit, while what the block belongs to lies inside none, as is so if the
block does (`Node.isEmptiedBy_of_not_contains`). Then just one of the texts that are written into
the block begins with the stub. So it is in the reduction to the public surface for its edits, and
in the one of comments for the edits by which docstrings go; the others there, which take comments
away or cut docstrings short, come first. -/
theorem emptied_blocks_get_one_stub (d : Document) (hd : d.IsPython) (config : Config)
    (count : Counter) :
    let job := d.job config count
    (∀ o, publicSurface.run job = .ok o ↔ o = (Declaration.draft job).finish) ∧
    (Declaration.draft job).StubsOnce d (Declaration.draft job).queue.edits ∧
    (∀ o, comments.run job = .ok o → ∃ rules found, rules.IsRead job ∧
      d.queryNodes "comments" "comment" = .ok found ∧
      o = (Comment.draft rules job found).finish) ∧
    ∀ rules found, ∃ taken, (Comment.draft rules job found).queue.edits =
        (Comment.shortened rules job found).queue.edits ++ taken ∧
      (Comment.draft rules job found).StubsOnce d taken :=
  ⟨fun _ => ⟨draft_of_publicSurface, fun h => h ▸ rfl⟩, Declaration.draft_stubsOnce hd config count,
    fun _ => exists_draft_of_comments,
    fun rules found => Comment.draft_stubsOnce hd rules config count found⟩

/-- A class with a private field and a private method, and a function that has a docstring only. -/
def hollow : Document :=
  .ofTree .python ("class A:\n    _x = 1\n    def _f(self):\n        pass\n" ++
      "def g():\n    \"\"\"Doc.\"\"\"\n").toList <|
    .named "module" 0 75 [
      .named "class_definition" 0 50 [
        .token "class" 0 5,
        .inField "name" (.named "identifier" 6 7 []),
        .token ":" 7 8,
        .inField "body" (.named "block" 13 50 [
          .named "expression_statement" 13 19 [.named "assignment" 13 19 [
            .inField "left" (.named "identifier" 13 15 []),
            .token "=" 16 17,
            .inField "right" (.named "integer" 18 19 [])]],
          .named "function_definition" 24 50 [
            .token "def" 24 27,
            .inField "name" (.named "identifier" 28 30 []),
            .inField "parameters" (.named "parameters" 30 36 [.token "(" 30 31,
              .named "identifier" 31 35 [], .token ")" 35 36]),
            .token ":" 36 37,
            .inField "body" (.named "block" 46 50 [
              .named "pass_statement" 46 50 [.token "pass" 46 50]])]])],
      .named "function_definition" 51 74 [
        .token "def" 51 54,
        .inField "name" (.named "identifier" 55 56 []),
        .inField "parameters" (.named "parameters" 56 58 [.token "(" 56 57, .token ")" 57 58]),
        .token ":" 58 59,
        .inField "body" (.named "block" 64 74 [
          .named "expression_statement" 64 74 [.named "string" 64 74 [
            .named "string_start" 64 67 [], .named "string_content" 67 71 [],
            .named "string_end" 71 74 []]]])]]

namespace hollow

theorem isWellFormed : hollow.IsWellFormed :=
  Document.isWellFormed_iff.mp (by decide +kernel)

theorem isPython : hollow.IsPython where
  language := rfl
  nested := isWellFormed.isNested
  solid _ h _ hc := isWellFormed.solid _ (Document.mem_nodes_of_mem_children h.mem hc)
  root := by decide +kernel
  body := by decide +kernel
  filled := by decide +kernel
  owner := by decide +kernel
  around := by decide +kernel

/-- All comments and docstrings go. -/
def job : Job :=
  Document.job hollow { comments := .bare .stripAll } Counter.bytes

def rules : Comment.Rules where
  options := { policy := .stripAll }
  keep := []
  strip := []
  count := Counter.bytes

/-- The bodies of the class, of its method and of the function. -/
def blocks : List Node :=
  hollow.nodes.filter (·.kind == "block")

theorem mem_nodes_and_kind {block : Node} (h : block ∈ blocks) :
    block ∈ hollow.nodes ∧ block.kind = "block" := by
  obtain ⟨hmem, hkind⟩ := List.mem_filter.mp h
  exact ⟨hmem, eq_of_beq hkind⟩

def classBody : Node :=
  blocks.head (by decide +kernel)

def functionBody : Node :=
  blocks.getLast (by decide +kernel)

theorem edits_declaration : (Declaration.draft job).queue.edits =
    [⟨.between 13 19, "...  # … field omitted".toList⟩,
      ⟨.between 24 50, "# … method omitted".toList⟩] := by
  rw [job, Declaration.draft_eq_foldl isPython]
  decide +kernel

theorem edits_comment : (Comment.draft rules job []).queue.edits =
    [⟨.between 64 74, "...  # … comment omitted".toList⟩] := by
  decide +kernel

theorem edits_shortened : (Comment.shortened rules job []).queue.edits = [] := by
  decide +kernel

/-- The body of the class is longer than either edit. -/
theorem isEmptiedBy_classBody : classBody.IsEmptiedBy (Declaration.draft job).queue.edits := by
  rw [edits_declaration]
  exact Node.isEmptiedBy_of_not_contains isWellFormed.isNested
    (mem_nodes_and_kind (List.head_mem (by decide +kernel))).1 (by decide +kernel)
    (by decide +kernel)

/-- The body of the function goes as a whole. -/
theorem isEmptiedBy_functionBody :
    functionBody.IsEmptiedBy (Comment.draft rules job []).queue.edits := by
  rw [edits_comment]
  exact ⟨by decide +kernel, by decide +kernel⟩

end hollow

open hollow

/-- The field and the method of the class go in two groups, and its body has one stub. So has the
body of the function, which loses its docstring. -/
theorem hollow_blocks_get_one_stub :
    hollow.IsPython ∧
    classBody.IsEmptiedBy (Declaration.draft job).queue.edits ∧
    ((Declaration.draft job).editsInto classBody.span).length = 2 ∧
    ((Declaration.draft job).editsInto classBody.span).countP
      (fun e => e.text.startsWith Profile.Python.stub) = 1 ∧
    functionBody.IsEmptiedBy (Comment.draft rules job []).queue.edits ∧
    ((Comment.draft rules job []).editsInto functionBody.span).countP
      (fun e => e.text.startsWith Profile.Python.stub) = 1 := by
  obtain ⟨-, hdeclaration, -, hcomment⟩ := emptied_blocks_get_one_stub hollow isPython
    { comments := .bare .stripAll } Counter.bytes
  obtain ⟨hclassMem, hclassKind⟩ := mem_nodes_and_kind (List.head_mem (by decide +kernel))
  have hclass := hdeclaration classBody hclassMem hclassKind isEmptiedBy_classBody
  obtain ⟨taken, hedits, htaken⟩ := hcomment rules []
  have hall : (Comment.draft rules job []).queue.edits = taken :=
    hedits.trans (congrArg (· ++ taken) edits_shortened)
  obtain ⟨hfunctionMem, hfunctionKind⟩ := mem_nodes_and_kind (List.getLast_mem (by decide +kernel))
  have hfunction := htaken functionBody hfunctionMem hfunctionKind
    (hall ▸ isEmptiedBy_functionBody)
  have htwo : ((Declaration.draft job).editsInto classBody.span).length = 2 := by
    rw [Draft.editsInto, edits_declaration]
    decide +kernel
  exact ⟨isPython, isEmptiedBy_classBody, htwo, hclass, isEmptiedBy_functionBody, hfunction⟩

end Abridge.Reduction
