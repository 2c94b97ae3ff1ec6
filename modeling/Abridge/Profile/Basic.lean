import Abridge.Declaration.Function
import Abridge.Import.Basic
import Abridge.Literal.Collection
import Abridge.Literal.Shape
import Abridge.Path

/-!
Profiles: what has to be known about a language beyond its grammar. A profile says what is declared
and how visible it is, what an import names and where it comes from, how literals are delimited,
which comments document something and which files hold nothing of their own.
-/
namespace Abridge

/-- The statement that stands in for those of an emptied block, and the kinds of block that need
one. -/
structure BlockStub where
  text : Text
  kinds : List String
  deriving DecidableEq, Repr

/-- The rules of a language. -/
structure Profile where
  language : Language
  /-- What attaches to the declaration below it. -/
  attachments : Attachments := {}
  /-- The declarations of a document, members behind their owner. -/
  declarations : Document → List Declaration
  /-- The path of the module that an import names. -/
  modulePath? : Document → Node → Option Text
  /-- Where an import comes from, by what it says itself. -/
  origin : Document → Node → Origin
  /-- Whether a module belongs to the standard library. -/
  isStandard : Text → Bool := fun _ => false
  /-- The packages of the project by the place of a file. -/
  rootsFor : Path → List Text := fun _ => []
  /-- The node that has to go with the last of its imports. -/
  groupOf? : Node → Option Node := fun _ => none
  /-- The node that is taken out for an import. -/
  unit : Node → Node := id
  /-- The node that holds the brackets and elements of a literal. -/
  container? : Node → Option Node := some
  /-- The delimiters of a string literal. -/
  stringShape? : Document → Node → Option StringShape :=
    fun d n => StringShape.ofText? (d.textOf n) n.start
  /-- Whether a literal is never trimmed. -/
  isExempt : Document → Node → Bool := Import.surrounds
  /-- Whether a comment is documentation by itself. -/
  isDoc : Document → Node → Bool := fun d n => d.comments.isDoc (d.textOf n)
  /-- Whether the comments that end with this one document the declaration behind them. -/
  documentsNext : Document → Node → Bool := fun _ _ => false
  /-- Whether a comment speaks to a tool and is never touched. -/
  isDirective : Document → Node → Bool := fun _ _ => false
  /-- The strings that are documentation. -/
  docstrings : Document → List Node := fun _ => []
  /-- The name of a function. -/
  functionName? : Document → Node → Option Text := Function.name?
  /-- Whether a file holds nothing of its own. -/
  isTrivial : Document → Path → Bool
  /-- Whether braces delimit bodies, and not indentation. -/
  hasBraces : Bool := true
  /-- What keeps an emptied block alive. -/
  stub? : Option BlockStub := none

namespace Profile

/-- The brackets and elements of a literal. -/
def collection? (p : Profile) (n : Node) : Option Collection :=
  (p.container? n).bind Collection.ofContainer?

/-- The decorators, attributes and annotations of a function. -/
def annotations (p : Profile) (d : Document) (function : Node) : List Text :=
  Function.annotations d p.attachments function

end Profile

end Abridge
