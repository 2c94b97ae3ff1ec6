import Abridge.Body.Reduction
import Abridge.Budget.Fit
import Abridge.Comment.Reduction
import Abridge.Declaration.Reduction
import Abridge.Import.Reduction
import Abridge.Literal.Trim

/-!
The reductions one after the other.

A text is parsed before the first reduction, and whenever a reduction has changed it, so that each
works on a document of its own; the parser is a parameter.
-/
namespace Abridge

/-- A parser: a language and a text give a tree. -/
abbrev Parser := Language → Text → Option Tree

/-- The document of a text. -/
def Document.parse (parser : Parser) (language : Language) (text : Text) :
    Except Error Document :=
  match parser language text with
  | some tree => .ok (.ofTree language text tree)
  | none => .error (.source (.parseFailure language "parser produced no tree"))

namespace Pipeline

/-- The reductions in the order in which they run. -/
def reductions : List Reduction :=
  [.imports, .comments, .literals, .functionBodies, .publicSurface]

/-- What is needed to run reductions over texts of one language. -/
structure Setting where
  parser : Parser
  profile : Profile
  config : Config
  count : Counter

/-- How far a run has come: what the text has become, parsed, and what was counted. -/
structure Progress where
  document : Document
  tally : Tally

namespace Setting

def parse (s : Setting) (text : Text) : Except Error Document :=
  Document.parse s.parser s.profile.language text

/-- The work of a reduction on a document. -/
def job (s : Setting) (document : Document) : Job where
  profile := s.profile
  document
  config := s.config
  count := s.count

/-- Takes over what a reduction gave; a text that it changed is parsed. -/
def proceed (s : Setting) (sofar : Progress) (outcome : Outcome) : Except Error Progress := do
  let document ← outcome.text.elim (.ok sofar.document) s.parse
  return { document, tally := sofar.tally.merge outcome.tally }

/-- One reduction more, if the configuration asks for it. -/
def advance (s : Setting) (sofar : Progress) (reduction : Reduction) : Except Error Progress :=
  if reduction.isEnabled s.config then do
    let outcome ← reduction.run (s.job sofar.document)
    s.proceed sofar outcome
  else .ok sofar

end Setting

/-- Abridges a text; the counts stand under the name of the language. -/
def run (s : Setting) (text : Text) : Except Error Abridged := do
  let document ← s.parse text
  let result ← reductions.foldlM s.advance { document, tally := {} }
  return { text := result.document.text, tally := result.tally.under s.profile.language.name }

/-- Abridges a text under a ceiling of tokens. -/
def fit (s : Setting) (text : Text) (ceiling : Nat) : Except Error Abridged :=
  Budget.fit (fun config => run { s with config } text) s.count s.profile.language.name text
    s.config ceiling

end Pipeline

end Abridge
