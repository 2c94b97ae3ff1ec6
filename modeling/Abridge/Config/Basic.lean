import Abridge.Text.Search

/-!
The configuration of one run over one file: a section for every sort of thing that can be taken out,
and a ceiling on the tokens that may be left.
-/
namespace Abridge

/-! ### Comments -/

/-- What happens to comments. -/
inductive CommentPolicy where
  | keepAll
  | stripAll
  | keepDoc
  | keepFirstSentence
  deriving DecidableEq, Repr

/-- How much a policy takes away, from keeping all to stripping all. -/
def CommentPolicy.strictness : CommentPolicy → Nat
  | keepAll => 0
  | keepDoc => 1
  | keepFirstSentence => 2
  | stripAll => 3

structure CommentOptions where
  policy : CommentPolicy := .keepAll
  /-- Documentation longer than this is cut. -/
  maxTokens : Option Nat := none
  /-- Patterns of comments that are kept in any case. -/
  keepAnnotations : List String := []
  /-- Patterns of comments that are stripped in any case; they win over those to keep. -/
  stripPatterns : List String := []
  deriving DecidableEq, Repr

/-- The comment section: a bare policy, or options in detail. -/
inductive CommentConfig where
  | bare (policy : CommentPolicy)
  | detailed (options : CommentOptions)
  deriving DecidableEq, Repr

namespace CommentConfig

/-- The section in detail. -/
def options : CommentConfig → CommentOptions
  | bare policy => { policy }
  | detailed options => options

def policy (c : CommentConfig) : CommentPolicy :=
  c.options.policy

/-- Whether the section leaves every comment as it is. -/
def isNoop (c : CommentConfig) : Bool :=
  c.options.policy == .keepAll && c.options.maxTokens.isNone && c.options.stripPatterns.isEmpty

/-- The same section with another policy, in the form in which it was given. -/
def withPolicy (c : CommentConfig) (policy : CommentPolicy) : CommentConfig :=
  match c with
  | bare _ => bare policy
  | detailed options => detailed { options with policy }

end CommentConfig

/-! ### Function bodies -/

/-- Which function bodies are elided. -/
inductive BodyMode where
  /-- None. -/
  | off
  /-- Every body of more than one line. -/
  | all
  /-- Bodies of more than one line and of at least a given number. -/
  | largeOnly
  /-- Bodies of what is not public. -/
  | nonPublic
  /-- None, but a cap on tokens may still trim them. -/
  | keepAll
  deriving DecidableEq, Repr

structure BodyConfig where
  mode : BodyMode := .off
  /-- What counts as large. -/
  minLines : Nat := 5
  /-- Bodies that are kept are trimmed to this many tokens. -/
  maxTokens : Option Nat := none
  /-- Patterns of names whose bodies are kept. -/
  exceptPatterns : List String := []
  /-- Patterns of decorators, attributes or annotations that keep a body. -/
  keepAnnotated : List String := []
  deriving DecidableEq, Repr

def BodyConfig.isNoop (c : BodyConfig) : Bool :=
  (c.mode == .off || c.mode == .keepAll) && c.maxTokens.isNone

/-! ### Imports -/

/-- Which imports are taken out. -/
inductive ImportPolicy where
  | keepAll
  | stripLocal
  | stripExternal
  | stripAll
  deriving DecidableEq, Repr

structure ImportConfig where
  policy : ImportPolicy := .keepAll
  /-- Take out the end of a long list of imports. -/
  summarizeLong : Bool := false
  maxItemsBeforeSummary : Nat := 10
  /-- Patterns of modules that count as external. -/
  externalPatterns : List String := []
  /-- Packages of the project itself; what lies under them is local. -/
  localRoots : List String := []
  deriving DecidableEq, Repr

/-- Whether a path is a root or lies under it, behind a point, a slash or a pair of colons. -/
def underRoot (path root : Text) : Bool :=
  if root.isEmpty then false
  else
    match path.stripStart? root with
    | none => false
    | some rest =>
      rest.isEmpty || rest.head? == some '.' || rest.head? == some '/' ||
        Text.startsWith rest [':', ':']

namespace ImportConfig

def isNoop (c : ImportConfig) : Bool :=
  c.policy == .keepAll && !c.summarizeLong

/-- Whether a module lies under one of the roots of the project. -/
def isLocalRoot (c : ImportConfig) (path : Text) : Bool :=
  c.localRoots.any fun root => underRoot path root.toList

end ImportConfig

/-! ### The whole -/

structure LiteralConfig where
  /-- Longer literals are trimmed; without a number none is. -/
  maxTokens : Option Nat := none
  deriving DecidableEq, Repr

structure BudgetConfig where
  /-- The ceiling for a file. -/
  maxTokens : Option Nat := none
  deriving DecidableEq, Repr

/-- The configuration of a run; by default nothing is taken out. -/
structure Config where
  comments : CommentConfig := .bare .keepAll
  functionBodies : BodyConfig := {}
  imports : ImportConfig := {}
  literals : LiteralConfig := {}
  publicApiOnly : Bool := false
  budget : BudgetConfig := {}
  deriving DecidableEq, Repr

end Abridge
