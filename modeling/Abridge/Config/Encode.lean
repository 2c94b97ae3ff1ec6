import Abridge.Config.Basic
import Abridge.Json.Basic

/-!
Writing a configuration as a JSON value: every field is given, in the order of the names, and the
comment section in the form that it has.
-/
namespace Abridge

namespace Json

def ofNat (n : Nat) : Json :=
  .number (.natural n)

def ofOption : Option Nat → Json
  | some n => ofNat n
  | none => .null

def ofStrings (items : List String) : Json :=
  .array (items.map .string)

end Json

def CommentPolicy.name : CommentPolicy → String
  | keepAll => "keep_all"
  | stripAll => "strip_all"
  | keepDoc => "keep_doc"
  | keepFirstSentence => "keep_first_sentence"

def BodyMode.name : BodyMode → String
  | off => "none"
  | all => "all"
  | largeOnly => "large_only"
  | nonPublic => "non_public"
  | keepAll => "keep_all"

def ImportPolicy.name : ImportPolicy → String
  | keepAll => "keep_all"
  | stripLocal => "strip_local"
  | stripExternal => "strip_external"
  | stripAll => "strip_all"

def CommentOptions.encode (o : CommentOptions) : Json :=
  .object [
    ("keep_annotations", .ofStrings o.keepAnnotations),
    ("max_tokens", .ofOption o.maxTokens),
    ("policy", .string o.policy.name),
    ("strip_patterns", .ofStrings o.stripPatterns)]

def CommentConfig.encode : CommentConfig → Json
  | bare policy => .string policy.name
  | detailed options => options.encode

def BodyConfig.encode (b : BodyConfig) : Json :=
  .object [
    ("except_patterns", .ofStrings b.exceptPatterns),
    ("keep_annotated", .ofStrings b.keepAnnotated),
    ("max_tokens", .ofOption b.maxTokens),
    ("min_lines", .ofNat b.minLines),
    ("mode", .string b.mode.name)]

def ImportConfig.encode (i : ImportConfig) : Json :=
  .object [
    ("external_patterns", .ofStrings i.externalPatterns),
    ("local_roots", .ofStrings i.localRoots),
    ("max_items_before_summary", .ofNat i.maxItemsBeforeSummary),
    ("policy", .string i.policy.name),
    ("summarize_long", .bool i.summarizeLong)]

def LiteralConfig.encode (l : LiteralConfig) : Json :=
  .object [("max_tokens", .ofOption l.maxTokens)]

def BudgetConfig.encode (b : BudgetConfig) : Json :=
  .object [("max_tokens", .ofOption b.maxTokens)]

def Config.encode (c : Config) : Json :=
  .object [
    ("budget", c.budget.encode),
    ("comments", c.comments.encode),
    ("function_bodies", c.functionBodies.encode),
    ("imports", c.imports.encode),
    ("literals", c.literals.encode),
    ("public_api_only", .bool c.publicApiOnly)]

end Abridge
