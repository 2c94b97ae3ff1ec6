import Abridge.Budget.Amount
import Abridge.Config.Basic
import Abridge.Config.Format

/-!
The formats of the sections of a configuration, and of the whole.
-/
namespace Abridge

namespace CommentPolicy

def names : List (String × CommentPolicy) :=
  [("keep_all", .keepAll), ("strip_all", .stripAll), ("keep_doc", .keepDoc),
    ("keep_first_sentence", .keepFirstSentence)]

def format : Format CommentPolicy :=
  .choice names

end CommentPolicy

namespace BodyMode

/-- The body modes by name; `keep_public` is another name for `non_public`. -/
def names : List (String × BodyMode) :=
  [("none", .off), ("all", .all), ("large_only", .largeOnly), ("keep_public", .nonPublic),
    ("non_public", .nonPublic), ("keep_all", .keepAll)]

def format : Format BodyMode :=
  .choice names

end BodyMode

namespace ImportPolicy

def names : List (String × ImportPolicy) :=
  [("keep_all", .keepAll), ("strip_local", .stripLocal), ("strip_external", .stripExternal),
    ("strip_all", .stripAll)]

def format : Format ImportPolicy :=
  .choice names

end ImportPolicy

open Format (field)

def CommentOptions.format : Format CommentOptions :=
  .record "CommentOptions" [
    field "policy" CommentPolicy.format fun a r => { r with policy := a },
    field "max_tokens" (.option .natural) fun a r => { r with maxTokens := a },
    field "keep_annotations" (.list .string) fun a r => { r with keepAnnotations := a },
    field "strip_patterns" (.list .string) fun a r => { r with stripPatterns := a }] {}

/-- The comment section is read whole, as a bare policy first and in detail second. -/
def CommentConfig.format : Format CommentConfig :=
  .buffered fun json =>
    match CommentPolicy.format.decode json, CommentOptions.format.decode json with
    | .ok policy, _ => .ok (.bare policy)
    | _, .ok options => .ok (.detailed options)
    | _, _ => .error (.noVariant "CommentConfig")

def BodyConfig.format : Format BodyConfig :=
  .record "FunctionBodyConfig" [
    field "mode" BodyMode.format fun a r => { r with mode := a },
    field "min_lines" .natural fun a r => { r with minLines := a },
    field "max_tokens" (.option .natural) fun a r => { r with maxTokens := a },
    field "except_patterns" (.list .string) fun a r => { r with exceptPatterns := a },
    field "keep_annotated" (.list .string) fun a r => { r with keepAnnotated := a }] {}

def ImportConfig.format : Format ImportConfig :=
  .record "ImportConfig" [
    field "policy" ImportPolicy.format fun a r => { r with policy := a },
    field "summarize_long" .boolean fun a r => { r with summarizeLong := a },
    field "max_items_before_summary" .natural fun a r => { r with maxItemsBeforeSummary := a },
    field "external_patterns" (.list .string) fun a r => { r with externalPatterns := a },
    field "local_roots" (.list .string) fun a r => { r with localRoots := a }] {}

def LiteralConfig.format : Format LiteralConfig :=
  .record "LiteralConfig" [
    field "max_tokens" (.option .natural) fun a r => { r with maxTokens := a }] {}

/-- A ceiling: a number, or a text such as `8k`. -/
def Budget.ceilingFormat : Format Nat :=
  .buffered fun
    | .number (.natural n) => .ok n
    | .string s => (Budget.amount s.toList).mapError .budget
    | _ => .error (.noVariant "Raw")

def BudgetConfig.format : Format BudgetConfig :=
  .record "BudgetConfig" [
    field "max_tokens" (.option Budget.ceilingFormat) fun a r => { r with maxTokens := a }] {}

namespace Config

def format : Format Config :=
  .record "CodeConfig" [
    field "comments" CommentConfig.format fun a r => { r with comments := a },
    field "function_bodies" BodyConfig.format fun a r => { r with functionBodies := a },
    field "imports" ImportConfig.format fun a r => { r with imports := a },
    field "literals" LiteralConfig.format fun a r => { r with literals := a },
    field "public_api_only" .boolean fun a r => { r with publicApiOnly := a },
    field "budget" BudgetConfig.format fun a r => { r with budget := a }] {}

/-- The configuration that a JSON value stands for. -/
def decode (json : Json) : Decoded Config :=
  format.decode json

end Config

end Abridge
