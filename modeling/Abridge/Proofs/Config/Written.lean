import Abridge.Proofs.Config.Accepted
import Abridge.Proofs.Config.Record

/-!
Configurations in writing.

Every section is written as a record from which it is read back (`Config.schema`), with its
numbers, names and patterns as they were, and the comment section in the form that it has. So a
configuration that is written and read again is the same, and an empty override only checks its
patterns and puts its comment section in detail (`Config.writing_round_trips`).
-/
namespace Abridge

open Format (Schema ReadsBack)

/-! ### Values -/

namespace Format

theorem readsBack_natural : ReadsBack natural .ofNat := fun _ => rfl

theorem readsBack_boolean : ReadsBack boolean .bool := fun _ => rfl

theorem readsBack_ceiling : ReadsBack Budget.ceilingFormat .ofNat := fun _ => rfl

theorem ReadsBack.option {f : Format Nat} (h : ReadsBack f .ofNat) :
    ReadsBack (option f) .ofOption := by
  intro a
  cases a with
  | none => rfl
  | some n =>
    show some <$> f.decode (.ofNat n) = _
    rw [h n]
    rfl

theorem readsBack_strings : ReadsBack (list string) .ofStrings := by
  intro items
  show (items.map Json.string).mapM string.decode = .ok items
  induction items with
  | nil => rfl
  | cons item rest ih =>
    rw [List.map_cons, List.mapM_cons, ih]
    rfl

theorem readsBack_choice {α : Type} {table : List (String × α)} {name : α → String}
    (h : ∀ a, table.lookup (name a) = some a) :
    ReadsBack (choice table) fun a => .string (name a) := by
  intro a
  show choose table (name a) = .ok a
  rw [choose, h]

theorem isPlain_strings {σ : Type} {name : String} {get : σ → List String}
    {put : List String → σ → σ} : (Entry.mk name (list string) get put .ofStrings).IsPlain :=
  ⟨readsBack_strings, fun _ => rfl⟩

theorem isPlain_option {σ : Type} {f : Format Nat} (h : ReadsBack f .ofNat) {name : String}
    {get : σ → Option Nat} {put : Option Nat → σ → σ} :
    (Entry.mk name (option f) get put .ofOption).IsPlain :=
  ⟨h.option, fun a => by cases a <;> rfl⟩

end Format

/-! ### Sections -/

open Format (isPlain_strings isPlain_option)

namespace CommentOptions

def schema : Schema CommentOptions.format where
  entries := [
    ⟨"keep_annotations", .list .string, (·.keepAnnotations),
      fun a r => { r with keepAnnotations := a }, .ofStrings⟩,
    ⟨"max_tokens", .option .natural, (·.maxTokens),
      fun a r => { r with maxTokens := a }, .ofOption⟩,
    ⟨"policy", CommentPolicy.format, (·.policy),
      fun a r => { r with policy := a }, fun a => .string a.name⟩,
    ⟨"strip_patterns", .list .string, (·.stripPatterns),
      fun a r => { r with stripPatterns := a }, .ofStrings⟩]
  name := _
  fields := _
  start := _

theorem isPlain : schema.IsPlain := by
  have hpolicy : ReadsBack CommentPolicy.format fun a => .string a.name :=
    Format.readsBack_choice fun a => by cases a <;> rfl
  simp only [Schema.IsPlain, schema, List.forall_mem_cons]
  exact ⟨isPlain_strings, isPlain_option Format.readsBack_natural, ⟨hpolicy, fun _ => rfl⟩,
    isPlain_strings, List.forall_mem_nil _⟩

end CommentOptions

namespace BodyConfig

def schema : Schema BodyConfig.format where
  entries := [
    ⟨"except_patterns", .list .string, (·.exceptPatterns),
      fun a r => { r with exceptPatterns := a }, .ofStrings⟩,
    ⟨"keep_annotated", .list .string, (·.keepAnnotated),
      fun a r => { r with keepAnnotated := a }, .ofStrings⟩,
    ⟨"max_tokens", .option .natural, (·.maxTokens),
      fun a r => { r with maxTokens := a }, .ofOption⟩,
    ⟨"min_lines", .natural, (·.minLines), fun a r => { r with minLines := a }, .ofNat⟩,
    ⟨"mode", BodyMode.format, (·.mode), fun a r => { r with mode := a }, fun a => .string a.name⟩]
  name := _
  fields := _
  start := _

theorem isPlain : schema.IsPlain := by
  have hmode : ReadsBack BodyMode.format fun a => .string a.name :=
    Format.readsBack_choice fun a => by cases a <;> rfl
  simp only [Schema.IsPlain, schema, List.forall_mem_cons]
  exact ⟨isPlain_strings, isPlain_strings, isPlain_option Format.readsBack_natural,
    ⟨Format.readsBack_natural, fun _ => rfl⟩, ⟨hmode, fun _ => rfl⟩, List.forall_mem_nil _⟩

end BodyConfig

namespace ImportConfig

def schema : Schema ImportConfig.format where
  entries := [
    ⟨"external_patterns", .list .string, (·.externalPatterns),
      fun a r => { r with externalPatterns := a }, .ofStrings⟩,
    ⟨"local_roots", .list .string, (·.localRoots),
      fun a r => { r with localRoots := a }, .ofStrings⟩,
    ⟨"max_items_before_summary", .natural, (·.maxItemsBeforeSummary),
      fun a r => { r with maxItemsBeforeSummary := a }, .ofNat⟩,
    ⟨"policy", ImportPolicy.format, (·.policy),
      fun a r => { r with policy := a }, fun a => .string a.name⟩,
    ⟨"summarize_long", .boolean, (·.summarizeLong),
      fun a r => { r with summarizeLong := a }, .bool⟩]
  name := _
  fields := _
  start := _

theorem isPlain : schema.IsPlain := by
  have hpolicy : ReadsBack ImportPolicy.format fun a => .string a.name :=
    Format.readsBack_choice fun a => by cases a <;> rfl
  simp only [Schema.IsPlain, schema, List.forall_mem_cons]
  exact ⟨isPlain_strings, isPlain_strings, ⟨Format.readsBack_natural, fun _ => rfl⟩,
    ⟨hpolicy, fun _ => rfl⟩, ⟨Format.readsBack_boolean, fun _ => rfl⟩, List.forall_mem_nil _⟩

end ImportConfig

namespace LiteralConfig

def schema : Schema LiteralConfig.format where
  entries := [
    ⟨"max_tokens", .option .natural, (·.maxTokens),
      fun a r => { r with maxTokens := a }, .ofOption⟩]
  name := _
  fields := _
  start := _

theorem isPlain : schema.IsPlain :=
  List.forall_mem_singleton.mpr (isPlain_option Format.readsBack_natural)

end LiteralConfig

namespace BudgetConfig

def schema : Schema BudgetConfig.format where
  entries := [
    ⟨"max_tokens", .option Budget.ceilingFormat, (·.maxTokens),
      fun a r => { r with maxTokens := a }, .ofOption⟩]
  name := _
  fields := _
  start := _

theorem isPlain : schema.IsPlain :=
  List.forall_mem_singleton.mpr (isPlain_option Format.readsBack_ceiling)

end BudgetConfig

/-! ### The comment section -/

namespace CommentConfig

/-- Several members are no bare policy. -/
theorem decode_object_eq_ok_iff {ms : List (String × Json)} (h : 2 ≤ ms.length)
    {c : CommentConfig} :
    CommentConfig.format.decode (.object ms) = .ok c ↔
      ∃ o, CommentOptions.format.decode (.object ms) = .ok o ∧ c = .detailed o := by
  obtain ⟨e, hpolicy⟩ : ∃ e, CommentPolicy.format.decode (.object ms) = .error e := by
    match ms, h with
    | _ :: _ :: _, _ => exact ⟨_, rfl⟩
  simp only [CommentConfig.format, Format.buffered, hpolicy]
  cases CommentOptions.format.decode (.object ms) with
  | error e => simp
  | ok o => simp [eq_comm]

theorem readsBack : ReadsBack CommentConfig.format encode := by
  intro c
  cases c with
  | bare policy => cases policy <;> rfl
  | detailed o =>
    exact (decode_object_eq_ok_iff (by simp)).mpr ⟨o, CommentOptions.isPlain.readsBack o, rfl⟩

end CommentConfig

/-! ### The whole -/

namespace Config

/-- The sections of a configuration, from the way in which its comment section is written. -/
def schema (comments : CommentConfig → Json) : Schema Config.format where
  entries := [
    ⟨"budget", BudgetConfig.format, (·.budget),
      fun a r => { r with budget := a }, BudgetConfig.encode⟩,
    ⟨"comments", CommentConfig.format, (·.comments),
      fun a r => { r with comments := a }, comments⟩,
    ⟨"function_bodies", BodyConfig.format, (·.functionBodies),
      fun a r => { r with functionBodies := a }, BodyConfig.encode⟩,
    ⟨"imports", ImportConfig.format, (·.imports),
      fun a r => { r with imports := a }, ImportConfig.encode⟩,
    ⟨"literals", LiteralConfig.format, (·.literals),
      fun a r => { r with literals := a }, LiteralConfig.encode⟩,
    ⟨"public_api_only", .boolean, (·.publicApiOnly),
      fun a r => { r with publicApiOnly := a }, .bool⟩]
  name := _
  fields := _
  start := _

theorem readsBack : ReadsBack Config.format encode := by
  refine (schema CommentConfig.encode).readsBack_of_entries ?_
  simp only [schema, List.forall_mem_cons]
  exact ⟨BudgetConfig.isPlain.readsBack, CommentConfig.readsBack, BodyConfig.isPlain.readsBack,
    ImportConfig.isPlain.readsBack, LiteralConfig.isPlain.readsBack, Format.readsBack_boolean,
    List.forall_mem_nil _⟩

theorem merged_object_eq_ok_iff {c d : Config} {ms : List (String × Json)} :
    c.merged (.object ms) = .ok d ↔
      Config.format.decode (c.normalized.encode.deepMerge (.object ms)) = .ok d ∧
        d.IsReadable := by
  rw [← validate_eq_ok_iff]
  simp only [Config.merged, decode]
  cases Config.format.decode (c.normalized.encode.deepMerge (.object ms)) with
  | error e => simp
  | ok result =>
    constructor
    · intro h
      obtain ⟨⟨⟩, hvalid, h⟩ := exists_of_bind_eq_ok h
      obtain rfl := Except.ok.inj h
      exact ⟨rfl, hvalid⟩
    · rintro ⟨h, hvalid⟩
      obtain rfl := Except.ok.inj h
      show (result.validate >>= fun _ => .ok result) = _
      rw [hvalid]
      rfl

/-- A configuration that is written is read back as it was. With nothing laid over it, it has its
comment section in detail and is the same otherwise, if its patterns can be read and only then. -/
theorem writing_round_trips (c : Config) :
    decode c.encode = .ok c ∧
      (c.merged (.object []) = .ok { c with comments := .detailed c.comments.options } ↔
        c.IsReadable) := by
  refine ⟨readsBack c, ?_⟩
  have hdecode : Config.format.decode (c.normalized.encode.deepMerge (.object [])) =
      .ok c.normalized := by
    rw [Config.encode, Json.deepMerge_object, Json.mergeMembers]
    exact readsBack c.normalized
  rw [merged_object_eq_ok_iff]
  exact ⟨fun h => h.2, fun h => ⟨hdecode, h⟩⟩

end Config

end Abridge
