import Abridge.Language.Table
import Abridge.Proofs.Document
import Abridge.Proofs.Literal.Markers
import Abridge.Proofs.Tree.Laminar

/-!
Where the notes about trimmed strings go.

A note goes behind its string, with closing marks on the same line at most in between. So it comes
behind all that ends before, and in front of all that begins later and is no closing mark. What is
left are the literals around the string: the note lies in such a literal if that goes on behind the
note, as one does that ends on a later line (`notes_lie_inside_enclosing_strings`). The literal is
not trimmed itself then.
-/
namespace Abridge

namespace Literal

/-- Whether a node begins with something other than a closing mark, as strings do. -/
def OpensText (d : Document) (n : Node) : Prop :=
  ∃ c ∈ (d.textOf n).head?, isTail c = false

instance (d : Document) (n : Node) : Decidable (OpensText d n) :=
  decidable_of_iff (((d.textOf n).head?.any fun c => !isTail c) = true) <| by
    simp [OpensText, Option.any_eq_true]

/-- Nothing that begins behind a string reaches over a note about it. -/
theorem note_le_start {d : Document} {stop noteAt : Nat}
    (hstop : d.text.isBoundary stop = true) (hat : d.text.isBoundary noteAt = true)
    (htail : ∀ c ∈ d.text.slice stop noteAt, isTail c = true) {m : Node}
    (hm : d.IsStretch m.start m.stop) (hopens : OpensText d m) (hle : stop ≤ m.start)
    (hreach : noteAt < m.stop) : noteAt ≤ m.start := by
  by_contra hlt
  have hlt : m.start < noteAt := Nat.lt_of_not_le hlt
  obtain ⟨c, hhead, hc⟩ := hopens
  obtain ⟨t, htext⟩ := List.head?_eq_some_iff.mp hhead
  have hmstart := hm.isBoundary_start
  -- The text of the node begins with what stands between its start and the note.
  have hfront : d.text.slice m.start noteAt ++ d.text.slice noteAt m.stop = c :: t :=
    (Text.slice_append_slice hmstart hat hm.isBoundary_stop hlt.le hreach.le).trans htext
  have hwhole : d.text.slice stop m.start ++ d.text.slice m.start noteAt =
      d.text.slice stop noteAt := Text.slice_append_slice hstop hmstart hat hle hlt.le
  cases hslice : d.text.slice m.start noteAt with
  | nil => exact absurd hslice (Text.slice_ne_nil hmstart hat hlt)
  | cons a rest =>
    rw [hslice] at hfront hwhole
    obtain rfl := (List.cons.inj hfront).1
    have ha := htail a (hwhole ▸ List.mem_append_right _ List.mem_cons_self)
    rw [hc] at ha
    cases ha

section
variable {d : Document} (hd : d.IsNested) {n m : Node} (hn : n ∈ d.nodes) (hm : m ∈ d.nodes)
include hd hn hm

/-- The note about a string lies in another literal just if that is around the string and goes on
behind the note. -/
theorem note_inside_iff (hne : n.start < n.stop) {text note : Text} {noteAt : Nat}
    (hnote : note? d n.stop text = some (noteAt, note)) (hopens : OpensText d m) :
    m.start < noteAt ∧ noteAt < m.stop ↔ m.encloses n = true ∧ noteAt < m.stop := by
  have hstop := (hd.stretch n hn).isBoundary_stop
  obtain ⟨hat, hle, htail⟩ := note?_spec hstop hnote
  refine and_congr_left fun hreach => ⟨fun hlt => ?_, fun hencloses => ?_⟩
  · rcases hd.holds_or_stop_le hn hm with (hnm | hmn) | hbefore | hbehind
    · have := (hd.span_le_of_holds hn hm hnm).2
      omega
    · refine Node.encloses_iff.mpr ⟨hmn, fun hpath => ?_⟩
      obtain rfl := Document.eq_of_path_eq hm hn hpath
      omega
    · have := note_le_start hstop hat htail (hd.stretch m hm) hopens hbefore hreach
      omega
    · omega
  · have := (hd.span_le_of_holds hm hn (Node.holds_of_encloses hencloses)).1
    omega

/-- Around a string that is replaced nothing is, but for what ends with the string. -/
theorem not_contains_of_encloses {edits : EditQueue} (hsound : edits.IsSound)
    {text : Text} (htaken : ⟨n.span, text⟩ ∈ edits.edits) (hne : n.start < n.stop)
    (hencloses : m.encloses n = true) (hlt : n.stop < m.stop) :
    ∀ e ∈ edits.edits, e.span.contains m.span = false := by
  intro e he
  have hspan := hd.span_le_of_holds hm hn (Node.holds_of_encloses hencloses)
  refine Bool.eq_false_iff.mpr fun hcontains => ?_
  obtain ⟨hstart, hstop⟩ := Span.contains_iff.mp hcontains
  have hstart : e.span.start ≤ m.start := hstart
  have hstop : m.stop ≤ e.span.stop := hstop
  have hdiffers : e ≠ ⟨n.span, text⟩ := by
    rintro rfl
    have : m.stop ≤ n.stop := hstop
    omega
  have hapart : e.span.collides n.span = false := hsound.apart_of_ne he htaken hdiffers
  have hempty : e.span.isEmpty = false := Bool.eq_false_iff.mpr fun h => by
    have := Span.isEmpty_iff.mp h
    omega
  have hempty' : n.span.isEmpty = false := Bool.eq_false_iff.mpr fun h => by
    have : n.start = n.stop := Span.isEmpty_iff.mp h
    omega
  rw [Span.collides_of_nonempty hempty hempty'] at hapart
  have hoverlaps : e.span.overlaps n.span = true := by
    have h₁ : e.span.start < n.stop := by omega
    have h₂ : n.start < e.span.stop := by omega
    simpa [Span.overlaps] using ⟨h₁, h₂⟩
  rw [hoverlaps] at hapart
  cases hapart

end

/-- Every edit takes the place of a literal or is the note about a string that is replaced. Such a
note lies in another string just if that is around the first and goes on behind the note, and then
nothing replaces it. -/
theorem notes_lie_inside_enclosing_strings {d : Document} (hd : d.IsNested) (config : Config)
    (count : Counter) (max : Nat) {captures : List Document.Capture}
    (hcaptures : d.query "literals" = .ok captures)
    (hopens : ∀ capture ∈ captures, capture.label = "string" → OpensText d capture.node) :
    let queue := (draft (d.job config count) max captures).queue
    ∀ e ∈ queue.edits, (∃ capture ∈ captures, e.span = capture.node.span) ∨
      ∃ string ∈ captures, ∃ t : TrimmedString, string.label = "string" ∧
        ⟨string.node.span, t.text⟩ ∈ queue.edits ∧ e = ⟨.point t.noteAt, t.note⟩ ∧
        ∀ other ∈ captures, other.label = "string" →
          (other.node.start < t.noteAt ∧ t.noteAt < other.node.stop ↔
            other.node.encloses string.node = true ∧ t.noteAt < other.node.stop ∧
              ∀ e ∈ queue.edits, e.span.contains other.node.span = false) := by
  intro queue e he
  have htreated := draft_isTreated (d.job config count) max captures
  cases htreated.origin e he with
  | @literal capture hmem text => exact .inl ⟨capture, hmem, rfl⟩
  | @note string t hmem hlabel htrim htaken =>
    refine .inr ⟨string, hmem, t, hlabel, htaken, rfl, fun other hother hlabel' => ?_⟩
    have hn := Document.mem_nodes_of_query hcaptures hmem
    have hm := Document.mem_nodes_of_query hcaptures hother
    obtain ⟨hne, saved, hnote⟩ := note?_of_trimString? htrim
    have hle := (note?_spec (hd.stretch _ hn).isBoundary_stop hnote).2.1
    rw [note_inside_iff hd hn hm hne hnote (hopens other hother hlabel')]
    refine and_congr_right fun hencloses => ⟨fun hreach => ⟨hreach, ?_⟩, fun h => h.1⟩
    exact not_contains_of_encloses hd hn hm htreated.sound htaken hne hencloses
      (hle.trans_lt hreach)

/-- A file in JavaScript whose only export is a string over two lines with another one in it. -/
def exportedTemplate : Document :=
  .ofTree .javascript "export default \x60$\x7b\"aaaaaaaaaaaa\"\x7d,\nb\x60;\n".toList <|
    .named "program" 0 39 [
      .named "export_statement" 0 38 [
        .token "export" 0 6,
        .token "default" 7 14,
        .inField "value" (.named "template_string" 15 37 [
          .token "\x60" 15 16,
          .named "template_substitution" 16 33 [
            .token "$\x7b" 16 18,
            .named "string" 18 32 [
              .token "\"" 18 19,
              .named "string_fragment" 19 31 [],
              .token "\"" 31 32],
            .token "\x7d" 32 33],
          .named "string_fragment" 33 36 [],
          .token "\x60" 36 37]),
        .token ";" 37 38]]

namespace exportedTemplate

theorem isNested : exportedTemplate.IsNested :=
  (Document.isWellFormed_iff.mp (by decide +kernel)).isNested

/-- The outer string and the one in it. -/
def captures : List Document.Capture :=
  Document.dropRepeats Document.Capture.repeats (exportedTemplate.selected
    (Grammar.literalQuery [("string", "string"), ("template_string", "string"),
      ("array", "array"), ("object", "map")]).selectors)

theorem query_eq : exportedTemplate.query "literals" = .ok captures :=
  Document.query_eq_selected (q := Grammar.literalQuery [("string", "string"),
    ("template_string", "string"), ("array", "array"), ("object", "map")]) rfl (by decide +kernel)

def template : Document.Capture :=
  captures.head (by decide +kernel)

theorem template_mem : template ∈ captures :=
  List.head_mem _

def inner : Document.Capture :=
  captures.getLast (by decide +kernel)

theorem inner_mem : inner ∈ captures :=
  List.getLast_mem _

/-- The inner string, cut to eight bytes. -/
def trimmed : TrimmedString :=
  (trimString? exportedTemplate.language.profile exportedTemplate Counter.bytes inner.node
    (Counter.bytes (exportedTemplate.textOf inner.node)) 8).get (by decide +kernel)

/-- The edits that trim the strings of the file to eight bytes. -/
def edits : List Edit :=
  (draft (exportedTemplate.job {} Counter.bytes) 8 captures).queue.edits

end exportedTemplate

open exportedTemplate

/-- The note about the inner string lies in the outer one, which is left as it is. -/
theorem notes_lie_inside_enclosing_strings_template :
    exportedTemplate.IsNested ∧ exportedTemplate.query "literals" = .ok captures ∧
      (∀ capture ∈ captures, capture.label = "string" →
        OpensText exportedTemplate capture.node) ∧
      ∃ e ∈ edits, template.node.start < e.span.start ∧ e.span.start < template.node.stop ∧
        ∀ e ∈ edits, e.span.contains template.node.span = false := by
  have hopens : ∀ capture ∈ captures, capture.label = "string" →
      OpensText exportedTemplate capture.node := by decide +kernel
  refine ⟨isNested, query_eq, hopens, ?_⟩
  have hcases := notes_lie_inside_enclosing_strings isNested {} Counter.bytes 8 query_eq hopens
  have hnote : ∃ e ∈ edits, (∀ capture ∈ captures, e.span ≠ capture.node.span) ∧
      template.node.start < e.span.start ∧ e.span.start < template.node.stop := by
    decide +kernel
  obtain ⟨e, he, hdiffers, hlt, hreach⟩ := hnote
  refine ⟨e, he, hlt, hreach, ?_⟩
  rcases hcases e he with ⟨capture, hcapture, heq⟩ | ⟨string, _, t, _, _, rfl, hinside⟩
  · exact absurd heq (hdiffers capture hcapture)
  · exact ((hinside template template_mem (by decide +kernel)).mp ⟨hlt, hreach⟩).2.2

/-- The note about the inner string is text of the outer one. -/
theorem note_lies_inside_template :
    ¬ ∀ (d : Document) (config : Config) (count : Counter) (max : Nat)
      (captures : List Document.Capture), d.IsNested → d.query "literals" = .ok captures →
      ∀ string ∈ captures, string.label = "string" →
        ∀ t ∈ trimString? d.language.profile d count string.node
          (count (d.textOf string.node)) max,
          ⟨.point t.noteAt, t.note⟩ ∈ (draft (d.job config count) max captures).queue.edits →
            ∀ other ∈ captures, other.label = "string" → other.node.path ≠ string.node.path →
              ¬ (other.node.start < t.noteAt ∧ t.noteAt < other.node.stop) := by
  intro houtside
  exact houtside exportedTemplate {} Counter.bytes 8 captures isNested query_eq inner inner_mem
    (by decide +kernel) trimmed (Option.some_get _).symm (by decide +kernel) template template_mem
    (by decide +kernel) (by decide +kernel) (by decide +kernel)

end Literal

end Abridge
