import Abridge.Proofs.Body.Exempt
import Abridge.Proofs.Budget.Growth
import Mathlib.Order.Bounds.Basic

/-!
Bodies that are trimmed to the statements that fit.

The longer the front of a body, the more tokens it counts, so that the search for the first
statement that does not fit finds the longest front that does (`isGreatest_fitting`). What is behind
it, or behind the first statement if not even that one fits, gives way to one placeholder that says
how many statements are missing (`IsTrim`). A body that is reached and has more than it may is
trimmed unless all its statements fit or no comment can stand there, and nothing else happens to it
(`trim_keeps_longest_front`).
-/
namespace Abridge

/-! ### Edits within a stretch that is free -/

/-- An edit that fits in a stretch that no edit of a queue reaches into is taken. -/
theorem EditQueue.replace?_of_contains {q : EditQueue} {outer span : Span}
    (houter : q.collides outer = false) (hcontains : outer.contains span = true)
    (hfits : q.fits span = true) (text : Text) :
    q.replace? span text = some { q with edits := q.edits ++ [⟨span, text⟩] } := by
  refine replace?_eq_some_iff.mpr ⟨hfits, collides_eq_false_iff.mpr fun e he => ?_, rfl⟩
  refine Bool.eq_false_iff.mpr fun hcollides => ?_
  have hfree := collides_eq_false_iff.mp houter e he
  rw [Span.collides_of_contains hcontains hcollides] at hfree
  cases hfree

namespace Body
variable {d : Document} {count : Counter} {body : Node} {max : Nat}

/-! ### The longest front -/

/-- Whether the text from the start of a body to the end of its `k`-th statement fits. -/
def FitsThrough (d : Document) (count : Counter) (body : Node) (max k : Nat) : Prop :=
  k ≤ (statements body).length ∧
    ∀ s ∈ ((statements body).take k).getLast?, count (d.textBetween body.start s.stop) ≤ max

/-- Where a member passes whenever one behind it does, a front is passed through just when its last
member passes. -/
theorem le_length_takeWhile_iff {α : Type} {p : α → Bool} {l : List α}
    (h : l.Pairwise fun a b => p b = true → p a = true) {k : Nat} :
    k ≤ (l.takeWhile p).length ↔ k ≤ l.length ∧ ∀ a ∈ (l.take k).getLast?, p a = true := by
  induction l generalizing k with
  | nil => simp
  | cons a l ih =>
    obtain ⟨hhead, htail⟩ := List.pairwise_cons.mp h
    cases k with
    | zero => simp
    | succ k =>
      cases ha : p a with
      | false =>
        -- Were the last member of the front passed through, the first one would be.
        rw [List.takeWhile_cons_of_neg (by simp [ha])]
        refine iff_of_false (Nat.not_succ_le_zero k) fun ⟨_, hpass⟩ => ?_
        have hne : (a :: l).take (k + 1) ≠ [] := List.cons_ne_nil _ _
        have hb := hpass _ (List.getLast?_eq_some_getLast hne)
        rcases List.mem_cons.mp (List.mem_of_mem_take (List.getLast_mem hne)) with heq | hmem
        · rw [heq, ha] at hb
          cases hb
        · rw [hhead _ hmem hb] at ha
          cases ha
      | true =>
        rw [List.takeWhile_cons_of_pos ha, List.length_cons, Nat.succ_le_succ_iff, ih htail,
          List.take_succ_cons, List.length_cons, Nat.succ_le_succ_iff]
        refine and_congr_right fun hk => ?_
        rcases hfront : l.take k with _ | ⟨b, front⟩
        · simp [ha]
        · rw [List.getLast?_cons_cons]

section Nested
variable (hd : d.IsNested) (hbody : body ∈ d.nodes)
include hd hbody

/-- The statements of a body are in order and lie in it. -/
theorem pairwise_statements : (statements body).Pairwise fun a b => a.stop ≤ b.start := by
  obtain ⟨n, hn, hsublist⟩ := exists_statements_sublist body
  exact (hd.children_pairwise (hn.mem_nodes hbody)).sublist hsublist

theorem mem_statements {s : Node} (hs : s ∈ statements body) :
    s ∈ d.nodes ∧ body.start ≤ s.start ∧ s.stop ≤ body.stop := by
  obtain ⟨n, hn, hsublist⟩ := exists_statements_sublist body
  have hnodes := hn.mem_nodes hbody
  have hchild := hsublist.subset hs
  have houter := hn.span_le hbody hd
  have hinner := hd.span_le hnodes hchild
  exact ⟨Document.mem_nodes_of_mem_children hnodes hchild, houter.1.trans hinner.1,
    hinner.2.trans houter.2⟩

/-- A front of a body counts for more tokens the further it goes. -/
theorem count_front_le (hcount : count.Grows) {a b : Node} (ha : a ∈ statements body)
    (hb : b ∈ statements body) (hab : a.stop ≤ b.start) :
    count (d.textBetween body.start a.stop) ≤ count (d.textBetween body.start b.stop) := by
  obtain ⟨han, hastart, -⟩ := mem_statements hd hbody ha
  obtain ⟨hbn, -⟩ := mem_statements hd hbody hb
  have hsa := hd.stretch a han
  have hsb := hd.stretch b hbn
  have hfront : d.IsStretch body.start a.stop :=
    ⟨(hd.stretch body hbody).isBoundary_start, hsa.isBoundary_stop,
      hastart.trans hsa.start_le_stop⟩
  have hback : d.IsStretch a.stop b.stop :=
    ⟨hsa.isBoundary_stop, hsb.isBoundary_stop, hab.trans hsb.start_le_stop⟩
  rw [← hfront.textBetween_append hback]
  exact hcount _ _

/-- The search stops at the longest front that fits. -/
theorem isGreatest_fitting (hcount : count.Grows) (max : Nat) :
    IsGreatest {k | FitsThrough d count body max k}
      (fitting d count body.start max (statements body)) := by
  have hmono : (statements body).Pairwise fun a b =>
      decide (count (d.textBetween body.start b.stop) ≤ max) = true →
        decide (count (d.textBetween body.start a.stop) ≤ max) = true :=
    (pairwise_statements hd hbody).imp_of_mem fun ha hb hab hpass =>
      decide_eq_true ((count_front_le hd hbody hcount ha hb hab).trans (of_decide_eq_true hpass))
  have hiff : ∀ k, FitsThrough d count body max k ↔
      k ≤ fitting d count body.start max (statements body) := fun k => by
    rw [fitting, le_length_takeWhile_iff hmono]
    simp only [decide_eq_true_eq]
    rfl
  exact ⟨(hiff _).mpr (Nat.le_refl _), fun k hk => (hiff k).mp hk⟩

end Nested

/-! ### What is dropped -/

/-- The statements that are left out lie between the start of the first and the end of the last. -/
theorem between_contains {l : List Node} (hordered : l.Pairwise fun a b => a.stop ≤ b.start)
    (hwide : ∀ s ∈ l, s.start ≤ s.stop) {first last : Node} (hfirst : l.head? = some first)
    (hlast : l.getLast? = some last) {s : Node} (hs : s ∈ l) :
    first.start ≤ s.start ∧ s.stop ≤ last.stop := by
  constructor
  · obtain ⟨rest, rfl⟩ := List.head?_eq_some_iff.mp hfirst
    rcases List.mem_cons.mp hs with rfl | hmem
    · exact Nat.le_refl _
    · exact (hwide first List.mem_cons_self).trans ((List.pairwise_cons.mp hordered).1 s hmem)
  · obtain ⟨front, rfl⟩ := List.getLast?_eq_some_iff.mp hlast
    rcases List.mem_append.mp hs with hmem | hmem
    · exact ((List.pairwise_append.mp hordered).2.2 s hmem last List.mem_cons_self).trans
        (hwide last (List.mem_append_right _ List.mem_cons_self))
    · obtain rfl := List.mem_singleton.mp hmem
      exact Nat.le_refl _

/-- The number of statements that stay: those that fit, and at least one. -/
def kept (d : Document) (count : Counter) (body : Node) (max : Nat) : Nat :=
  Nat.max 1 (fitting d count body.start max (statements body))

/-- Nothing is removed from a body that fits, or whose statements all do; otherwise the removal goes
from the first statement that does not stay to the last. -/
theorem excess?_eq_some_iff {r : Removal} :
    excess? d count body max = some r ↔
      max < count (d.textOf body) ∧ ∃ first last,
        (statements body)[kept d count body max]? = some first ∧
        (statements body).getLast? = some last ∧
        r = {
          span := .between first.start last.stop
          statement := first
          count := (statements body).length - kept d count body max
          noun := "statement" } := by
  have hpos : 1 ≤ kept d count body max := Nat.le_max_left _ _
  rw [← List.head?_drop]
  unfold excess?
  simp only
  rw [show Nat.max 1 (fitting d count body.start max (statements body)) =
    kept d count body max from rfl]
  split
  next hfew =>
    simp only [Bool.or_eq_true, decide_eq_true_eq] at hfew
    refine iff_of_false (by simp) ?_
    rintro ⟨hover, first, last, hfirst, -⟩
    have hlt := List.length_pos_of_mem (List.mem_of_mem_head? hfirst)
    rw [List.length_drop] at hlt
    omega
  next hmany =>
    simp only [Bool.or_eq_true, decide_eq_true_eq, not_or, Nat.not_le] at hmany
    rcases hdrop : (statements body).drop (kept d count body max) with _ | ⟨first, rest⟩
    · simp
    · have hlast : (first :: rest).getLast? = (statements body).getLast? := by
        rw [← hdrop, List.getLast?_drop, if_neg]
        intro hle
        rw [List.drop_eq_nil_of_le hle] at hdrop
        cases hdrop
      have hlength : (first :: rest).length =
          (statements body).length - kept d count body max := by rw [← hdrop, List.length_drop]
      obtain ⟨last, hl⟩ : ∃ last, (first :: rest).getLast? = some last :=
        ⟨_, List.getLast?_eq_some_getLast (List.cons_ne_nil first rest)⟩
      rw [← hlast, hl, hlength]
      simp [hmany.2, eq_comm]

/-- An edit within a stretch leaves what stands in front of it and behind it. -/
theorem splice_within {start stop : Nat} {e : Edit} (hfront : d.IsStretch start e.span.start)
    (hback : d.IsStretch e.span.stop stop) :
    d.text.splice e =
      d.text.before start ++ d.textBetween start e.span.start ++ e.text ++
        d.textBetween e.span.stop stop ++ d.text.after stop := by
  rw [hfront.textBetween_eq, hback.textBetween_eq,
    Text.before_append_slice hfront.isBoundary_start hfront.isBoundary_stop hfront.start_le_stop,
    List.append_assoc _ (d.text.slice _ _), Text.slice_append_after hback.isBoundary_start
      hback.isBoundary_stop hback.start_le_stop]
  rfl

/-- The edit that trims a body to its first `keep` statements: one placeholder for the `dropped`
statements behind them, from the start of the first to the end of the last. -/
structure IsTrim (d : Document) (body : Node) (keep dropped : Nat) (e : Edit) : Prop where
  conserved : keep + dropped = (statements body).length
  start : ∃ s, (statements body)[keep]? = some s ∧ e.span.start = s.start
  stop : ∃ s, (statements body).getLast? = some s ∧ e.span.stop = s.stop
  /-- The placeholder is a comment that fits in front of what follows, and says what is missing. -/
  placeholder : Placeholder.commentBefore? d.lines d.comments e.span.stop
    (Placeholder.omitted dropped "statement".toList) = some e.text
  reported : dropped < Budget.countLimit →
    Placeholder.countElisions e.text "statement".toList = dropped
  within : body.span.contains e.span = true
  /-- The statements that stay lie in front of the edit, and the others in it. -/
  front : ∀ s ∈ (statements body).take keep, body.start ≤ s.start ∧ s.stop ≤ e.span.start
  back : ∀ s ∈ (statements body).drop keep, e.span.contains s.span = true
  /-- All else stays as it was, also in the body. -/
  verbatim : d.text.splice e =
    d.text.before body.start ++ d.textBetween body.start e.span.start ++ e.text ++
      d.textBetween e.span.stop body.stop ++ d.text.after body.stop

section Nested
variable (hd : d.IsNested) (hbody : body ∈ d.nodes)
include hd hbody

/-- From any statement on, all statements lie between the start of this one and the end of the
last. -/
theorem mem_drop_statements {k : Nat} {first last : Node}
    (hfirst : (statements body)[k]? = some first) (hlast : (statements body).getLast? = some last)
    {s : Node} (hs : s ∈ (statements body).drop k) :
    first.start ≤ s.start ∧ s.stop ≤ last.stop := by
  obtain ⟨hlt, -⟩ := List.getElem?_eq_some_iff.mp hfirst
  refine between_contains ((pairwise_statements hd hbody).sublist (List.drop_sublist k _))
    (fun s hs => ?_) (by rw [List.head?_drop, hfirst])
    (by rw [List.getLast?_drop, if_neg (by omega), hlast]) hs
  exact (hd.stretch s (mem_statements hd hbody (List.mem_of_mem_drop hs)).1).start_le_stop

theorem stop_between {k : Nat} {first last : Node} (hfirst : (statements body)[k]? = some first)
    (hlast : (statements body).getLast? = some last) :
    (Span.between first.start last.stop).stop = last.stop := by
  have hmem : first ∈ (statements body).drop k :=
    List.mem_of_mem_head? (by rw [List.head?_drop, hfirst]; rfl)
  have hwide := hd.stretch first (mem_statements hd hbody (List.mem_of_mem_drop hmem)).1
  exact Nat.max_eq_left
    (hwide.start_le_stop.trans (mem_drop_statements hd hbody hfirst hlast hmem).2)

theorem isTrim_of_excess? {r : Removal} (hr : excess? d count body max = some r) {comment : Text}
    (hcomment : Draft.placeholder? d r = some comment) :
    IsTrim d body (kept d count body max) r.count ⟨r.span, comment⟩ := by
  obtain ⟨-, first, last, hfirst, hlast, rfl⟩ := excess?_eq_some_iff.mp hr
  have hstop := stop_between hd hbody hfirst hlast
  have hmem : ∀ s ∈ statements body, d.IsStretch s.start s.stop ∧ body.start ≤ s.start ∧
      s.stop ≤ body.stop := fun s hs =>
    have h := mem_statements hd hbody hs
    ⟨hd.stretch s h.1, h.2⟩
  obtain ⟨hstretchFirst, hstartFirst, -⟩ := hmem first (List.mem_of_getElem? hfirst)
  obtain ⟨hstretchLast, -, hstopLast⟩ := hmem last (List.mem_of_mem_getLast? hlast)
  have hnoun : Placeholder.IsNoun "statement".toList :=
    Placeholder.isNoun_of_mem_nouns (show "statement" ∈ _ by decide)
  have hwraps := wraps_commentBefore? d.language.not_mem_delimiters hcomment
  have hbodyStretch := hd.stretch body hbody
  have hfront : d.IsStretch body.start first.start :=
    ⟨hbodyStretch.isBoundary_start, hstretchFirst.isBoundary_start, hstartFirst⟩
  have hback : d.IsStretch last.stop body.stop :=
    ⟨hstretchLast.isBoundary_stop, hbodyStretch.isBoundary_stop, hstopLast⟩
  exact {
    conserved := Nat.add_sub_cancel' (List.getElem?_eq_some_iff.mp hfirst).1.le
    start := ⟨first, hfirst, rfl⟩
    stop := ⟨last, hlast, hstop⟩
    placeholder := hcomment
    reported := fun hlimit =>
      (hwraps.countElisions (Placeholder.isClosed_omitted hnoun _).1 _).trans
        (Placeholder.countElisions_omitted_self hnoun hlimit)
    within := Span.contains_iff.mpr ⟨hstartFirst, hstop.le.trans hstopLast⟩
    front := fun s hs => by
      have hordered := pairwise_statements hd hbody
      rw [← List.take_append_drop (kept d count body max) (statements body)] at hordered
      exact ⟨(hmem s (List.mem_of_mem_take hs)).2.1, (List.pairwise_append.mp hordered).2.2 s hs
        first (List.mem_of_mem_head? (by rw [List.head?_drop, hfirst]; rfl))⟩
    back := fun s hs =>
      have h := mem_drop_statements hd hbody hfirst hlast hs
      Span.contains_iff.mpr ⟨h.1, h.2.trans hstop.ge⟩
    verbatim := splice_within hfront (by rwa [hstop]) }

end Nested

/-! ### In a run -/

/-- Whether a run comes to treat a body: no edit so far reaches into it, and its function was
understood by the parser and is not exempt. -/
def IsReached (exemptions : Exemptions) (job : Job) (draft : Draft) (body : Node) : Prop :=
  draft.queue.collides body.span = false ∧ ∃ function, body.parent? = some function ∧
    function.isOpaque = false ∧ exemptions.exempts job.profile job.document function = false

/-- Whether a body is not one that the mode takes out. -/
def Stays (job : Job) (body : Node) : Prop :=
  ∀ function, body.parent? = some function →
    isStripped job.config.functionBodies (job.document.lineCount body)
      (Declaration.standingOf? (job.profile.declarations job.document) function) = false

/-- Trims a body, if there is anything to remove. -/
def trim (d : Document) (count : Counter) (draft : Draft) (body : Node) (max : Nat) : Draft :=
  match excess? d count body max with
  | none => draft
  | some r => draft.remove d r

section Treat
variable {c : Context} {draft : Draft}

theorem treat_of_not_isReached (h : ¬ IsReached c.exemptions c.job draft body) :
    treat c draft body = draft := by
  unfold treat
  simp only
  split
  · rfl
  next function hparent =>
    refine if_pos ?_
    by_contra hopen
    simp only [Bool.or_eq_true, not_or, Bool.not_eq_true] at hopen
    exact h ⟨hopen.1.1, function, hparent, hopen.1.2, hopen.2⟩

theorem treat_of_isReached
    (hdeclarations : c.declarations = c.job.profile.declarations c.job.document)
    (hreached : IsReached c.exemptions c.job draft body) (hstays : Stays c.job body)
    (hmax : c.job.config.functionBodies.maxTokens = some max) :
    treat c draft body = trim c.job.document c.job.count draft body max := by
  obtain ⟨hfree, function, hparent, hclear, hexempt⟩ := hreached
  have hstays := hstays function hparent
  rw [← hdeclarations] at hstays
  simp only [treat, hparent, hfree, hclear, hexempt, hstays, hmax, Bool.or_self,
    Bool.false_eq_true, if_false, Option.bind_some]
  rfl

theorem remove_of_no_stubs (h : draft.stubs = {}) {r : Removal} {comment : Text}
    (hcomment : Draft.placeholder? d r = some comment) :
    draft.remove d r = draft.replace r.span comment (Draft.removedKey r.noun) r.count := by
  have htake : draft.stubs.take r.statement = (none, {}) := by
    rw [h, Stubs.take]
    split <;> rfl
  have hsame : { draft with stubs := {} } = draft := by rw [← h]
  rw [Draft.remove, hcomment]
  simp only [htake, hsame, Draft.withStub]

theorem stubs_replace (h : draft.stubs = {}) (span : Span) (text : Text) (key : String) (n : Nat) :
    (draft.replace span text key n).stubs = {} := by
  rcases Draft.replace_cases draft span text key n with heq | ⟨_, -, -, heq⟩ <;> rw [heq] <;>
    exact h

theorem stubs_treat (h : draft.stubs = {}) : (treat c draft body).stubs = {} := by
  unfold treat
  simp only
  split
  · exact h
  split
  · exact h
  split
  · rcases elide_cases c draft body _ with heq | ⟨_, _, _, -, heq⟩ <;> rw [heq]
    · exact h
    · exact stubs_replace h _ _ _ _
  split
  · exact h
  next r _ =>
    cases hcomment : Draft.placeholder? c.job.document r with
    | none => simp only [Draft.remove, hcomment, h]
    | some comment =>
      rw [remove_of_no_stubs h hcomment]
      exact stubs_replace h _ _ _ _

end Treat

/-- Whether a body has more than it may, and there is a place for the comment on what is left out
behind its first statements. -/
structure HasExcess (d : Document) (count : Counter) (body : Node) (max keep : Nat) : Prop where
  exceeds : max < count (d.textOf body)
  behind : keep < (statements body).length
  place : ∃ last ∈ (statements body).getLast?, ∃ comment,
    Placeholder.commentBefore? d.lines d.comments last.stop
      (Placeholder.omitted ((statements body).length - keep) "statement".toList) = some comment

/-- A body that no edit reaches into is trimmed, or there is nothing to remove or no place for the
comment. -/
theorem trim_cases (hd : d.IsNested) (hbody : body ∈ d.nodes) {draft : Draft}
    (hstubs : draft.stubs = {}) (hsource : draft.queue.source = d.text)
    (hfree : draft.queue.collides body.span = false) :
    let keep := kept d count body max
    let dropped := (statements body).length - keep
    trim d count draft body max = draft ∧ ¬ HasExcess d count body max keep ∨
      HasExcess d count body max keep ∧ ∃ e, IsTrim d body keep dropped e ∧
        (trim d count draft body max).queue.edits = draft.queue.edits ++ [e] ∧
        (trim d count draft body max).tally = draft.tally.incr "removed.statement" dropped := by
  intro keep dropped
  cases hexcess : excess? d count body max with
  | none =>
    refine .inl ⟨by rw [trim, hexcess], fun ⟨hover, hbehind, last, hlast, _⟩ => ?_⟩
    have hsome := excess?_eq_some_iff.mpr
      ⟨hover, _, last, List.getElem?_eq_getElem hbehind, hlast, rfl⟩
    rw [hexcess] at hsome
    cases hsome
  | some r =>
    obtain ⟨hover, first, last, hfirst, hlast, heq⟩ := excess?_eq_some_iff.mp hexcess
    have hstop := stop_between hd hbody hfirst hlast
    have hplaceholder : Draft.placeholder? d r = Placeholder.commentBefore? d.lines d.comments
        last.stop (Placeholder.omitted dropped "statement".toList) := by
      rw [heq]
      exact congrArg (fun stop => Placeholder.commentBefore? d.lines d.comments stop _) hstop
    cases hcomment : Draft.placeholder? d r with
    | none =>
      refine .inl ⟨by rw [trim, hexcess]; simp only [Draft.remove, hcomment], ?_⟩
      rintro ⟨-, -, other, hother, comment, hplace⟩
      obtain rfl : last = other := Option.some.inj (hlast.symm.trans hother)
      rw [← hplaceholder, hcomment] at hplace
      cases hplace
    | some comment =>
      have htrim := isTrim_of_excess? hd hbody hexcess hcomment
      have hcount : r.count = dropped := by rw [heq]
      have hkey : Draft.removedKey r.noun = "removed.statement" := by rw [heq]; rfl
      have hfits : draft.queue.fits r.span = true := by
        have hfront := hd.stretch first (mem_statements hd hbody (List.mem_of_getElem? hfirst)).1
        have hback := hd.stretch last
          (mem_statements hd hbody (List.mem_of_mem_getLast? hlast)).1
        rw [EditQueue.fits, hsource, heq, hstop, hback.isBoundary_stop, Bool.and_true]
        exact hfront.isBoundary_start
      have htaken := EditQueue.replace?_of_contains hfree htrim.within hfits comment
      refine .inr ⟨⟨hover, (List.getElem?_eq_some_iff.mp hfirst).1, last, hlast, comment,
        hplaceholder.symm.trans hcomment⟩, ⟨r.span, comment⟩, hcount ▸ htrim, ?_⟩
      rw [trim, hexcess]
      simp only [remove_of_no_stubs hstubs hcomment, Draft.replace, htaken, hcount, hkey]
      exact ⟨trivial, trivial⟩

theorem draft_concat (exemptions : Exemptions) (job : Job) (done : List Node) (body : Node) :
    draft exemptions job (done ++ [body]) =
      treat ⟨job, exemptions, job.profile.declarations job.document,
        job.profile.docstrings job.document⟩ (draft exemptions job done) body := by
  simp only [draft, List.foldl_append, List.foldl_cons, List.foldl_nil]

/-- Bodies never wait for a stub. -/
theorem stubs_draft (exemptions : Exemptions) (job : Job) (bodies : List Node) :
    (draft exemptions job bodies).stubs = {} :=
  List.foldlRecOn (motive := fun draft => draft.stubs = {}) bodies
    (treat ⟨job, exemptions, _, _⟩) rfl fun _ h _ _ => stubs_treat h

theorem source_draft (exemptions : Exemptions) (job : Job) (bodies : List Node) :
    (draft exemptions job bodies).queue.source = job.document.text :=
  (draft_isWritten exemptions job bodies).source_and_isSound.1

/-- **A body that is trimmed keeps its longest front that fits.** With a counter that counts no
fewer tokens when text is added, and any limit, a body that has fewer than two statements or that
fits as a whole is left alone. Another one that the run reaches is trimmed, unless all its
statements fit or there is no place for a comment: it keeps the statements of its longest front that
fits, or its first one, and a single edit puts a placeholder in the place of all from the next
statement to the last. The number that it gives is what is counted, and makes up all statements with
those that stay. -/
theorem trim_keeps_longest_front (d : Document) (hd : d.IsNested) (config : Config)
    (count : Counter) (hcount : count.Grows) (exemptions : Exemptions) (done : List Node)
    (body : Node) (hbody : body ∈ d.nodes) (max : Nat)
    (hmax : config.functionBodies.maxTokens = some max) (hstays : Stays (d.job config count) body) :
    let all := statements body
    let before := draft exemptions (d.job config count) done
    let after := draft exemptions (d.job config count) (done ++ [body])
    (all.length < 2 ∨ count (d.textOf body) ≤ max → after = before) ∧
    ∃ fits, IsGreatest {k | FitsThrough d count body max k} fits ∧
      let keep := Nat.max 1 fits
      let dropped := all.length - keep
      (after ≠ before ↔ IsReached exemptions (d.job config count) before body ∧
        HasExcess d count body max keep) ∧
      (after ≠ before → ∃ e, IsTrim d body keep dropped e ∧
        after.queue.edits = before.queue.edits ++ [e] ∧
        after.tally = before.tally.incr "removed.statement" dropped) := by
  intro all before after
  have hstep := draft_concat exemptions (d.job config count) done body
  have hexact : (after = before ∧ ¬ (IsReached exemptions (d.job config count) before body ∧
        HasExcess d count body max (kept d count body max))) ∨
      (IsReached exemptions (d.job config count) before body ∧
        HasExcess d count body max (kept d count body max)) ∧
        ∃ e, IsTrim d body (kept d count body max) (all.length - kept d count body max) e ∧
          after.queue.edits = before.queue.edits ++ [e] ∧
          after.tally = before.tally.incr "removed.statement"
            (all.length - kept d count body max) := by
    by_cases hreached : IsReached exemptions (d.job config count) before body
    · have hafter : after = trim d count before body max :=
        hstep.trans (treat_of_isReached rfl hreached hstays hmax)
      rw [hafter]
      have htrim := @trim_cases d count body max hd hbody _ (stubs_draft exemptions _ done)
        (source_draft exemptions (d.job config count) done) hreached.1
      rcases htrim with ⟨hsame, hno⟩ | ⟨hexcess, htrim⟩
      · exact .inl ⟨hsame, fun h => hno h.2⟩
      · exact .inr ⟨⟨hreached, hexcess⟩, htrim⟩
    · exact .inl ⟨hstep.trans (treat_of_not_isReached hreached), fun h => hreached h.1⟩
  refine ⟨fun hfew => ?_, _, isGreatest_fitting hd hbody hcount max, ?_⟩
  · rcases hexact with ⟨hsame, -⟩ | ⟨⟨-, hexcess⟩, -⟩
    · exact hsame
    · have hover := hexcess.exceeds
      have hbehind := hexcess.behind
      have hpos : 1 ≤ kept d count body max := Nat.le_max_left _ _
      change (statements body).length < 2 ∨ _ at hfew
      omega
  · rcases hexact with ⟨hsame, hno⟩ | ⟨hboth, e, htrim, hedits, htally⟩
    · exact ⟨iff_of_false (fun h => h hsame) hno, fun h => absurd hsame h⟩
    · have hne : after ≠ before := fun hsame => by
        have hlength := congrArg List.length hedits
        rw [hsame, List.length_append, List.length_singleton] at hlength
        omega
      exact ⟨iff_of_true hne hboth, fun _ => ⟨e, htrim, hedits, htally⟩⟩

namespace threeCalls

/-- A call without arguments of a function with a name of one letter. -/
def call (start : Nat) : Tree :=
  .named "expression_statement" start (start + 3) [
    .named "call_expression" start (start + 3) [
      .inField "function" (.named "identifier" start (start + 1) []),
      .inField "arguments" (.named "argument_list" (start + 1) (start + 3) [
        .token "(" (start + 1) (start + 2), .token ")" (start + 2) (start + 3)])]]

/-- A function in Go with three calls, of which only the first fits in ten bytes. -/
def document : Document :=
  .ofTree .go "package p\n\nfunc f() \x7b\n\ta()\n\t// x\n\tb()\n\tc()\n\x7d\n".toList <|
    .named "source_file" 0 45 [
      .named "package_clause" 0 9 [.token "package" 0 7, .named "package_identifier" 8 9 []],
      .named "function_declaration" 11 44 [
        .token "func" 11 15,
        .inField "name" (.named "identifier" 16 17 []),
        .inField "parameters" (.named "parameter_list" 17 19 [.token "(" 17 18, .token ")" 18 19]),
        .inField "body" (.named "block" 20 44 [
          .token "\x7b" 20 21, call 23, .named "comment" 28 32 [], call 34, call 39,
          .token "\x7d" 43 44])]]

def block : Node :=
  (document.nodes.find? fun n => n.kind == "block").get (by decide +kernel)

/-- Limits what stays of a body to ten bytes. -/
def config : Config where
  functionBodies := { maxTokens := some 10 }

end threeCalls

/-- Two calls go with one comment on both, and the comment between the calls stays. -/
theorem trim_keeps_longest_front_threeCalls :
    let d := threeCalls.document
    let block := threeCalls.block
    let job := d.job threeCalls.config Counter.bytes
    let after := draft ⟨[], []⟩ job [block]
    d.IsNested ∧ Counter.bytes.Grows ∧ block ∈ d.nodes ∧
      threeCalls.config.functionBodies.maxTokens = some 10 ∧ Stays job block ∧
      IsGreatest {k | FitsThrough d Counter.bytes block 10 k} 1 ∧
      after.queue.edits = [⟨⟨34, 42, by decide⟩, "// … 2 statements omitted".toList⟩] ∧
      (∃ e ∈ after.queue.edits, IsTrim d block 1 2 e) ∧
      after.tally.get "removed.statement" = 2 := by
  intro d block job after
  have hnested : d.IsNested := (Document.isWellFormed_iff.mp (by decide +kernel)).isNested
  have hgrows : Counter.bytes.Grows :=
    (Counter.growsInside_of_builtIn (.inr (.inl rfl))).grows
  have hblock : block ∈ d.nodes := List.mem_of_find?_eq_some (Option.some_get _).symm
  have hstays : Stays job block := fun _ _ => rfl
  obtain ⟨-, fits, hgreatest, -, htrim⟩ := trim_keeps_longest_front d hnested threeCalls.config
    Counter.bytes hgrows ⟨[], []⟩ [] block hblock 10 rfl hstays
  have hone : fits = 1 :=
    (hgreatest.unique (isGreatest_fitting hnested hblock hgrows 10)).trans (by decide +kernel)
  have hedits : after.queue.edits =
      [⟨⟨34, 42, by decide⟩, "// … 2 statements omitted".toList⟩] := by decide +kernel
  obtain ⟨e, he, hqueue, -⟩ := htrim fun hsame => by
    have hnone : after.queue.edits = [] := congrArg (fun draft => draft.queue.edits) hsame
    rw [hedits] at hnone
    cases hnone
  subst hone
  rw [show (statements block).length = 3 by decide +kernel] at he
  exact ⟨hnested, hgrows, hblock, rfl, hstays, hgreatest, hedits,
    ⟨e, hqueue ▸ List.mem_append_right _ List.mem_cons_self, he⟩, by decide +kernel⟩

end Body

end Abridge
