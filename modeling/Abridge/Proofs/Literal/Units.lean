import Abridge.Literal.Cut
import Abridge.Proofs.Text.Balance
import Abridge.Proofs.Text.Cut
import Mathlib.Data.List.Infix

/-!
The units of a string.

What a unit is can be said without looking for it: an escape sequence (`IsEscape`), a value between
braces that match (`IsBraced`), two opening braces where these stand for one, or a single character
(`IsUnit`). What begins with a unit has it read off (`unit?_append`), and every text begins with one
until it ends or comes to a value that is never closed (`exists_isUnit`). So the scanner goes from
unit to unit (`isRow_units`), and every cut point is where one ends (`cutPoints_part_units`).
-/
namespace Abridge.Literal

open Text (excess)

/-! ### Escape sequences -/

/-- Whether a text holds characters of a sort, at most `n`, and as many as could be had of them with
`rest` behind. -/
structure IsRun (p : Char → Bool) (n : Nat) (front rest : Text) : Prop where
  picked : ∀ c ∈ front, p c = true
  length_le : front.length ≤ n
  longest : front.length = n ∨ ∀ c ∈ rest.head?, p c = false

/-- An escape sequence behind its backslash, and the text behind it: a code point in braces, which
the end of the text may leave open; up to eight hexadecimal or three octal digits; one character; or
nothing at the end of the text. -/
inductive IsEscape : Text → Text → Prop
  | missing : IsEscape [] []
  | braced {kind : Char} {inside : Text} (hkind : kind ∈ ['u', 'x', 'U', 'N'])
      (hinside : '\x7d' ∉ inside) (rest : Text) :
      IsEscape (kind :: '\x7b' :: (inside ++ ['\x7d'])) rest
  | unclosed {kind : Char} {inside : Text} (hkind : kind ∈ ['u', 'x', 'U', 'N'])
      (hinside : '\x7d' ∉ inside) : IsEscape (kind :: '\x7b' :: inside) []
  | hexadecimal {kind : Char} {digits rest : Text} (hkind : kind ∈ ['u', 'x', 'U'])
      (hopen : (digits ++ rest).head? ≠ some '\x7b') (hrun : IsRun isHexDigit 8 digits rest) :
      IsEscape (kind :: digits) rest
  | octal {kind : Char} {digits rest : Text} (hkind : isOctalDigit kind = true)
      (hrun : IsRun isOctalDigit 2 digits rest) : IsEscape (kind :: digits) rest
  | character {c : Char} {rest : Text} (hkind : c ∉ ['u', 'x', 'U'])
      (hopen : c = 'N' → rest.head? ≠ some '\x7b') (hdigit : isOctalDigit c = false) :
      IsEscape [c] rest

/-- A run is read off whole. -/
theorem spanAtMost_append {p : Char → Bool} {n : Nat} {front rest : Text}
    (h : IsRun p n front rest) : spanAtMost p n (front ++ rest) = (front, rest) := by
  induction front generalizing n with
  | nil =>
    rcases h.longest with hlength | hlongest
    · obtain rfl : 0 = n := hlength
      cases rest <;> rfl
    · cases rest with
      | nil => cases n <;> rfl
      | cons c rest => cases n <;> simp [spanAtMost, hlongest c rfl]
  | cons c front ih =>
    obtain ⟨n, rfl⟩ := Nat.exists_eq_add_one_of_ne_zero
      (Nat.ne_of_gt (Nat.lt_of_lt_of_le (Nat.succ_pos _) h.length_le))
    have hrest : IsRun p n front rest :=
      ⟨fun d hd => h.picked d (List.mem_cons_of_mem c hd), Nat.le_of_succ_le_succ h.length_le,
        h.longest.imp_left Nat.succ.inj⟩
    rw [List.cons_append, spanAtMost, if_pos (h.picked c List.mem_cons_self), ih hrest]

/-- What is read off is a run. -/
theorem exists_isRun (p : Char → Bool) (n : Nat) (t : Text) :
    ∃ front rest, t = front ++ rest ∧ IsRun p n front rest := by
  induction t generalizing n with
  | nil => exact ⟨[], [], rfl, by simp, Nat.zero_le n, .inr (by simp)⟩
  | cons c t ih =>
    cases n with
    | zero => exact ⟨[], c :: t, rfl, by simp, Nat.le_refl 0, .inl rfl⟩
    | succ n =>
      cases hc : p c with
      | true =>
        obtain ⟨front, rest, rfl, hrun⟩ := ih n
        exact ⟨c :: front, rest, rfl, List.forall_mem_cons.mpr ⟨hc, hrun.picked⟩,
          Nat.succ_le_succ hrun.length_le, hrun.longest.imp_left (congrArg (· + 1))⟩
      | false => exact ⟨[], c :: t, rfl, by simp, Nat.zero_le _, .inr (by simpa using hc)⟩

theorem throughBrace_append {inside : Text} (h : '\x7d' ∉ inside) (rest : Text) :
    throughBrace (inside ++ '\x7d' :: rest) = (inside ++ ['\x7d'], rest) := by
  induction inside with
  | nil => rfl
  | cons c inside ih =>
    have hc : ¬ (c == '\x7d') = true := by simpa using Ne.symm (List.ne_of_not_mem_cons h)
    rw [List.cons_append, throughBrace, if_neg hc, ih (List.not_mem_of_not_mem_cons h)]
    rfl

theorem throughBrace_of_not_mem {t : Text} (h : '\x7d' ∉ t) : throughBrace t = (t, []) := by
  induction t with
  | nil => rfl
  | cons c t ih =>
    have hc : ¬ (c == '\x7d') = true := by simpa using Ne.symm (List.ne_of_not_mem_cons h)
    rw [throughBrace, if_neg hc, ih (List.not_mem_of_not_mem_cons h)]

/-- An octal digit begins no other sort of escape sequence. -/
theorem not_mem_of_isOctalDigit {c : Char} (h : isOctalDigit c = true) :
    c ∉ ['u', 'x', 'U', 'N'] := by
  intro hc
  simp only [List.mem_cons, List.not_mem_nil, or_false] at hc
  rcases hc with rfl | rfl | rfl | rfl <;> exact absurd h (by decide)

/-- An escape sequence is read off whole. -/
theorem escape_append {sequence rest : Text} (h : IsEscape sequence rest) :
    escape (sequence ++ rest) = (sequence, rest) := by
  cases h with
  | missing => rfl
  | @braced kind inside hkind hinside =>
    have hkind : kind = 'u' ∨ kind = 'x' ∨ kind = 'U' ∨ kind = 'N' := by simpa using hkind
    have hopen : '\x7d' ∉ '\x7b' :: inside := by simp [hinside]
    have hthrough := throughBrace_append hopen rest
    rw [List.cons_append] at hthrough
    simp [escape, or_assoc, hkind, hthrough]
  | @unclosed kind inside hkind hinside =>
    have hkind : kind = 'u' ∨ kind = 'x' ∨ kind = 'U' ∨ kind = 'N' := by simpa using hkind
    have hopen : '\x7d' ∉ '\x7b' :: inside := by simp [hinside]
    simp [escape, or_assoc, hkind, throughBrace_of_not_mem hopen]
  | @hexadecimal kind digits rest hkind hopen hrun =>
    have hkind : kind = 'x' ∨ kind = 'u' ∨ kind = 'U' := by
      simp only [List.mem_cons, List.not_mem_nil, or_false] at hkind
      tauto
    have hopen : ((digits ++ rest).head? == some '\x7b') = false := beq_eq_false_iff_ne.mpr hopen
    rw [List.cons_append, escape]
    simp only [hopen, Bool.and_false, Bool.false_eq_true, ↓reduceIte, Bool.or_eq_true, beq_iff_eq,
      or_assoc, hkind, spanAtMost_append hrun]
  | @octal kind digits rest hkind hrun =>
    have hother := not_mem_of_isOctalDigit hkind
    simp only [List.mem_cons, List.not_mem_nil, or_false, not_or] at hother
    simp [escape, hother, hkind, spanAtMost_append hrun]
  | @character c rest hkind hopen hdigit =>
    simp only [List.mem_cons, List.not_mem_nil, or_false, not_or] at hkind
    simpa [escape, hkind, hdigit] using fun hc hbrace => absurd hbrace (hopen hc)

/-- Behind a backslash an escape sequence follows. -/
theorem exists_isEscape (t : Text) : ∃ sequence rest, t = sequence ++ rest ∧
    IsEscape sequence rest := by
  cases t with
  | nil => exact ⟨[], [], rfl, .missing⟩
  | cons kind t =>
    by_cases hbraces : kind ∈ ['u', 'x', 'U', 'N'] ∧ t.head? = some '\x7b'
    · obtain ⟨hkind, hhead⟩ := hbraces
      obtain ⟨t, rfl⟩ := List.head?_eq_some_iff.mp hhead
      by_cases hclose : '\x7d' ∈ t
      · obtain ⟨inside, rest, rfl, hinside⟩ := List.eq_append_cons_of_mem hclose
        exact ⟨_, rest, by simp, .braced hkind hinside rest⟩
      · exact ⟨_, [], (List.append_nil _).symm, .unclosed hkind hclose⟩
    · by_cases hhexadecimal : kind ∈ ['u', 'x', 'U']
      · obtain ⟨digits, rest, rfl, hrun⟩ := exists_isRun isHexDigit 8 t
        refine ⟨kind :: digits, rest, rfl, .hexadecimal hhexadecimal (fun hhead => ?_) hrun⟩
        exact hbraces ⟨by simp at hhexadecimal ⊢; tauto, hhead⟩
      · cases hoctal : isOctalDigit kind with
        | true =>
          obtain ⟨digits, rest, rfl, hrun⟩ := exists_isRun isOctalDigit 2 t
          exact ⟨kind :: digits, rest, rfl, .octal hoctal hrun⟩
        | false =>
          refine ⟨[kind], t, rfl, .character hhexadecimal (fun hkind hhead => ?_) hoctal⟩
          exact hbraces ⟨by simp [hkind], hhead⟩

/-! ### Values in braces -/

/-- The braces around a value. -/
def braces : Char × Char := ('\x7b', '\x7d')

/-- Whether some brace is open behind each character of a text. -/
def StaysOpen (t : Text) : Prop :=
  ∀ u, u <+: t → u ≠ [] → 0 < excess braces u

instance (t : Text) : Decidable (StaysOpen t) :=
  decidable_of_iff (∀ u ∈ t.inits, u ≠ [] → 0 < excess braces u)
    (forall_congr' fun u => by rw [List.mem_inits])

/-- Whether a text is a value in braces: some brace is open behind each of its characters, until the
last one closes the only one left. -/
def IsBraced (value : Text) : Prop :=
  ∃ inside, value = inside ++ ['\x7d'] ∧ StaysOpen inside ∧ excess braces inside = 1

theorem excess_singleton (c : Char) :
    excess braces [c] = if c = '\x7b' then 1 else if c = '\x7d' then -1 else 0 := by
  unfold excess braces
  by_cases hopen : c = '\x7b'
  · subst hopen; rfl
  · by_cases hclose : c = '\x7d'
    · subst hclose; rfl
    · simp [hopen, hclose]

theorem StaysOpen.mono {t u : Text} (h : StaysOpen t) (hu : u <+: t) : StaysOpen u :=
  fun w hw => h w (hw.trans hu)

theorem StaysOpen.append_singleton {t : Text} (h : StaysOpen t) {c : Char}
    (hc : 0 < excess braces (t ++ [c])) : StaysOpen (t ++ [c]) := by
  intro u hu hne
  rcases List.prefix_concat_iff.mp hu with rfl | hu
  · exact hc
  · exact h u hu hne

/-- What stays open begins with an opening brace. -/
theorem StaysOpen.head?_eq {t : Text} (h : StaysOpen t) (hne : t ≠ []) :
    t.head? = some '\x7b' := by
  obtain ⟨c, t, rfl⟩ := List.exists_cons_of_ne_nil hne
  have hpos := h [c] ⟨t, rfl⟩ (List.cons_ne_nil c [])
  rw [excess_singleton] at hpos
  split at hpos
  next hc => exact congrArg some hc
  · split at hpos <;> omega

/-- A value begins with its opening brace and goes on behind it. -/
theorem IsBraced.exists_cons {value : Text} (h : IsBraced value) :
    ∃ t, t ≠ [] ∧ value = '\x7b' :: t := by
  obtain ⟨inside, rfl, hopen, hone⟩ := h
  have hne : inside ≠ [] := by
    rintro rfl
    cases hone
  obtain ⟨t, rfl⟩ := List.head?_eq_some_iff.mp (hopen.head?_eq hne)
  exact ⟨t ++ ['\x7d'], by simp, rfl⟩

/-- One character takes the search for the closing brace on, if it does not end it. -/
theorem balanced?_cons {depth next : Nat} {c : Char} (t : Text)
    (hnext : (next : Int) = depth + excess braces [c]) (hpos : 0 < next) :
    balanced? depth (c :: t) =
      (balanced? next t).map fun (front, rest) => (c :: front, rest) := by
  rw [excess_singleton] at hnext
  by_cases hopen : c = '\x7b'
  · subst hopen
    obtain rfl : next = depth + 1 := by simp at hnext; omega
    rfl
  · by_cases hclose : c = '\x7d'
    · subst hclose
      obtain ⟨n, rfl⟩ : ∃ n, depth = n + 2 := ⟨depth - 2, by simp at hnext; omega⟩
      obtain rfl : next = n + 1 := by simp at hnext; omega
      rfl
    · obtain rfl : next = depth := by simp [hopen, hclose] at hnext; omega
      simp [balanced?, hopen, hclose]

/-- As long as some brace stays open, the search goes on, and its depth is their number. -/
theorem balanced?_append {depth next : Nat} {u : Text} (t : Text)
    (hopen : ∀ w, w <+: u → w ≠ [] → 0 < depth + excess braces w)
    (hnext : (next : Int) = depth + excess braces u) :
    balanced? depth (u ++ t) =
      (balanced? next t).map fun (front, rest) => (u ++ front, rest) := by
  induction u generalizing depth with
  | nil =>
    obtain rfl : next = depth := by simpa [excess] using Int.ofNat_inj.mp hnext
    exact Option.map_id'.symm
  | cons c u ih =>
    have hsplit : ∀ w, excess braces (c :: w) = excess braces [c] + excess braces w := fun w =>
      Text.excess_append braces [c] w
    have hpos := hopen [c] ⟨u, rfl⟩ (List.cons_ne_nil c [])
    obtain ⟨middle, hmiddle⟩ := Int.eq_ofNat_of_zero_le (Int.le_of_lt hpos)
    have hrest : balanced? middle (u ++ t) =
        (balanced? next t).map fun (front, rest) => (u ++ front, rest) := by
      refine ih (fun w hw hne => ?_) ?_
      · have := hopen (c :: w) (List.cons_prefix_cons.mpr ⟨rfl, hw⟩) (List.cons_ne_nil c w)
        rw [hsplit] at this
        omega
      · rw [hsplit] at hnext
        omega
    rw [List.cons_append, balanced?_cons _ hmiddle.symm (by omega), hrest, Option.map_map]
    rfl

/-- A value in braces is read off whole. -/
theorem balanced?_of_isBraced {value : Text} (h : IsBraced value) (rest : Text) :
    balanced? 0 (value ++ rest) = some (value, rest) := by
  obtain ⟨inside, rfl, hopen, hone⟩ := h
  have hsearch := @balanced?_append 0 1 inside ('\x7d' :: rest)
    (fun w hw hne => by simpa using hopen w hw hne) (by simp [hone])
  rw [List.append_assoc]
  exact hsearch

/-- Where braces stay open, none is found to close them. -/
theorem balanced?_of_staysOpen {t : Text} (h : StaysOpen t) : balanced? 0 t = none := by
  rcases List.eq_nil_or_concat t with rfl | ⟨u, c, rfl⟩
  · rfl
  · obtain ⟨next, hnext⟩ := Int.eq_ofNat_of_zero_le
      (Int.le_of_lt (h _ (List.prefix_refl _) (by simp)))
    have hsearch := @balanced?_append 0 next (u.concat c) []
      (fun w hw hne => by simpa using h w hw hne) (by simpa using hnext.symm)
    rw [List.append_nil] at hsearch
    exact hsearch

/-- A value that has begun ends somewhere, or it stays open to the end. -/
theorem StaysOpen.isBraced_or_staysOpen {u : Text} (hne : u ≠ []) (hu : StaysOpen u) (t : Text) :
    (∃ value rest, u ++ t = value ++ rest ∧ IsBraced value) ∨ StaysOpen (u ++ t) := by
  induction t generalizing u with
  | nil => exact .inr (by rwa [List.append_nil])
  | cons c t ih =>
    by_cases hc : 0 < excess braces (u ++ [c])
    · have hnext := ih (by simp) (hu.append_singleton hc)
      rwa [List.append_assoc] at hnext
    · -- No single character closes more than one brace.
      have hpos := hu u (List.prefix_refl u) hne
      rw [Text.excess_append, excess_singleton] at hc
      have hclose : c = '\x7d' ∧ excess braces u = 1 := by
        split at hc
        · omega
        · split at hc
          next heq => exact ⟨heq, by omega⟩
          · omega
      obtain ⟨rfl, hone⟩ := hclose
      exact .inl ⟨u ++ ['\x7d'], t, by simp, u, rfl, hu, hone⟩

/-- A brace that is opened is closed again, or it stays open to the end. -/
theorem isBraced_or_staysOpen (t : Text) :
    (∃ value rest, '\x7b' :: t = value ++ rest ∧ IsBraced value) ∨ StaysOpen ('\x7b' :: t) :=
  StaysOpen.isBraced_or_staysOpen (List.cons_ne_nil '\x7b' []) (by decide) t

/-- While braces are counted, the count is the number of open braces, and some brace is open. -/
theorem exists_depth {t u v : Text} (hsplit : '\x7b' :: t = u ++ v) (hu : u ≠ [])
    (hbefore : ∀ value rest, balanced? 0 ('\x7b' :: t) = some (value, rest) →
      u.length < value.length) :
    ∃ depth : Nat, 0 < depth ∧ (depth : Int) = excess braces u ∧
      balanced? 0 ('\x7b' :: t) =
        (balanced? depth v).map fun (front, rest) => (u ++ front, rest) := by
  have hopen : StaysOpen u := by
    rcases isBraced_or_staysOpen t with ⟨value, rest, heq, hvalue⟩ | hopen
    · have hlt := hbefore value rest (by rw [heq, balanced?_of_isBraced hvalue])
      obtain ⟨inside, rfl, hinside, -⟩ := hvalue
      rw [heq, List.append_assoc] at hsplit
      refine hinside.mono (List.prefix_of_prefix_length_le ⟨v, hsplit.symm⟩ ⟨_, rfl⟩ ?_)
      simpa using Nat.le_of_lt_succ (by simpa using hlt)
    · exact hopen.mono ⟨v, hsplit.symm⟩
  have hpos := hopen u (List.prefix_refl u) hu
  obtain ⟨depth, hdepth⟩ := Int.eq_ofNat_of_zero_le (Int.le_of_lt hpos)
  refine ⟨depth, by omega, hdepth.symm, ?_⟩
  rw [hsplit]
  exact balanced?_append v (fun w hw hne => by simpa using hopen w hw hne) (by simp [hdepth])

/-! ### Units -/

/-- Whether a text begins with what opens a value. -/
def opens : Interpolation → Text → Bool
  | .none, _ => false
  | .dollarBrace, t => t.take 2 == ['$', '\x7b']
  | .brace, t => t.head? == some '\x7b'

/-- A text that begins with a value, and what there is of it from its brace on. -/
inductive BeginsValue : Interpolation → Text → Text → Prop
  | template (t : Text) : BeginsValue .dollarBrace ('$' :: '\x7b' :: t) ('\x7b' :: t)
  | field {t : Text} (h : t.head? ≠ some '\x7b') : BeginsValue .brace ('\x7b' :: t) ('\x7b' :: t)

/-- Whether a text begins with a value that is never closed. -/
def IsStuck (i : Interpolation) (t : Text) : Prop :=
  ∃ value, BeginsValue i t value ∧ StaysOpen value

/-- A unit of a string, and the text behind it: an escape sequence, a value with its braces, two
opening braces where these stand for one, or a single character. -/
inductive IsUnit : Interpolation → Text → Text → Prop
  | escape {i : Interpolation} {sequence rest : Text} (h : IsEscape sequence rest) :
      IsUnit i ('\\' :: sequence) rest
  | template {value : Text} (h : IsBraced value) (rest : Text) :
      IsUnit .dollarBrace ('$' :: value) rest
  | field {t : Text} (h : IsBraced ('\x7b' :: t)) (hsingle : t.head? ≠ some '\x7b')
      (rest : Text) : IsUnit .brace ('\x7b' :: t) rest
  | doubled (rest : Text) : IsUnit .brace ['\x7b', '\x7b'] rest
  | character {i : Interpolation} {c : Char} {rest : Text} (hc : c ≠ '\\')
      (hopens : opens i (c :: rest) = false) : IsUnit i [c] rest

theorem IsUnit.ne_nil {i : Interpolation} {unit rest : Text} (h : IsUnit i unit rest) :
    unit ≠ [] := by
  cases h <;> exact List.cons_ne_nil _ _

section
variable {i : Interpolation}

theorem unit?_of_opens_eq_false {c : Char} {t : Text} (hc : c ≠ '\\')
    (h : opens i (c :: t) = false) : unit? i (c :: t) = some ([c], t) := by
  cases i with
  | none => simp [unit?, hc]
  | dollarBrace =>
    have h : ¬ (c = '$' ∧ t.head? = some '\x7b') := by
      rintro ⟨rfl, hhead⟩
      obtain ⟨t, rfl⟩ := List.head?_eq_some_iff.mp hhead
      cases h
    simp [unit?, hc, h]
  | brace =>
    have h : c ≠ '\x7b' := by simpa [opens] using h
    simp [unit?, hc, h]

theorem unit?_template (t : Text) :
    unit? .dollarBrace ('$' :: '\x7b' :: t) =
      (balanced? 0 ('\x7b' :: t)).map fun (front, rest) => ('$' :: front, rest) := rfl

theorem head?_append_of_isBraced {t : Text} (h : IsBraced ('\x7b' :: t)) (rest : Text) :
    (t ++ rest).head? = t.head? := by
  obtain ⟨u, hne, heq⟩ := h.exists_cons
  obtain rfl := (List.cons.inj heq).2
  exact List.head?_append_of_ne_nil _ hne

theorem unit?_field {t : Text} (h : t.head? ≠ some '\x7b') :
    unit? .brace ('\x7b' :: t) = balanced? 0 ('\x7b' :: t) := by
  have hsingle : ∀ rest, t ≠ '\x7b' :: rest := by
    rintro rest rfl
    exact h rfl
  rw [unit?]
  · rfl
  · exact hsingle

/-- A unit is read off whole. -/
theorem unit?_append {unit rest : Text} (h : IsUnit i unit rest) :
    unit? i (unit ++ rest) = some (unit, rest) := by
  cases h with
  | escape h => simp [unit?, escape_append h]
  | template h =>
    have hread := balanced?_of_isBraced h rest
    obtain ⟨t, -, rfl⟩ := h.exists_cons
    rw [List.cons_append] at hread
    rw [List.cons_append, List.cons_append, unit?_template, hread]
    rfl
  | @field t h hsingle =>
    have hread := balanced?_of_isBraced h rest
    rw [← head?_append_of_isBraced h rest] at hsingle
    rw [List.cons_append] at hread ⊢
    rw [unit?_field hsingle, hread]
  | doubled => rfl
  | character hc hopens => exact unit?_of_opens_eq_false hc hopens

/-- Where a value is never closed, no unit is read off. -/
theorem unit?_of_isStuck {t : Text} (h : IsStuck i t) : unit? i t = none := by
  obtain ⟨value, hbegins, hopen⟩ := h
  have hnone := balanced?_of_staysOpen hopen
  cases hbegins with
  | template t => rw [unit?_template, hnone]; rfl
  | field h => rw [unit?_field h, hnone]

/-- A text begins with a unit unless it is over or begins with a value that is never closed. -/
theorem exists_isUnit (i : Interpolation) (t : Text) :
    t = [] ∨ IsStuck i t ∨ ∃ unit rest, t = unit ++ rest ∧ IsUnit i unit rest := by
  cases t with
  | nil => exact .inl rfl
  | cons c t =>
    refine .inr ?_
    by_cases hc : c = '\\'
    · obtain ⟨sequence, rest, rfl, h⟩ := exists_isEscape t
      exact .inr ⟨_, rest, by rw [hc]; rfl, .escape h⟩
    · cases hopens : opens i (c :: t) with
      | false => exact .inr ⟨[c], t, rfl, .character hc hopens⟩
      | true =>
        cases i with
        | none => cases hopens
        | dollarBrace =>
          obtain ⟨t, rfl, rfl⟩ : ∃ u, t = '\x7b' :: u ∧ c = '$' := by
            cases t with
            | nil => simp [opens] at hopens
            | cons d t => exact ⟨t, by simp_all [opens]⟩
          rcases isBraced_or_staysOpen t with ⟨value, rest, heq, hvalue⟩ | hopen
          · exact .inr ⟨'$' :: value, rest, congrArg _ heq, .template hvalue rest⟩
          · exact .inl ⟨_, .template t, hopen⟩
        | brace =>
          obtain rfl : c = '\x7b' := by simpa [opens] using hopens
          by_cases hsingle : t.head? = some '\x7b'
          · obtain ⟨t, rfl⟩ := List.head?_eq_some_iff.mp hsingle
            exact .inr ⟨_, t, rfl, .doubled t⟩
          · rcases isBraced_or_staysOpen t with ⟨value, rest, heq, hvalue⟩ | hopen
            · obtain ⟨u, -, rfl⟩ := hvalue.exists_cons
              obtain rfl : t = u ++ rest := (List.cons.inj heq).2
              rw [head?_append_of_isBraced hvalue] at hsingle
              exact .inr ⟨_, rest, rfl, .field hvalue hsingle rest⟩
            · exact .inl ⟨_, .field hsingle, hopen⟩

end

/-! ### Rows of units -/

/-- Whether texts are units, each with the others and then `rest` behind it. -/
def IsRow (Unit : Text → Text → Prop) (rest : Text) : List Text → Prop
  | [] => True
  | unit :: others => Unit unit (others.flatten ++ rest) ∧ IsRow Unit rest others

theorem IsRow.ne_nil_of_mem {i : Interpolation} {rest : Text} {us : List Text}
    (h : IsRow (IsUnit i) rest us) : ∀ unit ∈ us, unit ≠ [] := by
  induction us with
  | nil => simp
  | cons unit us ih => exact List.forall_mem_cons.mpr ⟨h.1.ne_nil, ih h.2⟩

theorem isRow_append {Unit : Text → Text → Prop} {rest : Text} {front back : List Text} :
    IsRow Unit rest (front ++ back) ↔
      IsRow Unit (back.flatten ++ rest) front ∧ IsRow Unit rest back := by
  induction front with
  | nil => simp [IsRow]
  | cons unit front ih =>
    rw [List.cons_append, IsRow, IsRow, ih, List.flatten_append, List.append_assoc, and_assoc]

section
variable {i : Interpolation}

/-- The units of a row are found. -/
theorem units_append {us : List Text} {rest : Text} (h : IsRow (IsUnit i) rest us) :
    units i (us.flatten ++ rest) = us ++ units i rest := by
  induction us with
  | nil => rfl
  | cons unit us ih =>
    obtain ⟨hunit, hus⟩ := h
    have hlength : (us.flatten ++ rest).length < (unit ++ (us.flatten ++ rest)).length := by
      have hpos := List.length_pos_iff.mpr hunit.ne_nil
      simp only [List.length_append]
      omega
    rw [List.flatten_cons, List.append_assoc, units, unit?_append hunit]
    simp only
    rw [if_pos hlength, ih hus, List.cons_append]

theorem units_of_isStuck {t : Text} (h : t = [] ∨ IsStuck i t) : units i t = [] := by
  have hnone : unit? i t = none := by
    rcases h with rfl | h
    · rfl
    · exact unit?_of_isStuck h
  rw [units, hnone]

/-- A text is a row of units up to its end or up to a value that is never closed. -/
theorem isRow_units (i : Interpolation) (t : Text) :
    ∃ rest, t = (units i t).flatten ++ rest ∧ IsRow (IsUnit i) rest (units i t) ∧
      (rest = [] ∨ IsStuck i rest) := by
  have hrow : ∃ us rest, t = us.flatten ++ rest ∧ IsRow (IsUnit i) rest us ∧
      (rest = [] ∨ IsStuck i rest) := by
    induction hlength : t.length using Nat.strong_induction_on generalizing t with
    | _ length ih =>
      rcases exists_isUnit i t with rfl | hstuck | ⟨unit, rest, rfl, hunit⟩
      · exact ⟨[], [], rfl, trivial, .inl rfl⟩
      · exact ⟨[], t, rfl, trivial, .inr hstuck⟩
      · have hlt : rest.length < length := by
          rw [← hlength, List.length_append]
          exact Nat.lt_add_of_pos_left (List.length_pos_iff.mpr hunit.ne_nil)
        obtain ⟨us, last, rfl, hus, hlast⟩ := ih rest.length hlt rest rfl
        exact ⟨unit :: us, last, by simp, ⟨hunit, hus⟩, hlast⟩
  obtain ⟨us, rest, rfl, hus, hrest⟩ := hrow
  rw [units_append hus, units_of_isStuck hrest, List.append_nil]
  exact ⟨rest, rfl, hus, hrest⟩

end

/-! ### Cut points -/

/-- An offset has units in front of it and units behind it. -/
theorem mem_offsetsAfter {offset p : Nat} {us : List Text} :
    p ∈ offset :: offsetsAfter offset us ↔
      ∃ front back, us = front ++ back ∧ p = offset + Text.size front.flatten := by
  induction us generalizing offset with
  | nil => simp [offsetsAfter]
  | cons unit us ih =>
    rw [offsetsAfter, List.mem_cons, ih]
    constructor
    · rintro (rfl | ⟨front, back, rfl, rfl⟩)
      · exact ⟨[], unit :: us, rfl, rfl⟩
      · exact ⟨unit :: front, back, rfl, by simp [Nat.add_assoc]⟩
    · rintro ⟨front, back, hus, rfl⟩
      rcases List.append_eq_cons_iff.mp hus.symm with ⟨rfl, -⟩ | ⟨front, rfl, rfl⟩
      · exact .inl rfl
      · exact .inr ⟨front, back, rfl, by simp [Nat.add_assoc]⟩

/-- Between two neighbouring offsets stands one unit. -/
theorem exists_unit_of_getElem? {offset k p q : Nat} {us : List Text}
    (hp : (offset :: offsetsAfter offset us)[k]? = some p)
    (hq : (offset :: offsetsAfter offset us)[k + 1]? = some q) :
    ∃ front unit back, us = front ++ unit :: back ∧ p = offset + Text.size front.flatten ∧
      q = p + unit.size := by
  induction us generalizing offset k with
  | nil => simp [offsetsAfter] at hq
  | cons unit us ih =>
    rw [List.getElem?_cons_succ] at hq
    cases k with
    | zero =>
      obtain rfl : offset = p := by simpa using hp
      obtain rfl : offset + unit.size = q := by simpa [offsetsAfter] using hq
      exact ⟨[], unit, us, rfl, rfl, rfl⟩
    | succ k =>
      obtain ⟨front, other, back, rfl, rfl, rfl⟩ := ih hp hq
      exact ⟨unit :: front, other, back, rfl, by simp [Nat.add_assoc], rfl⟩

theorem mem_cutPoints {i : Interpolation} {content : Text} {p : Nat} :
    p ∈ cutPoints i content ↔
      ∃ front back, units i content = front ++ back ∧ p = Text.size front.flatten := by
  rw [cutPoints, mem_offsetsAfter]
  simp only [Nat.zero_add]

theorem pairwise_offsetsAfter {offset : Nat} {us : List Text} (h : ∀ unit ∈ us, unit ≠ []) :
    (offset :: offsetsAfter offset us).Pairwise (· < ·) := by
  induction us generalizing offset with
  | nil => simp [offsetsAfter]
  | cons unit us ih =>
    obtain ⟨hunit, hus⟩ := List.forall_mem_cons.mp h
    have hrest : ((offset + unit.size) :: offsetsAfter (offset + unit.size) us).Pairwise (· < ·) :=
      ih hus
    have hlt : offset < offset + unit.size := Nat.lt_add_of_pos_right (Text.size_pos hunit)
    refine List.pairwise_cons.mpr ⟨fun p hp => ?_, hrest⟩
    rcases List.mem_cons.mp hp with rfl | hp
    · exact hlt
    · exact Nat.lt_trans hlt ((List.pairwise_cons.mp hrest).1 p hp)

theorem getLast?_offsetsAfter (offset : Nat) (us : List Text) :
    (offset :: offsetsAfter offset us).getLast? = some (offset + Text.size us.flatten) := by
  induction us generalizing offset with
  | nil => rfl
  | cons unit us ih =>
    rw [offsetsAfter, List.getLast?_cons_cons, ih]
    simp [Nat.add_assoc]

/-- The cut points part a string into its units: they begin at its front, grow, are boundaries, and
go to the end of the string or to a value that is never closed; between two neighbours stands one
unit. Where a value begins, its braces are counted: behind each character that is read before the
value ends, the count is the number of open braces, and some brace is open. -/
theorem cutPoints_part_units (i : Interpolation) (content : Text) :
    (cutPoints i content).head? = some 0 ∧
    (cutPoints i content).Pairwise (· < ·) ∧
    (∀ p ∈ cutPoints i content, content.isBoundary p = true ∧ p ≤ content.size) ∧
    (∃ last, (cutPoints i content).getLast? = some last ∧
      (last = content.size ∨ IsStuck i (content.after last))) ∧
    (∀ k p q, (cutPoints i content)[k]? = some p → (cutPoints i content)[k + 1]? = some q →
      IsUnit i (content.slice p q) (content.after q)) ∧
    (∀ p ∈ cutPoints i content, ∀ s, BeginsValue i (content.after p) s →
      ∀ u v, s = u ++ v → u ≠ [] →
        (∀ value rest, balanced? 0 s = some (value, rest) → u.length < value.length) →
        ∃ depth : Nat, 0 < depth ∧ (depth : Int) = excess braces u ∧
          balanced? 0 s = (balanced? depth v).map fun (front, rest) => (u ++ front, rest)) := by
  obtain ⟨rest, hcontent, hrow, hrest⟩ := isRow_units i content
  simp only [cutPoints]
  generalize units i content = us at hcontent hrow ⊢
  subst hcontent
  refine ⟨rfl, pairwise_offsetsAfter hrow.ne_nil_of_mem, fun p hp => ?boundary, ?last,
    fun k p q hp hq => ?unit, fun p _ s hs u v hsplit hu hbefore => ?depth⟩
  case boundary =>
    obtain ⟨front, back, rfl, rfl⟩ := mem_offsetsAfter.mp hp
    have hboundary : Text.isBoundary ((front ++ back).flatten ++ rest)
        (0 + Text.size front.flatten) = true := by
      rw [Nat.zero_add, List.flatten_append, List.append_assoc]
      exact Text.isBoundary_append_size _ _
    exact ⟨hboundary, Text.le_size_of_isBoundary hboundary⟩
  case last =>
    refine ⟨_, getLast?_offsetsAfter 0 us, ?_⟩
    rw [Nat.zero_add, Text.after_append_size]
    rcases hrest with rfl | hstuck
    · exact .inl (by rw [List.append_nil])
    · exact .inr hstuck
  case unit =>
    obtain ⟨front, unit, back, rfl, rfl, rfl⟩ := exists_unit_of_getElem? hp hq
    have hunit := (isRow_append.mp hrow).2.1
    rw [Nat.zero_add, List.flatten_append, List.flatten_cons, List.append_assoc, List.append_assoc,
      Text.slice_append_append, ← List.append_assoc, ← Text.size_append, Text.after_append_size]
    exact hunit
  case depth =>
    generalize Text.after _ p = t at hs
    cases hs <;> exact exists_depth hsplit hu hbefore

example : cutPoints .brace ['é', '\\', 'n', '\x7b', 'b', '\x7d', '\x7b', 'c'] = [0, 2, 4, 7] := by
  decide +kernel

end Abridge.Literal
