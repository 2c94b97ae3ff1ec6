import Abridge.Proofs.Entries
import Abridge.Registry
import Mathlib.Data.List.Forall2
import Mathlib.Data.List.Induction

/-!
The two registries tell the same about every extension.

After any registrations the language of an extension is the one that was registered last for it
(`lookup_ofList`). The registry of profiles goes there by numbers, which are given out before the
row of profiles grows: all its numbers lead to the profile of the language that the other registry
has in the same place (`Mirrors`), and both agree (`registries_agree`).
-/
namespace Abridge

/-! ### Entries by extension -/

namespace Extensions

section Insert
variable {α : Type} {extension : String} {value : α} {m : Extensions α}

theorem insert_eq_put (extension : String) (value : α) (m : Extensions α) :
    m.insert extension value = Entries.put extension (fun _ => value) m := by
  induction m with
  | nil => rfl
  | cons first rest ih =>
    obtain ⟨e, old⟩ := first
    rw [insert, Entries.put, ih]

/-- What is found at an extension is what was put there last. -/
theorem lookup_insertAll (extensions : List String) (other : String) (value : α)
    (m : Extensions α) :
    (m.insertAll extensions value).lookup other =
      if other ∈ extensions then some value else m.lookup other := by
  unfold insertAll
  induction extensions generalizing m with
  | nil => rfl
  | cons e rest ih =>
    rw [List.foldl_cons, ih, insert_eq_put, Entries.lookup_put_const]
    by_cases hrest : other ∈ rest
    · simp [hrest]
    · simp [hrest, eq_comm]

theorem isAscending_insertAll (h : Entries.IsAscending m) (extensions : List String) :
    Entries.IsAscending (m.insertAll extensions value) :=
  List.foldlRecOn extensions _ h fun _ hm _ _ => by
    rw [insert_eq_put]
    exact hm.put

end Insert

/-! ### Two of a kind -/

/-- Whether two rows have the same extensions and, one by one, entries that belong together. -/
def Matches {α β : Type} (R : α → β → Prop) (m : Extensions α) (n : Extensions β) : Prop :=
  List.Forall₂ (fun a b => a.1 = b.1 ∧ R a.2 b.2) m n

namespace Matches
variable {α β : Type} {R : α → β → Prop} {m : Extensions α} {n : Extensions β}

theorem insert (h : Matches R m n) (extension : String) {a : α} {b : β} (hab : R a b) :
    Matches R (m.insert extension a) (n.insert extension b) := by
  induction h with
  | nil => exact .cons ⟨rfl, hab⟩ .nil
  | @cons first other rest others hfirst hrest ih =>
    obtain ⟨e, old⟩ := first
    obtain ⟨_, old'⟩ := other
    obtain ⟨rfl, hold⟩ := hfirst
    unfold Extensions.insert
    split
    · exact .cons ⟨rfl, hab⟩ hrest
    · split
      · exact .cons ⟨rfl, hab⟩ (.cons ⟨rfl, hold⟩ hrest)
      · exact .cons ⟨rfl, hold⟩ ih

theorem insertAll (h : Matches R m n) (extensions : List String) {a : α} {b : β} (hab : R a b) :
    Matches R (m.insertAll extensions a) (n.insertAll extensions b) := by
  unfold Extensions.insertAll
  induction extensions generalizing m n with
  | nil => exact h
  | cons e rest ih => exact ih (h.insert e hab)

theorem map_fst_eq (h : Matches R m n) : m.map Prod.fst = n.map Prod.fst := by
  induction h with
  | nil => rfl
  | cons hfirst _ ih => rw [List.map_cons, List.map_cons, hfirst.1, ih]

/-- Where one finds nothing, neither does the other, and what they find belongs together. -/
theorem lookup (h : Matches R m n) (extension : String) :
    Option.Rel R (List.lookup extension m) (List.lookup extension n) := by
  induction h with
  | nil => exact .none
  | @cons first other rest others hfirst hrest ih =>
    obtain ⟨e, old⟩ := first
    obtain ⟨_, old'⟩ := other
    obtain ⟨rfl, hold⟩ := hfirst
    rw [List.lookup_cons, List.lookup_cons]
    cases extension == e with
    | true => exact .some hold
    | false => exact ih

/-- Every entry of the one belongs to an entry of the other. -/
theorem exists_of_mem (h : Matches R m n) {entry : String × α} (hentry : entry ∈ m) :
    ∃ other ∈ n, R entry.2 other.2 := by
  induction h with
  | nil => cases hentry
  | cons hfirst _ ih =>
    rcases List.mem_cons.mp hentry with rfl | hentry
    · exact ⟨_, List.mem_cons_self, hfirst.2⟩
    · obtain ⟨other, hother, hR⟩ := ih hentry
      exact ⟨other, List.mem_cons_of_mem _ hother, hR⟩

end Matches

end Extensions

/-! ### Registrations -/

/-- Every language declares the queries that it has to. -/
theorem Language.isSome_query? (l : Language) :
    ∀ name ∈ requiredQueries, (l.grammar.query? name).isSome = true := by
  cases l <;> decide

/-- A grammar has the queries that it declares. -/
theorem Grammar.isSome_query? (g : Grammar) :
    ∀ name ∈ g.queries.map Query.name, (g.query? name).isSome = true := by
  intro name hname
  obtain ⟨query, hquery, rfl⟩ := List.mem_map.mp hname
  exact List.find?_isSome.mpr ⟨query, hquery, beq_self_eq_true _⟩

theorem Language.validate_eq_ok {l : Language} {required : List String}
    (h : ∀ name ∈ required, (l.grammar.query? name).isSome = true) :
    l.validate required = .ok () := by
  unfold validate
  induction required with
  | nil => rfl
  | cons name rest ih =>
    obtain ⟨hname, hrest⟩ := List.forall_mem_cons.mp h
    show (if (l.grammar.query? name).isSome then Except.ok () else _) >>= _ = _
    rw [if_pos hname]
    exact ih hrest

/-- No profile of a language fails its check. -/
theorem ProfileRegistry.accept_profile (r : ProfileRegistry) (l : Language) :
    r.accept l.profile = .ok (r.register l.profile) := by
  have hvalid : l.validate (requiredQueries ++ l.grammar.queries.map Query.name) = .ok () :=
    Language.validate_eq_ok fun name hname => (List.mem_append.mp hname).elim
      (l.isSome_query? name) (l.grammar.isSome_query? name)
  simp only [accept, Profile.validate, l.language_profile, hvalid]
  rfl

/-- The language that was registered last among those that declare an extension. -/
def latest? (registered : List Language) (extension : String) : Option Language :=
  registered.reverse.find? fun l => l.grammar.extensions.contains extension

theorem latest?_concat (registered : List Language) (l : Language) (extension : String) :
    latest? (registered ++ [l]) extension =
      if extension ∈ l.grammar.extensions then some l else latest? registered extension := by
  unfold latest?
  rw [List.reverse_append, List.reverse_singleton, List.singleton_append, List.find?_cons,
    List.contains_eq_mem]
  by_cases h : extension ∈ l.grammar.extensions
  · rw [decide_eq_true h, if_pos h]
  · rw [decide_eq_false h, if_neg h]

theorem isSome_latest?_iff {registered : List Language} {extension : String} :
    (latest? registered extension).isSome = true ↔
      ∃ l ∈ registered, extension ∈ l.grammar.extensions := by
  simp only [latest?, List.find?_isSome, List.mem_reverse, List.contains_iff_mem]

namespace LanguageRegistry

/-- The registry after some registrations. -/
def ofList (registered : List Language) : LanguageRegistry :=
  registered.foldl register {}

theorem ofList_concat (registered : List Language) (l : Language) :
    ofList (registered ++ [l]) = (ofList registered).register l :=
  List.foldl_append

theorem lookup_register (r : LanguageRegistry) (l : Language) (extension : String) :
    (r.register l).byExtension.lookup extension =
      if extension ∈ l.grammar.extensions then some l else r.byExtension.lookup extension :=
  Extensions.lookup_insertAll _ _ _ _

/-- After any registrations, an extension leads to the last language that was registered for it. -/
theorem lookup_ofList (registered : List Language) (extension : String) :
    (ofList registered).byExtension.lookup extension = latest? registered extension := by
  induction registered using List.reverseRecOn with
  | nil => rfl
  | append_singleton front l ih => rw [ofList_concat, lookup_register, ih, latest?_concat]

theorem mem_extensions_ofList {registered : List Language} {extension : String} :
    extension ∈ (ofList registered).extensions ↔
      ∃ l ∈ registered, extension ∈ l.grammar.extensions := by
  rw [extensions, ← Entries.isSome_lookup_iff, lookup_ofList, isSome_latest?_iff]

theorem isAscending_ofList (registered : List Language) :
    Entries.IsAscending (ofList registered).byExtension := by
  induction registered using List.reverseRecOn with
  | nil => exact List.Pairwise.nil
  | append_singleton front l ih =>
    rw [ofList_concat]
    exact Extensions.isAscending_insertAll ih l.grammar.extensions

end LanguageRegistry

namespace ProfileRegistry

/-- The registry after the profiles of some languages were registered, each of them checked. -/
def ofList (registered : List Language) : Except Error ProfileRegistry :=
  registered.foldlM (fun r l => r.accept l.profile) {}

theorem ofList_concat (registered : List Language) (l : Language) :
    ofList (registered ++ [l]) = (ofList registered).bind fun r => r.accept l.profile := by
  unfold ofList
  simp only [List.foldlM_append, List.foldlM_cons, List.foldlM_nil, bind_pure]
  rfl

end ProfileRegistry

/-! ### Both registries -/

/-- Whether a registry of profiles leads where a registry of languages leads: the numbers of the
one stand at the extensions of the other, and at each number is the profile of the language. -/
def Mirrors (profiles : ProfileRegistry) (languages : LanguageRegistry) : Prop :=
  Extensions.Matches (fun number l => profiles.profiles[number]? = some l.profile)
    profiles.byExtension languages.byExtension

namespace Mirrors
variable {profiles : ProfileRegistry} {languages : LanguageRegistry}

/-- The row of profiles grows at its end, so all numbers lead where they led, and the next number
leads to what is registered next. -/
theorem register (h : Mirrors profiles languages) (l : Language) :
    Mirrors (profiles.register l.profile) (languages.register l) := by
  have hgrown : Extensions.Matches
      (fun number l' => (profiles.profiles ++ [l.profile])[number]? = some l'.profile)
      profiles.byExtension languages.byExtension :=
    List.Forall₂.imp (fun _ _ ⟨hextension, hfound⟩ => ⟨hextension,
      (List.getElem?_append_left (List.getElem?_eq_some_iff.mp hfound).1).trans hfound⟩) h
  have hnext : (profiles.profiles ++ [l.profile])[profiles.profiles.length]? = some l.profile :=
    List.getElem?_concat_length
  unfold Mirrors ProfileRegistry.register LanguageRegistry.register
  rw [l.language_profile]
  exact hgrown.insertAll l.grammar.extensions hnext

/-- No registration is refused, and after any of them one registry mirrors the other. -/
theorem exists_ofList (registered : List Language) :
    ∃ profiles, ProfileRegistry.ofList registered = .ok profiles ∧
      profiles.profiles = registered.map Language.profile ∧
      Mirrors profiles (LanguageRegistry.ofList registered) := by
  induction registered using List.reverseRecOn with
  | nil => exact ⟨{}, rfl, rfl, .nil⟩
  | append_singleton front l ih =>
    obtain ⟨profiles, hprofiles, hrow, hmirrors⟩ := ih
    refine ⟨profiles.register l.profile, ?_, ?_, ?_⟩
    · rw [ProfileRegistry.ofList_concat, hprofiles]
      exact profiles.accept_profile l
    · rw [ProfileRegistry.register, hrow, List.map_append, List.map_singleton]
    · rw [LanguageRegistry.ofList_concat]
      exact hmirrors.register l

theorem forExtension?_eq (h : Mirrors profiles languages) (extension : Text) :
    profiles.forExtension? extension =
      (languages.forExtension? extension).map Language.profile := by
  have hlookup := h.lookup (String.ofList extension.lowercase)
  unfold ProfileRegistry.forExtension? LanguageRegistry.forExtension? Extensions.find?
  generalize List.lookup _ profiles.byExtension = number,
    List.lookup _ languages.byExtension = found at hlookup
  cases hlookup with
  | none => rfl
  | some hfound => exact hfound

theorem extensions_eq (h : Mirrors profiles languages) :
    profiles.extensions = languages.extensions :=
  h.map_fst_eq

theorem lt_length (h : Mirrors profiles languages) {entry : String × Nat}
    (hentry : entry ∈ profiles.byExtension) : entry.2 < profiles.profiles.length := by
  obtain ⟨l, -, hfound⟩ := h.exists_of_mem hentry
  exact (List.getElem?_eq_some_iff.mp hfound).1

end Mirrors

/-- Whatever languages are registered, in whatever order and however often: no profile is refused,
both registries lead from an extension to the language that was registered last for it, they have
the same extensions in ascending order, just those that some language declares, and no number leads
out of the row of profiles, which holds one for each registration. -/
theorem registries_agree (registered : List Language) :
    ∃ profiles, ProfileRegistry.ofList registered = .ok profiles ∧
      let languages := LanguageRegistry.ofList registered
      (∀ extension : Text,
        let found := latest? registered (String.ofList extension.lowercase)
        languages.forExtension? extension = found ∧
          profiles.forExtension? extension = found.map Language.profile) ∧
      profiles.extensions = languages.extensions ∧
      languages.extensions.Pairwise (· < ·) ∧
      (∀ extension, extension ∈ languages.extensions ↔
        ∃ l ∈ registered, extension ∈ l.grammar.extensions) ∧
      profiles.profiles = registered.map Language.profile ∧
      ∀ entry ∈ profiles.byExtension, entry.2 < profiles.profiles.length := by
  obtain ⟨profiles, hprofiles, hrow, hmirrors⟩ := Mirrors.exists_ofList registered
  refine ⟨profiles, hprofiles, fun extension => ⟨?_, ?_⟩, hmirrors.extensions_eq, ?_, ?_, hrow,
    fun _ => hmirrors.lt_length⟩
  · exact LanguageRegistry.lookup_ofList registered _
  · rw [hmirrors.forExtension?_eq]
    exact congrArg _ (LanguageRegistry.lookup_ofList registered _)
  · exact List.pairwise_map.mpr (LanguageRegistry.isAscending_ofList registered)
  · exact fun _ => LanguageRegistry.mem_extensions_ofList

end Abridge
