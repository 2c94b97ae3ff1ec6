import Abridge.Proofs.Document
import Abridge.Proofs.Text.Chars
import Abridge.Proofs.Tree.WellFormed
import Abridge.Registry
import Abridge.Session

/-!
Where imports come from.

Patterns, roots of the project, the standard library and the import itself are asked in this order
(`originOf_eq_project_iff`). In Go the last two look at the segments of a path in their own ways: a
package without a point in its first segment is standard unless a later segment is `internal`, so a
path that only begins with `internal` never reaches the question whether it leads through an
internal directory (`origin_of_go`). In Python the directories of a file are roots of the project
and are asked before the standard library is; still they take no standard module for one of the
project (`originOf_rooted`), as no name between their separators can be that of a standard module.
-/
namespace Abridge

/-! ### The order of the questions -/

/-- The first piece of a text that is cut up goes up to the first separator. -/
theorem Text.exists_split (sep : Char) (t : Text) :
    ∃ rest, Text.split sep t = t.takeWhile (· != sep) :: rest := by
  induction t with
  | nil => exact ⟨[], rfl⟩
  | cons c t ih =>
    obtain ⟨rest, hrest⟩ := ih
    cases hc : c == sep with
    | true => exact ⟨split sep t, by simp [split, splitAt, hc, bne]⟩
    | false =>
      refine ⟨rest, ?_⟩
      rw [split] at hrest ⊢
      simp [splitAt, hc, bne, hrest]

namespace Import
variable {profile : Profile} {d : Document} {n : Node} {config : ImportConfig}
  {external : List Pattern} {path : Text}

/-- An import is one of the project if no pattern says otherwise, and a root does, or the import
itself does and its module is not standard. -/
theorem originOf_eq_project_iff (hpath : profile.modulePath? d n = some path) :
    originOf profile d config external n = .project ↔
      Pattern.anyMatch external path = false ∧ (config.isLocalRoot path = true ∨
        profile.isStandard path = false ∧ profile.origin d n = .project) := by
  simp only [originOf, hpath]
  cases Pattern.anyMatch external path <;> cases config.isLocalRoot path <;>
    cases profile.isStandard path <;> simp

end Import

/-! ### Go -/

namespace Profile.Go
variable {path : Text}

/-- Whether a path starts from the directory of the file. -/
def IsRelative (path : Text) : Prop :=
  path.startsWith ['.', '/'] = true ∨ path.startsWith ['.', '.', '/'] = true

/-- Whether `internal` is the first segment of a path, and no other. -/
def OnlyBeginsInternal (path : Text) : Prop :=
  (path.split '/').head? = some internalName ∧ internalName ∉ (path.split '/').tail

/-- The first segment of a relative path begins with a point. -/
theorem IsRelative.mem_first (h : IsRelative path) : '.' ∈ path.takeWhile (· != '/') := by
  rcases h with h | h <;> obtain ⟨rest, rfl⟩ := List.isPrefixOf_iff_prefix.mp h <;> simp

theorem isProjectPath_iff :
    isProjectPath path = true ↔ IsRelative path ∨ internalName ∈ path.split '/' := by
  simp [isProjectPath, IsRelative]

theorem isStandard_iff :
    isStandard path = true ↔ path.takeWhile (· != '/') ≠ [] ∧ '.' ∉ path.takeWhile (· != '/') ∧
      internalName ∉ (path.split '/').tail := by
  obtain ⟨rest, hrest⟩ := Text.exists_split '/' path
  simp [isStandard, hrest, and_assoc]

/-- The paths that are standard although they lead through an internal directory begin with it. -/
theorem isStandard_and_mem_iff :
    isStandard path = true ∧ internalName ∈ path.split '/' ↔ OnlyBeginsInternal path := by
  rw [isStandard_iff, OnlyBeginsInternal]
  obtain ⟨rest, hrest⟩ := Text.exists_split '/' path
  simp only [hrest, List.head?_cons, List.tail_cons, Option.some.injEq, List.mem_cons]
  constructor
  · rintro ⟨⟨-, -, hrest⟩, hfirst | hmem⟩
    · exact ⟨hfirst.symm, hrest⟩
    · exact absurd hmem hrest
  · rintro ⟨hfirst, hrest⟩
    rw [hfirst]
    exact ⟨⟨by decide, by decide, hrest⟩, .inl rfl⟩

theorem origin_eq_project_iff {d : Document} {n : Node} (hpath : modulePath? d n = some path) :
    origin d n = .project ↔ IsRelative path ∨ internalName ∈ path.split '/' := by
  rw [← isProjectPath_iff, origin, hpath]
  cases h : isProjectPath path <;> simp [h]

end Profile.Go

namespace Import

section
open Profile.Go (IsRelative OnlyBeginsInternal internalName)

/-- **Relative paths and those with `internal` behind their first segment are of the project.** So
an import that no pattern and no root speaks for is taken for the project's own just when its path
is relative or has an internal directory among its segments, unless `internal` is its first segment
only: exactly these paths are taken for standard packages although they lead through an internal
directory. -/
theorem origin_of_go (d : Document) (n : Node) (config : ImportConfig) (external : List Pattern)
    (path : Text) (hpath : Profile.go.modulePath? d n = some path)
    (hexternal : Pattern.anyMatch external path = false)
    (hroot : config.isLocalRoot path = false) :
    let segments := path.split '/'
    (originOf Profile.go d config external n = .project ↔
      IsRelative path ∨ internalName ∈ segments.tail) ∧
    ((originOf Profile.go d config external n = .project ↔
        IsRelative path ∨ internalName ∈ segments) ↔ ¬ OnlyBeginsInternal path) ∧
    (Profile.go.isStandard path = true ∧ internalName ∈ segments ↔ OnlyBeginsInternal path) := by
  intro segments
  have hstandard : Profile.go.isStandard path = true ∧ internalName ∈ segments ↔
      OnlyBeginsInternal path := Profile.Go.isStandard_and_mem_iff
  have horigin : originOf Profile.go d config external n = .project ↔
      Profile.go.isStandard path = false ∧ (IsRelative path ∨ internalName ∈ segments) := by
    rw [originOf_eq_project_iff hpath, ← Profile.Go.origin_eq_project_iff hpath]
    simp [hexternal, hroot, Profile.go]
  have hrelative : IsRelative path → Profile.go.isStandard path = false := fun h =>
    Bool.eq_false_iff.mpr fun hs => (Profile.Go.isStandard_iff.mp hs).2.1 h.mem_first
  have htail : internalName ∈ segments.tail → Profile.go.isStandard path = false := fun h =>
    Bool.eq_false_iff.mpr fun hs => (Profile.Go.isStandard_iff.mp hs).2.2 h
  refine ⟨?_, ?_, hstandard⟩
  · rw [horigin]
    constructor
    · rintro ⟨hno, h | h⟩
      · exact .inl h
      · -- Were it not behind the first segment, the path would be standard.
        by_contra hnot
        have hbegins : OnlyBeginsInternal path := by
          obtain ⟨rest, hrest⟩ := Text.exists_split '/' path
          have hnot' : internalName ∉ rest := fun hmem => hnot (.inr (by simpa [segments, hrest]))
          have h' : internalName ∈ path.takeWhile (· != '/') :: rest := hrest ▸ h
          rcases List.mem_cons.mp h' with hfirst | hmem
          · exact ⟨by rw [hrest, hfirst]; rfl, by simpa [hrest]⟩
          · exact absurd hmem hnot'
        rw [(hstandard.mpr hbegins).1] at hno
        cases hno
    · rintro (h | h)
      · exact ⟨hrelative h, .inl h⟩
      · exact ⟨htail h, .inr (List.mem_of_mem_tail h)⟩
  · rw [horigin, ← hstandard]
    cases hs : Profile.go.isStandard path with
    | true =>
      have hnotRelative : ¬ IsRelative path := fun h => by simp [hrelative h] at hs
      simp [hnotRelative]
    | false => simp

end

/-- A file in Go with an import whose path begins with `internal`. -/
def internalFirst : Document :=
  .ofTree .go "package p\n\nimport \"internal/x\"\n".toList <|
    .named "source_file" 0 31 [
      .named "package_clause" 0 9 [.token "package" 0 7, .named "package_identifier" 8 9 []],
      .named "import_declaration" 11 30 [.token "import" 11 17,
        .named "import_spec" 18 30 [.importPath 18 30]]]

def internalImports : List Node :=
  internalFirst.scan [.kind "import_spec" "import"] "import"

theorem queryNodes_internalFirst :
    internalFirst.queryNodes "imports" "import" = .ok internalImports :=
  Document.queryNodes_eq_scan (q := Grammar.kindQuery "imports" "import" ["import_spec"]) rfl
    (by decide +kernel)

/-- The import, which stands alone, as the declaration that it is. -/
def internalImport : Node :=
  (unitsOf Profile.go internalImports).head (by decide +kernel)

theorem origin_of_go_internalFirst :
    let path := "internal/x".toList
    Profile.go.modulePath? internalFirst internalImport = some path ∧
      Pattern.anyMatch [] path = false ∧ ImportConfig.isLocalRoot {} path = false ∧
      originOf Profile.go internalFirst {} [] internalImport = .elsewhere ∧
      Profile.Go.OnlyBeginsInternal path ∧ Profile.go.isStandard path = true := by
  intro path
  have hpath : Profile.go.modulePath? internalFirst internalImport = some path := by
    decide +kernel
  have hbegins : Profile.Go.OnlyBeginsInternal path :=
    ⟨by decide +kernel, by decide +kernel⟩
  obtain ⟨horigin, -, hstandard⟩ := origin_of_go internalFirst internalImport {} [] path hpath rfl
    rfl
  refine ⟨hpath, rfl, rfl, ?_, hbegins, (hstandard.mpr hbegins).1⟩
  cases h : originOf Profile.go internalFirst {} [] internalImport with
  | elsewhere => rfl
  | project =>
    rcases horigin.mp h with hrelative | htail
    · exact absurd hrelative.mem_first (by decide +kernel)
    · exact absurd htail hbegins.2

/-- An internal directory that comes first does not make an import the project's own. -/
theorem internal_package_taken_for_standard :
    ¬ ∀ (d : Document) (imports : List Node) (n : Node) (config : ImportConfig)
      (external : List Pattern) (path : Text), d.IsWellFormed → d.language = .go →
      d.queryNodes "imports" "import" = .ok imports →
      n ∈ unitsOf Profile.go imports →
      Profile.go.modulePath? d n = some path → Pattern.anyMatch external path = false →
      config.isLocalRoot path = false →
      (originOf Profile.go d config external n = .project ↔
        Profile.Go.IsRelative path ∨ Profile.Go.internalName ∈ path.split '/') := by
  intro h
  have hproject := (h internalFirst internalImports internalImport {} [] "internal/x".toList
    (Document.isWellFormed_iff.mp (by decide +kernel)) rfl queryNodes_internalFirst
    (List.head_mem _) (by decide +kernel) rfl rfl).mpr (.inr (by decide +kernel))
  exact absurd hproject (by decide +kernel)

end Import

/-! ### Python -/

namespace Profile.Python
variable {name root path : Text}

theorem mem_of_isIdentifier (h : isIdentifier root = true) {c : Char} (hc : c ∈ root) :
    Text.isAlphanumeric c = true ∨ c = '_' := by
  cases root with
  | nil => cases hc
  | cons first rest =>
    simp only [isIdentifier, Bool.and_eq_true, List.all_eq_true, Bool.or_eq_true, beq_iff_eq] at h
    rcases List.mem_cons.mp hc with rfl | hc
    · exact h.1.imp_left fun hfirst => by simp [Text.isAlphanumeric, hfirst]
    · exact h.2 c hc

/-- The name of a standard module holds none of the characters that separate names. -/
theorem mem_of_isStandardName (h : isStandardName name = true) {c : Char} (hc : c ∈ name) :
    c ≠ '/' ∧ c ≠ ':' := by
  have hplain : (standardModules.all fun s => s.toList.all fun c => c != '/' && c != ':') =
      true := by
    decide +kernel
  have hname := List.all_eq_true.mp hplain (String.ofList name) (List.contains_iff_mem.mp h)
  rw [String.toList_ofList] at hname
  simpa using List.all_eq_true.mp hname c hc

/-- **No module of the standard library lies under a directory of the file.** Its first name ends at
the first point. A root that stops there is that name itself, which roots are not, and one that
stops before a slash or a colon would make this a character of the name. -/
theorem underRoot_eq_false (hroot : isIdentifier root = true) (hname : isStandardName root = false)
    (hpath : isStandard path = true) : underRoot path root = false := by
  have hpoint : ∀ c ∈ root, (c != '.') = true := fun c hc => by
    rcases mem_of_isIdentifier hroot hc with h | rfl
    · exact bne_iff_ne.mpr fun heq => absurd (heq ▸ h) (by decide +kernel)
    · rfl
  rw [Bool.eq_false_iff]
  intro hunder
  simp only [underRoot, Text.stripStart?] at hunder
  split at hunder
  · cases hunder
  split at hunder
  · cases hunder
  next rest hrest =>
    obtain rfl : root ++ rest = path := List.isPrefixOf?_eq_some_iff_append_eq.mp hrest
    have hfirst : (root ++ rest).takeWhile (· != '.') = root ++ rest.takeWhile (· != '.') :=
      List.takeWhile_append_of_pos hpoint
    rw [isStandard, hfirst] at hpath
    cases rest with
    | nil => simp [hname] at hpath
    | cons c rest =>
      rcases eq_or_ne c '.' with rfl | hne
      · simp [hname] at hpath
      · have hplain := mem_of_isStandardName hpath (c := c) (by simp [hne])
        have hstart : ¬ [':', ':'] <+: c :: rest := by
          rintro ⟨tail, htail⟩
          exact hplain.2 (List.cons.inj htail).1.symm
        simp [Text.startsWith, hne, hplain.1, hstart] at hunder

/-- The directories that are roots take no standard module in. -/
theorem not_underRoot_of_rootsFor {file : Path} (hroot : root ∈ rootsFor file)
    (hpath : isStandard path = true) : underRoot path root = false := by
  obtain ⟨-, hroot⟩ := List.mem_filter.mp hroot
  simp only [Bool.and_eq_true, Bool.not_eq_true'] at hroot
  exact underRoot_eq_false hroot.1 hroot.2 hpath

end Profile.Python

/-- The configuration of imports with the roots that the place of a file implies. -/
def ImportConfig.rooted (c : ImportConfig) (profile : Profile) (file : Path) : ImportConfig :=
  { c with localRoots := c.localRoots ++ (profile.rootsFor file).map String.ofList }

theorem ImportConfig.isLocalRoot_rooted (c : ImportConfig) (profile : Profile) (file : Path)
    (path : Text) :
    (c.rooted profile file).isLocalRoot path =
      (c.isLocalRoot path || (profile.rootsFor file).any (underRoot path)) := by
  simp [isLocalRoot, rooted, List.any_map, Function.comp_def]

/-- The configuration of a file is that of the settings, with these roots. -/
theorem Session.configFor_eq_rooted {s : Session} {file : SourceFile} {profile : Profile}
    {config : Config} (h : s.settings.resolve profile.language.name file.overrides = .ok config) :
    s.configFor profile file =
      .ok { config with imports := config.imports.rooted profile file.path } := by
  rw [configFor, h]
  rfl

namespace Import
variable {d : Document} {n : Node} {external : List Pattern} {path : Text}

/-- What the roots of a file change: a module under one of its directories is the project's own,
unless a pattern makes it external. -/
theorem originOf_rooted_eq_project_iff {profile : Profile} (config : ImportConfig) (file : Path)
    (hpath : profile.modulePath? d n = some path) :
    originOf profile d (config.rooted profile file) external n = .project ↔
      originOf profile d config external n = .project ∨
        Pattern.anyMatch external path = false ∧
          ∃ root ∈ profile.rootsFor file, underRoot path root = true := by
  rw [originOf_eq_project_iff hpath, originOf_eq_project_iff hpath,
    ImportConfig.isLocalRoot_rooted, Bool.or_eq_true, List.any_eq_true, ← and_or_left,
    or_right_comm]

/-- **The directories of a file never make a standard module one of the project.** A session adds
them to the roots that the settings give, and roots are asked before the standard library is; yet
what imports a standard module comes from the same place with and without them, under every
configuration. An import of another module becomes the project's own just when it lies under a
directory that can be a package and is not named like a standard module. -/
theorem originOf_rooted :
    (∀ (s : Session) (file : SourceFile) (config : Config),
      s.settings.resolve Profile.python.language.name file.overrides = .ok config →
      s.configFor .python file =
        .ok { config with imports := config.imports.rooted .python file.path }) ∧
    ∀ (file : Path) (config : ImportConfig) (external : List Pattern) (d : Document) (n : Node)
      (path : Text), Profile.python.modulePath? d n = some path →
      (Profile.python.isStandard path = true →
        originOf .python d (config.rooted .python file) external n =
          originOf .python d config external n) ∧
      (originOf .python d (config.rooted .python file) external n = .project ↔
        originOf .python d config external n = .project ∨
          Pattern.anyMatch external path = false ∧ ∃ root ∈ file.directories,
            Profile.Python.isIdentifier root = true ∧
              Profile.Python.isStandardName root = false ∧ underRoot path root = true) := by
  refine ⟨fun s file config h => Session.configFor_eq_rooted h, ?_⟩
  intro file config external d n path hpath
  have hiff := @originOf_rooted_eq_project_iff d n external path _ config file hpath
  constructor
  · intro hstandard
    have hnone : ¬ ∃ root ∈ Profile.python.rootsFor file, underRoot path root = true := by
      rintro ⟨root, hroot, hunder⟩
      rw [Profile.Python.not_underRoot_of_rootsFor hroot hstandard] at hunder
      cases hunder
    have hsame : originOf .python d (config.rooted .python file) external n = .project ↔
        originOf .python d config external n = .project := by
      simpa [hnone] using hiff
    -- There are only two origins.
    cases hwith : originOf .python d (config.rooted .python file) external n with
    | project => exact (hsame.mp hwith).symm
    | elsewhere =>
      cases hwithout : originOf .python d config external n with
      | elsewhere => rfl
      | project => cases hwith.symm.trans (hsame.mpr hwithout)
  · rw [hiff]
    simp [Profile.python, Profile.Python.rootsFor, and_assoc]

/-- A file in Python that imports a module of the standard library and one of its own. -/
def ownModules : Document :=
  .ofTree .python "import os.path\nimport osx.path\n".toList <|
    .named "module" 0 31 [
      .named "import_statement" 0 14 [.token "import" 0 6,
        .inField "name" (.named "dotted_name" 7 14 [.named "identifier" 7 9 [],
          .token "." 9 10, .named "identifier" 10 14 []])],
      .named "import_statement" 15 30 [.token "import" 15 21,
        .inField "name" (.named "dotted_name" 22 30 [.named "identifier" 22 25 [],
          .token "." 25 26, .named "identifier" 26 30 []])]]

def ownModulesImport (i : Nat) : Node :=
  (ownModules.root.namedChildren[i]?).getD ownModules.root

/-- Of the directories `os`, `o` and `osx` the last two are roots. The first import stays outside of
the project, and the second comes from it. -/
theorem originOf_rooted_ownModules :
    let file := Path.ofString "os/o/osx/m.py"
    let s : Session := { parser := fun _ _ => none, count := Counter.words }
    let rooted := ImportConfig.rooted {} .python file
    s.settings.resolve Profile.python.language.name none = .ok {} ∧
      s.configFor .python { path := file, text := ownModules.text } = .ok { imports := rooted } ∧
      rooted.localRoots = ["o", "osx"] ∧
      Profile.python.modulePath? ownModules (ownModulesImport 0) = some "os.path".toList ∧
      Profile.python.isStandard "os.path".toList = true ∧
      originOf .python ownModules rooted [] (ownModulesImport 0) = .elsewhere ∧
      Profile.python.modulePath? ownModules (ownModulesImport 1) = some "osx.path".toList ∧
      originOf .python ownModules {} [] (ownModulesImport 1) = .elsewhere ∧
      originOf .python ownModules rooted [] (ownModulesImport 1) = .project := by
  intro file s rooted
  obtain ⟨hsession, horigin⟩ := originOf_rooted
  have hsettings : s.settings.resolve Profile.python.language.name none = .ok {} := rfl
  have hpath : Profile.python.modulePath? ownModules (ownModulesImport 0) =
      some "os.path".toList := by decide +kernel
  have hpathOwn : Profile.python.modulePath? ownModules (ownModulesImport 1) =
      some "osx.path".toList := by decide +kernel
  have hstandard : Profile.python.isStandard "os.path".toList = true := by decide +kernel
  obtain ⟨hsame, -⟩ := horigin file {} [] ownModules (ownModulesImport 0) _ hpath
  obtain ⟨-, hown⟩ := horigin file {} [] ownModules (ownModulesImport 1) _ hpathOwn
  refine ⟨hsettings, hsession s { path := file, text := ownModules.text } {} hsettings,
    by decide +kernel, hpath, hstandard, (hsame hstandard).trans (by decide +kernel), hpathOwn,
    by decide +kernel, hown.mpr (.inr ⟨rfl, "osx".toList, ?_⟩)⟩
  exact ⟨by decide +kernel, by decide +kernel, by decide +kernel, by decide +kernel⟩

end Import

end Abridge
