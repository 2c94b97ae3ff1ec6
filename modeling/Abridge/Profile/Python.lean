import Abridge.Profile.Basic
import Abridge.Text.CharClass

/-!
Python: visibility by underscores, decorators, docstrings, and relative imports. A file's
directories are packages of the project unless the standard library has a module of that name.
-/
namespace Abridge.Profile.Python

/-! ### Declarations -/

def attachments : Attachments where
  kinds := ["decorator"]

/-- Two leading underscores make a name private and one protected, but a name with two on both sides
is public. -/
def visibilityOf (name : Text) : Visibility :=
  if name.startsWith ['_', '_'] && name.endsWith ['_', '_'] && 4 < name.length then .pub
  else if name.startsWith ['_', '_'] then .priv
  else if name.startsWith ['_'] then .prot
  else .pub

/-- The standing of a named declaration of a class or of the module. -/
def standing (inClass : Bool) (kind : DeclarationKind) (name : Text) : Standing :=
  if inClass then .member kind (visibilityOf name)
  else .topLevel kind (visibilityOf name) (visibilityOf name == .pub)

/-- The name that a plain assignment statement assigns to. -/
def assignedName? (d : Document) (statement : Node) : Option Text := do
  let assignment ← statement.namedChildren.head?
  guard (assignment.kind == "assignment")
  let left ← assignment.inField? "left"
  guard (left.kind == "identifier")
  return d.textOf left

def importKinds : List String :=
  ["import_statement", "import_from_statement", "future_import_statement"]

/-- What a definition inside `outer` declares, and the class body to go on with. -/
def declare (d : Document) (inClass : Bool) (node outer : Node) :
    List (Declaration ⊕ (Bool × Node)) :=
  let found (s : Standing) : Declaration ⊕ (Bool × Node) := .inl (.of d attachments node outer s)
  if node.kind == "function_definition" then
    (node.inField? "name").toList.map fun name =>
      found (standing inClass (if inClass then .method else .function) (d.textOf name))
  else if node.kind == "class_definition" then
    (node.inField? "name").toList.flatMap fun name =>
      found (standing inClass .classType (d.textOf name)) ::
        (node.inField? "body").toList.map fun body => .inr (true, body)
  else if node.kind == "expression_statement" then
    ((assignedName? d node).toList.filter (· != "__all__".toList)).map fun name =>
      found (standing inClass (if inClass then .fieldDecl else .variableDecl) name)
  else if importKinds.contains node.kind && !inClass then [found .ofImport]
  else []

/-- What the children of a module or of a class body declare. -/
def step (d : Document) (inClass : Bool) (container : Node) : List (Declaration ⊕ (Bool × Node)) :=
  container.namedChildren.flatMap fun child =>
    if child.kind == "decorated_definition" then
      (child.inField? "definition").toList.flatMap fun node => declare d inClass node child
    else declare d inClass child child

def declarations (d : Document) : List Declaration :=
  d.root.expand (step d) false

/-! ### Imports -/

/-- The modules of the standard library. -/
def standardModules : List String := [
  "__future__", "_thread", "abc", "argparse", "array", "ast", "asyncio", "atexit", "base64", "bdb",
  "binascii", "bisect", "builtins", "bz2", "calendar", "cmath", "cmd", "code", "codecs",
  "collections", "colorsys", "concurrent", "configparser", "contextlib", "contextvars", "copy",
  "copyreg", "cProfile", "csv", "ctypes", "curses", "dataclasses", "datetime", "dbm", "decimal",
  "difflib", "dis", "doctest", "email", "encodings", "enum", "errno", "faulthandler", "fcntl",
  "filecmp", "fileinput", "fnmatch", "fractions", "ftplib", "functools", "gc", "getopt", "getpass",
  "gettext", "glob", "graphlib", "grp", "gzip", "hashlib", "heapq", "hmac", "html", "http",
  "imaplib", "importlib", "inspect", "io", "ipaddress", "itertools", "json", "keyword", "linecache",
  "locale", "logging", "lzma", "mailbox", "marshal", "math", "mimetypes", "mmap", "multiprocessing",
  "netrc", "numbers", "operator", "optparse", "os", "pathlib", "pdb", "pickle", "pkgutil",
  "platform", "plistlib", "poplib", "posix", "pprint", "profile", "pstats", "pty", "pwd",
  "py_compile", "queue", "quopri", "random", "re", "readline", "reprlib", "resource", "rlcompleter",
  "runpy", "sched", "secrets", "select", "selectors", "shelve", "shlex", "shutil", "signal", "site",
  "smtplib", "socket", "socketserver", "sqlite3", "ssl", "stat", "statistics", "string",
  "stringprep", "struct", "subprocess", "symtable", "sys", "sysconfig", "syslog", "tabnanny",
  "tarfile", "tempfile", "termios", "textwrap", "threading", "time", "timeit", "tkinter", "token",
  "tokenize", "tomllib", "trace", "traceback", "tracemalloc", "tty", "turtle", "types", "typing",
  "unicodedata", "unittest", "urllib", "uuid", "venv", "warnings", "wave", "weakref", "webbrowser",
  "winreg", "wsgiref", "xml", "xmlrpc", "zipapp", "zipfile", "zipimport", "zlib", "zoneinfo"]

/-- Whether a name is that of a standard module. -/
def isStandardName (name : Text) : Bool :=
  standardModules.contains (String.ofList name)

/-- Whether the first name of a dotted path is that of a standard module. -/
def isStandard (path : Text) : Bool :=
  isStandardName (path.takeWhile (· != '.'))

def modulePath? (d : Document) (n : Node) : Option Text :=
  if n.kind == "future_import_statement" then some "__future__".toList
  else if n.kind == "import_from_statement" then (n.inField? "module_name").map d.textOf
  else do
    let name ← n.inField? "name"
    let dotted ← if name.kind == "aliased_import" then name.inField? "name" else some name
    return d.textOf dotted

/-- Relative imports come from the project. -/
def origin (d : Document) (n : Node) : Origin :=
  if (modulePath? d n).any fun path => path.startsWith ['.'] then .project else .elsewhere

def isIdentifier : Text → Bool
  | [] => false
  | c :: rest =>
    (Text.isAlphabetic c || c == '_') && rest.all fun c => Text.isAlphanumeric c || c == '_'

/-- The directories of a file that may be packages. -/
def rootsFor (path : Path) : List Text :=
  path.directories.filter fun name => isIdentifier name && !isStandardName name

/-! ### Comments and docstrings -/

/-- Whether a statement is a string and nothing else. -/
def isStringStatement (statement : Node) : Bool :=
  statement.kind == "expression_statement" &&
    (statement.onlyChild?.any fun child => child.kind == "string")

/-- The words that make a comment speak to a tool when it starts with them. -/
def directiveWords : List Text :=
  ["type:".toList, "noqa".toList, "pylint:".toList, "pragma".toList, "fmt:".toList, "-*-".toList]

/-- Whether a declaration of the encoding stands on a line. -/
def declaresCoding (line : Text) : Bool :=
  Text.occurs "coding:".toList line || Text.occurs "coding=".toList line

/-- Whether a comment begins with a word for a tool, or declares the encoding on the first line that
is not blank. -/
def isToolComment (comment : Text) : Bool :=
  match comment.stripStart? ['#'] with
  | none => false
  | some rest =>
    directiveWords.any (Text.startsWith (Text.trimStart rest)) ||
      declaresCoding ((Text.trimStart rest).takeWhile (· != '\n'))

/-- A line that names the interpreter at the start of the file, or a comment for a tool. -/
def isDirective (d : Document) (comment : Node) : Bool :=
  let text := d.textOf comment
  (comment.start == 0 && text.startsWith ['#', '!']) || isToolComment text

/-- Whether a string is the first statement of a module, class or function. -/
def isDocstring (n : Node) : Bool :=
  (n.parent?.any fun statement =>
    isStringStatement statement &&
      (statement.parent?.any fun container =>
        (container.kind == "module" ||
          (container.kind == "block" &&
            (container.parent?.any fun owner =>
              owner.kind == "function_definition" || owner.kind == "class_definition"))) &&
        (container.statements.head?.any fun first => first.same statement)))

def docstrings (d : Document) : List Node :=
  match d.queryNodes "docstrings" "docstring" with
  | .ok strings => strings.filter isDocstring
  | .error _ => []

/-! ### Files -/

/-- Whether a statement of a package file only gathers names from elsewhere. -/
def isGathering (d : Document) (n : Node) : Bool :=
  importKinds.contains n.kind || n.kind == "comment" ||
    (n.kind == "expression_statement" &&
      (isStringStatement n || assignedName? d n == some "__all__".toList))

/-- A package file with nothing but imports, documentation and the list of exported names. -/
def isTrivial (d : Document) (path : Path) : Bool :=
  path.fileName == "__init__.py".toList && d.root.namedChildren.all (isGathering d)

end Abridge.Profile.Python

namespace Abridge.Profile

/-- The rules of Python. -/
def python : Profile where
  language := .python
  attachments := Python.attachments
  declarations := Python.declarations
  modulePath? := Python.modulePath?
  origin := Python.origin
  isStandard := Python.isStandard
  rootsFor := Python.rootsFor
  isExempt := fun d n => Import.surrounds d n || n.parent?.any Python.isStringStatement
  isDirective := Python.isDirective
  docstrings := Python.docstrings
  isTrivial := Python.isTrivial
  hasBraces := false
  stub? := some ⟨['.', '.', '.'], ["block"]⟩

end Abridge.Profile
