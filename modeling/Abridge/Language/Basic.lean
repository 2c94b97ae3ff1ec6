/-!
The languages that can be abridged.
-/
namespace Abridge

/-- A language with a grammar of its own. -/
inductive Language where
  | python
  | typescript
  | tsx
  | javascript
  | rust
  | go
  | java
  | c
  | cpp
  deriving DecidableEq, Repr

namespace Language

/-- Every language, in the order of registration. -/
def all : List Language :=
  [.python, .typescript, .tsx, .javascript, .rust, .go, .java, .c, .cpp]

/-- The name of a language in tallies and settings; the two grammars of TypeScript share one. -/
def name : Language → String
  | python => "python"
  | typescript => "typescript"
  | tsx => "typescript"
  | javascript => "javascript"
  | rust => "rust"
  | go => "go"
  | java => "java"
  | c => "c"
  | cpp => "cpp"

/-- The name of a grammar in messages. -/
def title : Language → String
  | python => "Python"
  | typescript => "TypeScript"
  | tsx => "Tsx"
  | javascript => "JavaScript"
  | rust => "Rust"
  | go => "Go"
  | java => "Java"
  | c => "C"
  | cpp => "Cpp"

end Language

end Abridge
