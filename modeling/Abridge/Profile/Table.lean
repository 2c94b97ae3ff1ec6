import Abridge.Profile.CFamily
import Abridge.Profile.Ecma
import Abridge.Profile.Go
import Abridge.Profile.Java
import Abridge.Profile.Python
import Abridge.Profile.Rust

/-!
The profile of every language.
-/
namespace Abridge.Language

/-- The rules of a language. -/
def profile : Language → Profile
  | python => .python
  | typescript => .ecma .typescript
  | tsx => .ecma .tsx
  | javascript => .ecma .javascript
  | rust => .rust
  | go => .go
  | java => .java
  | c => .cFamily .c false
  | cpp => .cFamily .cpp true

theorem language_profile (l : Language) : l.profile.language = l := by
  cases l <;> rfl

end Abridge.Language
