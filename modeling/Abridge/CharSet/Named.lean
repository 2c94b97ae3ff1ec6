import Abridge.CharSet.Category

/-!
Sets of characters that are kept as they differ from general categories. `NamedSet.find?` finds one
of them by its name.
-/
namespace Abridge.CharSet

/-- A set of characters: its names, the categories whose characters are mostly in it, and the run
lengths of the characters of which that is not so. -/
structure NamedSet where
  names : String
  categories : String
  exceptions : String

namespace NamedSet

/-- The characters of a set: those of its categories, with the exceptions changed over. -/
def toSet (s : NamedSet) : CharSet :=
  (ofCategories s.categories).symmDiff (ofRuns (numbers s.exceptions))

/-- The set with a name in plain form. -/
def find? (sets : List NamedSet) (name : Text) : Option CharSet :=
  (sets.find? fun s => isNamed s.names name).map (·.toSet)

end NamedSet

end Abridge.CharSet
