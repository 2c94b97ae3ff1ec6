import Abridge.CharSet.Age
import Abridge.CharSet.Binary
import Abridge.CharSet.Break
import Abridge.CharSet.Script

/-!
Sets of characters by the names of their properties. A name alone is a property that holds or does
not hold, a general category or a script (`property?`); a name with a value is a general category, a
script, a script a character is used with, an age, or the class at the end of a grapheme, a word or
a sentence (`propertyValue?`).
-/
namespace Abridge.CharSet

/-- The characters of a general category, or of one of the three sets that are named with them. -/
def categoryOrWhole? (name : Text) : Option CharSet :=
  if name == "any".toList then some all
  else if name == "ascii".toList then some ascii
  else if name == "assigned".toList then some (ofCategories "Cn").complement
  else category? name

/-- The characters with a property, of a category or of a script. -/
def property? (name : Text) : Option CharSet :=
  let name := plainName name
  binary? name <|> categoryOrWhole? name <|> script? name

/-- The characters for which a property has a value. -/
def propertyValue? (name value : Text) : Option CharSet :=
  let name := plainName name
  let value := plainName value
  if isNamed "gc General_Category" name then categoryOrWhole? value
  else if isNamed "sc Script" name then script? value
  else if isNamed "scx Script_Extensions" name then scriptExtension? value
  else if isNamed "Age" name then age? value
  else if isNamed "gcb Grapheme_Cluster_Break" name then graphemeBreak? value
  else if isNamed "wb Word_Break" name then wordBreak? value
  else if isNamed "sb Sentence_Break" name then sentenceBreak? value
  else none

end Abridge.CharSet
