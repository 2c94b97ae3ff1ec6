import Abridge.CharSet.Category

/-!
The sets of characters that are named by a letter or a word: digits, blanks and the characters of
words, and the classes of ASCII characters. The former follow the Unicode standard, version 16.
-/
namespace Abridge.CharSet

/-- Decimal digits of any script: the general category Nd. -/
def digit : CharSet :=
  .ofRuns
    [48, 10, 1574, 10, 134, 10, 198, 10, 412, 10, 118, 10, 118, 10, 118, 10, 118, 10, 118, 10, 118,
     10, 118, 10, 118, 10, 118, 10, 96, 10, 118, 10, 70, 10, 278, 10, 70, 10, 1862, 10, 38, 10,
     300, 10, 128, 10, 166, 10, 6, 10, 182, 10, 86, 10, 134, 10, 6, 10, 35270, 10, 678, 10, 38, 10,
     198, 10, 22, 10, 86, 10, 406, 10, 21270, 10, 1414, 10, 2182, 10, 6, 10, 796, 10, 128, 10, 60,
     10, 144, 10, 278, 10, 342, 10, 118, 10, 374, 10, 102, 10, 6, 20, 76, 10, 422, 10, 102, 10,
     662, 10, 86, 10, 246, 10, 70, 10, 422, 10, 16854, 10, 2342, 10, 86, 10, 134, 10, 534, 10,
     24438, 10, 2772, 50, 2368, 10, 422, 10, 502, 10, 247, 10, 853, 10, 4758, 10]

/-- Blanks: the property White_Space. -/
def blank : CharSet :=
  ⟨[0x9, 0xE, 0x20, 0x21, 0x85, 0x86, 0xA0, 0xA1, 0x1680, 0x1681, 0x2000, 0x200B, 0x2028, 0x202A,
    0x202F, 0x2030, 0x205F, 0x2060, 0x3000, 0x3001]⟩

/-- The symbols that act as letters: letters and numbers in circles and boxes. -/
def letterSymbols : CharSet :=
  ⟨[0x24B6, 0x24EA, 0x1F130, 0x1F14A, 0x1F150, 0x1F16A, 0x1F170, 0x1F18A]⟩

/-- The controls that join letters or keep them apart. -/
def joiners : CharSet :=
  range 0x200C 0x200D

/-- The characters of words: letters and what acts as one, marks, decimal digits, connectors and
join controls. -/
def word : CharSet :=
  unions [ofCategories "Lu Ll Lt Lm Lo Mn Mc Me Nd Nl Pc", letterSymbols, joiners]

/-- The ranges between pairs of characters. -/
def ofPairs (pairs : List (Char × Char)) : CharSet :=
  unions (pairs.map fun (first, last) => range first.toNat last.toNat)

/-- The class of ASCII characters with a name. -/
def asciiClass? : String → Option CharSet
  | "alnum" => some (ofPairs [('0', '9'), ('A', 'Z'), ('a', 'z')])
  | "alpha" => some (ofPairs [('A', 'Z'), ('a', 'z')])
  | "ascii" => some ascii
  | "blank" => some (ofPairs [('\t', '\t'), (' ', ' ')])
  | "cntrl" => some (ofPairs [('\x00', '\x1f'), ('\x7f', '\x7f')])
  | "digit" => some (ofPairs [('0', '9')])
  | "graph" => some (ofPairs [('!', '~')])
  | "lower" => some (ofPairs [('a', 'z')])
  | "print" => some (ofPairs [(' ', '~')])
  | "punct" => some (ofPairs [('!', '/'), (':', '@'), ('[', '\x60'), ('\x7b', '~')])
  | "space" => some (ofPairs [('\t', '\r'), (' ', ' ')])
  | "upper" => some (ofPairs [('A', 'Z')])
  | "word" => some (ofPairs [('0', '9'), ('A', 'Z'), ('_', '_'), ('a', 'z')])
  | "xdigit" => some (ofPairs [('0', '9'), ('A', 'F'), ('a', 'f')])
  | _ => none

end Abridge.CharSet
