import Abridge.Edit.Span
import Abridge.Text.Search

/-!
The shape of string literals: what opens and closes them and which bytes lie in between. Single,
triple and back quotes, prefixes, hashes of raw strings and the delimiters of C++ raw strings are
all read off the text of the literal.
-/
namespace Abridge

/-- How values are put into a string. -/
inductive Interpolation where
  | none
  /-- `$` and braces, as in template strings. -/
  | dollarBrace
  /-- Braces alone, of which two stand for one, as in f-strings. -/
  | brace
  deriving DecidableEq, Repr

/-- The delimiters of a string literal and the span between them. -/
structure StringShape where
  opener : Text
  closer : Text
  content : Span
  interpolation : Interpolation
  deriving DecidableEq, Repr

namespace StringShape

def isQuote (c : Char) : Bool :=
  c == '"' || c == '\'' || c == '\x60'

/-- What may stand in front of the quote. -/
def isLeadChar (c : Char) : Bool :=
  c.isAlphanum || c == '#' || c == '_'

/-- The quote that a text begins with: three double or single ones, or one of any sort. -/
def quoteOf (t : Text) : Text :=
  if t.startsWith ['"', '"', '"'] then ['"', '"', '"']
  else if t.startsWith ['\'', '\'', '\''] then ['\'', '\'', '\'']
  else t.take 1

/-- The opener and the closer of a literal that begins with `lead` and goes on with a quote. -/
def delimiters? (lead rest : Text) : Option (Text × Text) :=
  if lead.getLast? == some 'R' && rest.head? == some '"' then
    let front := rest.takeWhile (· != '(')
    if front.length < rest.length then
      some (lead ++ front ++ ['('], [')'] ++ front.drop 1 ++ ['"'])
    else none
  else
    let quote := quoteOf rest
    some (lead ++ quote, quote ++ List.replicate (lead.count '#') '#')

/-- The interpolation of a literal by its prefix and opener. -/
def interpolationOf (lead opener : Text) : Interpolation :=
  if opener.getLast? == some '\x60' then .dollarBrace
  else if lead.any (fun c => c == 'f' || c == 'F') then .brace
  else .none

/-- The shape of a literal that stands at `start`. -/
def ofText? (text : Text) (start : Nat) : Option StringShape :=
  let lead := text.takeWhile (!isQuote ·)
  let rest := text.dropWhile (!isQuote ·)
  if rest.isEmpty || !lead.all isLeadChar then none
  else
    (delimiters? lead rest).bind fun (opener, closer) =>
      if text.size < opener.size + closer.size || !text.endsWith closer then none
      else
        some {
          opener
          closer
          content := .between (start + opener.size) (start + text.size - closer.size)
          interpolation := interpolationOf lead opener }

end StringShape

end Abridge
