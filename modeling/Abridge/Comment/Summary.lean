import Abridge.Bisection
import Abridge.Budget.Counter

/-!
Shortening what a comment says: to its first sentence, or to the words that fit a number of tokens.
-/
namespace Abridge.Summary

def isStop (c : Char) : Bool :=
  c == '.' || c == '!' || c == '?'

/-- A paragraph up to the first stop that a blank follows. -/
def upToStop : Text → Text
  | [] => []
  | c :: t =>
    if isStop c && t.head?.any Text.isBlank then [c] else c :: upToStop t

/-- The first sentence of a text: up to a stop before a blank, or to the end of the first
paragraph. -/
def firstSentence (body : Text) : Text :=
  upToStop (Text.upTo ['\n', '\n'] body.trim)

/-- How many characters stand in front of each blank of a text. -/
def blankIndices (t : Text) : List Nat :=
  (t.zipIdx.filter fun (c, _) => Text.isBlank c).map Prod.snd

/-- The longest front part of a text that ends before a blank and fits a number of tokens, without
blanks at its end; the text itself if all of it fits. -/
def truncate (count : Counter) (maxTokens : Nat) (t : Text) : Text :=
  if count t ≤ maxTokens then t
  else
    let stops := blankIndices t
    let front (k : Nat) : Text := t.take (stops.getD (k - 1) 0)
    let k := bisect (fun k => count (front k) ≤ maxTokens) 0 stops.length
    if k = 0 then [] else (front k).trimEnd

end Abridge.Summary
