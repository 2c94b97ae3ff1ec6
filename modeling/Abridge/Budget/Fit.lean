import Abridge.Budget.Counter
import Abridge.Budget.Ladder
import Abridge.Tally

/-!
Fitting a file under a ceiling of tokens.

The file is abridged under the given configuration and then under one after the other of the ladder
below it, until the best result so far has no more tokens than the ceiling. A result takes the place
of the best one if it is longer neither in tokens nor in bytes. Only the first run may fail.
-/
namespace Abridge

/-- An abridged text and the counts of what was taken out of it. -/
structure Abridged where
  text : Text
  tally : Tally
  deriving DecidableEq, Repr

namespace Budget

/-- A result with its number of tokens. -/
structure Candidate where
  result : Abridged
  tokens : Nat
  deriving DecidableEq, Repr

def Candidate.of (count : Counter) (result : Abridged) : Candidate :=
  ⟨result, count result.text⟩

/-- The better of the best result so far and a new one. -/
def Candidate.improve (best new : Candidate) : Candidate :=
  if new.tokens ≤ best.tokens ∧ new.result.text.size ≤ best.result.text.size then new else best

/-- How far a search has come: the best result and the number of runs. -/
structure Search where
  best : Candidate
  runs : Nat
  deriving DecidableEq, Repr

/-- One run more; a run that fails changes nothing but the number of runs. -/
def Search.attempt {ε : Type} (run : Config → Except ε Abridged) (count : Counter) (s : Search)
    (config : Config) : Search :=
  match run config with
  | .ok result => ⟨s.best.improve (.of count result), s.runs + 1⟩
  | .error _ => ⟨s.best, s.runs + 1⟩

/-- Tries one configuration after the other until the best result fits. -/
def descend {ε : Type} (run : Config → Except ε Abridged) (count : Counter) (ceiling : Nat) :
    Search → List Config → Search
  | s, [] => s
  | s, config :: rest =>
    if s.best.tokens ≤ ceiling then s
    else descend run count ceiling (s.attempt run count config) rest

/-- The best result with the account of the search in its tally. -/
def Search.finish (language : String) (before : Nat) (s : Search) : Abridged where
  text := s.best.result.text
  tally :=
    ((s.best.result.tally.set (language ++ ".budget.tokens_before") before).set
      (language ++ ".budget.tokens_after") s.best.tokens).set
      (language ++ ".budget.iterations") s.runs

/-- Abridges a text under a ceiling; `run` abridges it under a configuration. -/
def fit {ε : Type} (run : Config → Except ε Abridged) (count : Counter) (language : String)
    (text : Text) (config : Config) (ceiling : Nat) : Except ε Abridged :=
  match run config with
  | .error e => .error e
  | .ok first =>
    let start : Search := ⟨.of count first, 1⟩
    .ok ((descend run count ceiling start (ladder config)).finish language (count text))

end Budget

end Abridge
