import Abridge.Proofs.Budget.Descent
import Mathlib.Logic.Relation

/-!
The ladder below a configuration.

All that stands on it is reached by tightening (`reaches_of_mem_ladder`), and it has at most
eighteen steps (`length_ladder_le`): each step takes one of the steps that are left, and no
configuration has more than that.
-/
namespace Abridge.Budget

/-- Whether a configuration is reached from another by tightening it over and over. -/
def Reaches : Config → Config → Prop :=
  Relation.ReflTransGen fun c d => tighten c = some d

theorem reaches_of_mem_ladder {c d : Config} (h : d ∈ ladder c) : Reaches c d := by
  induction c using ladder.induct with
  | case1 c hfoot =>
    rw [ladder_of_foot hfoot] at h
    cases h
  | case2 c next hnext ih =>
    rw [ladder_of_tighten hnext] at h
    rcases List.mem_cons.mp h with rfl | h
    · exact .single hnext
    · exact .head hnext (ih h)

/-! ### At most eighteen steps -/

/-- No setting has more steps left than its part of the ladder has. -/
theorem room_le (c : Config) : room c ≤ 18 := by
  have hbodies : bodyRoom c.functionBodies ≤ 6 := by
    unfold bodyRoom
    split
    · omega
    · exact Nat.succ_le_succ (List.length_filter_le _ bodyCaps)
  have hliterals : capsBelow c.literals.maxTokens literalCaps ≤ 5 :=
    List.length_filter_le _ literalCaps
  have himports : importRoom c.imports ≤ 3 := by
    unfold importRoom
    split
    · omega
    · exact Nat.succ_le_succ (List.length_filter_le _ summaryLimits)
  have hsurface : (if c.publicApiOnly then 0 else 1) ≤ 1 := by
    split <;> omega
  unfold room
  omega

theorem length_ladder_le_room (c : Config) : (ladder c).length ≤ room c := by
  induction c using ladder.induct with
  | case1 c hfoot =>
    rw [ladder_of_foot hfoot]
    exact Nat.zero_le _
  | case2 c next hnext ih =>
    rw [ladder_of_tighten hnext, List.length_cons]
    exact Nat.lt_of_le_of_lt ih (room_lt_of_tighten hnext)

theorem length_ladder_le (c : Config) : (ladder c).length ≤ 18 :=
  Nat.le_trans (length_ladder_le_room c) (room_le c)

end Abridge.Budget
