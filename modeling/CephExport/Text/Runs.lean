/-!
Sets of characters given by the runs of code points that they consist of.
-/

set_option autoImplicit false
set_option relaxedAutoImplicit false

namespace CephExport.Text

/-- The first and last code points of the runs of a set, in increasing order. -/
abbrev Runs := Array (Nat × Nat)

namespace Runs

/-- Whether one of the runs from `low` on and below `high` holds a code point, found by halving. -/
def holdsWithin (runs : Runs) (n : Nat) : Nat → Nat → Nat → Bool
  | 0, _, _ => false
  | fuel + 1, low, high =>
    if high ≤ low then false
    else
      let middle := (low + high) / 2
      match runs[middle]? with
      | none => false
      | some (first, last) =>
        if n < first then holdsWithin runs n fuel low middle
        else if last < n then holdsWithin runs n fuel (middle + 1) high
        else true

def holds (runs : Runs) (n : Nat) : Bool := runs.holdsWithin n (runs.size.log2 + 2) 0 runs.size

theorem exists_run_of_holdsWithin {runs : Runs} {n fuel low high : Nat}
    (h : runs.holdsWithin n fuel low high = true) :
    ∃ run ∈ runs, run.1 ≤ n ∧ n ≤ run.2 := by
  induction fuel generalizing low high with
  | zero => simp [holdsWithin] at h
  | succ fuel ih =>
    simp only [holdsWithin] at h
    split at h
    · cases h
    · split at h
      · cases h
      · rename_i first last hrun
        split at h
        · exact ih h
        · split at h
          · exact ih h
          · exact ⟨(first, last), Array.mem_of_getElem? hrun, by omega, by omega⟩

end Runs

end CephExport.Text
