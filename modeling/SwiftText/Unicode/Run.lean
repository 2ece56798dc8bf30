/-!
# Runs of code points

A property of characters is given by a table of *runs*: arithmetic progressions of code points.
Step 1 describes a block; step 2 fits the alphabets in which capital and small letters take turns.
The runs of a table are in the order of their first code points, so a search may stop at the first
run that starts too late.

* `find?` searches a table for the run on which a code point lies. What it finds is an entry of the
  table (`mem_of_find?`) on which the code point does lie (`contains_of_find?`).
* `covers` asks whether there is such a run.
-/

namespace SwiftText.Unicode

/-- The code points `first`, `first + step`, … up to `last`. -/
structure Run where
  first : Nat
  last : Nat
  step : Nat

namespace Run

/-- Whether a code point lies on the run. -/
def contains (r : Run) (n : Nat) : Bool :=
  r.first ≤ n && n ≤ r.last && (n - r.first) % r.step == 0

/-- The entry of a table on whose run a code point lies. -/
def find? {α : Type} (run : α → Run) : List α → Nat → Option α
  | [], _ => none
  | x :: rest, n =>
    if n < (run x).first then none
    else if (run x).contains n then some x
    else find? run rest n

variable {α : Type} {run : α → Run} {table : List α} {n : Nat} {x : α}

theorem mem_of_find? (h : find? run table n = some x) : x ∈ table := by
  fun_induction find? run table n with
  | case1 => simp at h
  | case2 => simp at h
  | case3 y rest =>
    rw [Option.some.injEq] at h
    exact h ▸ List.mem_cons_self
  | case4 y rest _ _ _ ih => exact List.mem_cons_of_mem y (ih h)

theorem contains_of_find? (h : find? run table n = some x) : (run x).contains n = true := by
  fun_induction find? run table n with
  | case1 => simp at h
  | case2 => simp at h
  | case3 y rest _ _ hy =>
    rw [Option.some.injEq] at h
    exact h ▸ hy
  | case4 _ _ _ _ _ ih => exact ih h

end Run

/-- Whether a character lies on some run of a table. -/
def covers (table : List Run) (c : Char) : Bool := (Run.find? id table c.toNat).isSome

end SwiftText.Unicode
