/-!
# Lines

The lines of a text are what stands before each of its line breaks. What follows the last break is
not a line yet.

**Results.**
* `length_lines`: a text has as many lines as line breaks.
* `lines_append_break`: what ends with a line break shares no line with what follows.
-/
namespace FeatureFlags.Text

/-- The lines of a text, without their line breaks. -/
def lines (text : String) : List String := (text.toList.splitOn '\n').dropLast.map String.ofList

/-- How many line breaks a text has. -/
def breaks (text : String) : Nat := text.toList.count '\n'

theorem breaks_append (a b : String) : breaks (a ++ b) = breaks a + breaks b := by
  simp [breaks, String.toList_append]

theorem breaks_eq_zero {text : String} : breaks text = 0 ↔ '\n' ∉ text.toList := List.count_eq_zero

theorem breaks_join_eq_zero {texts : List String} :
    breaks (String.join texts) = 0 ↔ ∀ text ∈ texts, '\n' ∉ text.toList := by
  rw [breaks_eq_zero, String.toList_join, List.mem_flatMap, not_exists]
  exact forall_congr' fun text => not_and

theorem length_splitOn [BEq α] (a : α) (as : List α) : (as.splitOn a).length = as.count a + 1 := by
  induction as with
  | nil => rfl
  | cons b bs ih =>
    rw [List.splitOn_cons_eq_if_modifyHead, List.count_cons]
    split <;> simp [ih]

theorem length_lines (text : String) : (lines text).length = breaks text := by
  simp [lines, breaks, length_splitOn]

theorem lines_break (a : String) :
    lines (a ++ "\n") = (a.toList.splitOn '\n').map String.ofList := by
  have hlast : (a ++ "\n").toList.splitOn '\n' = a.toList.splitOn '\n' ++ [[]] := by
    rw [String.toList_append]
    exact List.splitOn_append_cons_self a.toList []
  rw [lines, hlast, List.dropLast_concat]

theorem lines_append_break (a b : String) :
    lines (a ++ "\n" ++ b) = lines (a ++ "\n") ++ lines b := by
  have hsplit : (a ++ "\n" ++ b).toList.splitOn '\n' = a.toList.splitOn '\n' ++
    b.toList.splitOn '\n' := by
    rw [String.toList_append, String.toList_append, List.append_assoc]
    exact List.splitOn_append_cons_self a.toList b.toList
  rw [lines, hsplit, List.dropLast_append_of_ne_nil (List.splitOn_ne_nil '\n' b.toList),
    List.map_append, ← lines_break]
  rfl

/-- A text without a line break, then one. -/
theorem lines_single {a : String} (h : breaks a = 0) : lines (a ++ "\n") = [a] := by
  rw [lines_break, List.splitOn_eq_singleton (breaks_eq_zero.1 h), List.map_singleton,
    String.ofList_toList]

end FeatureFlags.Text
