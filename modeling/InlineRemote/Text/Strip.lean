/-! # Words at the start of a text -/
namespace InlineRemote.Text

/-- The text after a word at its start, if it starts with that word. -/
def strip? : List Char → List Char → Option (List Char)
  | [], s => some s
  | _ :: _, [] => none
  | w :: ws, c :: s => if c = w then strip? ws s else none

/-- A text starts with a word exactly if it is the word followed by what is left. -/
theorem strip?_eq_some_iff {w s r : List Char} : strip? w s = some r ↔ s = w ++ r := by
  induction w generalizing s with
  | nil => simp [strip?]
  | cons a w ih =>
    cases s with
    | nil => simp [strip?]
    | cons c s =>
      rw [strip?]
      by_cases h : c = a
      · simp [h, ih]
      · simp [h]

end InlineRemote.Text
