set_option autoImplicit false

/-!
# Parts of a text

A text is cut at its separators: the parts are what stands between them, so that there is one part
more than there are separators.
-/

namespace ChatCommands.Text

/-- The parts of a text between its separators, empty ones included. -/
def partsBetween (isSeparator : Char → Bool) (s : List Char) : List (List Char) :=
  s.foldr
    (fun c parts => match parts with
      | part :: parts => if isSeparator c then [] :: part :: parts else (c :: part) :: parts
      | [] => [[c]])
    [[]]

/-- There is always a part. -/
theorem partsBetween_ne_nil (isSeparator : Char → Bool) (s : List Char) :
    partsBetween isSeparator s ≠ [] := by
  cases s with
  | nil => simp [partsBetween]
  | cons c r =>
    simp only [partsBetween, List.foldr_cons]
    split
    · split <;> simp
    · simp

end ChatCommands.Text
