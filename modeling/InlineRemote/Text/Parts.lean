/-! # Lists in parts -/
namespace InlineRemote.Text

def parts {α : Type} (size : Nat) : List α → List (List α)
  | [] => []
  | x :: xs => (x :: xs.take (size - 1)) :: parts size (xs.drop (size - 1))
  termination_by xs => xs.length

end InlineRemote.Text
