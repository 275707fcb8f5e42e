/-! Whole numbers as users write them. -/

namespace FlowClient.Text

def unsigned? (text : String) : Option Nat :=
  let digits := match text.toList with
    | '+' :: rest => rest
    | digits => digits
  if digits.isEmpty || !digits.all Char.isDigit then none
  else some (Nat.ofDigitChars 10 digits 0)

example : (["+080", "", "+", "-1", "1 "].map unsigned?) = [some 80, none, none, none, none] := by
  decide

end FlowClient.Text
