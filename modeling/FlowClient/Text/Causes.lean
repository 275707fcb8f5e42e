import FlowClient.Text.Pieces

/-! Failures together with what lies behind them. -/

namespace FlowClient.Text

/-- A text whose first line stands behind one margin and the others behind another. -/
def indented (first others : String) (text : String) : String :=
  first ++ join ("\n" ++ others) ((pieces (· == '\n') text.toList).map String.ofList)

/-- The number of a cause, to the right of five columns. -/
def causeNumber (number : Nat) : String :=
  let digits := toString number
  String.ofList (List.replicate (5 - digits.length) ' ') ++ digits ++ ": "

def numberedCauses (number : Nat) : List String → List String
  | [] => []
  | cause :: rest =>
      indented (causeNumber number) "       " cause :: numberedCauses (number + 1) rest

/-- A failure, and below it what caused it. Causes are numbered unless there is
only one. -/
def withCauses (failure : String) : List String → String
  | [] => failure
  | [cause] => failure ++ "\n\nCaused by:\n" ++ indented "    " "    " cause
  | causes => join "\n" ((failure ++ "\n\nCaused by:") :: numberedCauses 0 causes)

example : withCauses "no" ["a\nb"] = "no\n\nCaused by:\n    a\n    b" := by decide +kernel

example : withCauses "no" ["a\nb", "c"] =
    "no\n\nCaused by:\n    0: a\n       b\n    1: c" := by decide +kernel

end FlowClient.Text
