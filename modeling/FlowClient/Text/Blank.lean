import FlowClient.Text.Pieces

/-! White space as Unicode's property `White_Space` has it, and what is trimmed
and split by it. -/

namespace FlowClient.Text

/-- Whether a character has the property `White_Space`. -/
def isBlank (char : Char) : Bool :=
  let code := char.toNat
  (9 ≤ code && code ≤ 13) || code == 0x20 || code == 0x85 || code == 0xA0 ||
    code == 0x1680 || (0x2000 ≤ code && code ≤ 0x200A) || code == 0x2028 ||
    code == 0x2029 || code == 0x202F || code == 0x205F || code == 0x3000

def isAllBlank (text : String) : Bool := text.toList.all isBlank

def trimEnd (text : List Char) : List Char := (text.reverse.dropWhile isBlank).reverse

def trim (text : List Char) : List Char := trimEnd (text.dropWhile isBlank)

def words (text : String) : List String :=
  (fields isBlank text.toList).map String.ofList

example : words " --suspend\u3000 /s1\n" = ["--suspend", "/s1"] := by decide

end FlowClient.Text
