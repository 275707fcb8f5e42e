import FlowClient.Text.Plain

/-! Text in quotes, as it is shown to a reader who has to see every character. -/

namespace FlowClient.Text

def hexDigits (value : Nat) : List Char := Nat.toDigits 16 value

/-- A character as it stands inside quotes. -/
def showChar (char : Char) : List Char :=
  if char = '"' then ['\\', '"']
  else if char = '\\' then ['\\', '\\']
  else if char = '\n' then ['\\', 'n']
  else if char = '\r' then ['\\', 'r']
  else if char = '\t' then ['\\', 't']
  else if char.toNat = 0 then ['\\', '0']
  else if isPlain char then [char]
  else ['\\', 'u', '{'] ++ hexDigits char.toNat ++ ['}']

/-- A text in quotes. Whatever cannot be shown plainly is written by its number. -/
def quoted (text : String) : String :=
  String.ofList ('"' :: (text.toList.flatMap showChar ++ ['"']))

def quotedList (texts : List String) : String :=
  "[" ++ String.intercalate ", " (texts.map quoted) ++ "]"

end FlowClient.Text
