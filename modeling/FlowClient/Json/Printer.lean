import FlowClient.Json

/-! Compact JSON text: no blanks, fields in the order they have, and escapes only
where the grammar asks for them. -/

namespace FlowClient.Json

/-- A hexadecimal digit, in lower case. -/
def hexDigit (value : Nat) : Char :=
  Char.ofNat (if value < 10 then 48 + value else 87 + value)

/-- A character as it stands inside quotes. Quotes, backslashes and the control
characters below space are escaped, and nothing else is. -/
def escapeChar (char : Char) : List Char :=
  if char = '"' then ['\\', '"']
  else if char = '\\' then ['\\', '\\']
  else if char = '\n' then ['\\', 'n']
  else if char = '\r' then ['\\', 'r']
  else if char = '\t' then ['\\', 't']
  else if char.toNat = 8 then ['\\', 'b']
  else if char.toNat = 12 then ['\\', 'f']
  else if char.toNat < 32 then
    ['\\', 'u', '0', '0', hexDigit (char.toNat / 16), hexDigit (char.toNat % 16)]
  else [char]

def quote (text : String) : List Char :=
  '"' :: (text.toList.flatMap escapeChar ++ ['"'])

def digits (value : Nat) : List Char := Nat.toDigits 10 value

mutual
def print : Json → List Char
  | null => ['n', 'u', 'l', 'l']
  | bool true => ['t', 'r', 'u', 'e']
  | bool false => ['f', 'a', 'l', 's', 'e']
  | natural value => digits value
  | decimal literal => literal.toList
  | string text => quote text
  | array items => '[' :: (printItems items ++ [']'])
  | object fields => '{' :: (printFields fields ++ ['}'])
  | unreadable => ['n', 'u', 'l', 'l']

def printItems : List Json → List Char
  | [] => []
  | item :: rest => print item ++ printRestItems rest

def printRestItems : List Json → List Char
  | [] => []
  | item :: rest => ',' :: (print item ++ printRestItems rest)

def printFields : List (String × Json) → List Char
  | [] => []
  | (name, value) :: rest => quote name ++ ':' :: (print value ++ printRestFields rest)

def printRestFields : List (String × Json) → List Char
  | [] => []
  | (name, value) :: rest =>
      ',' :: (quote name ++ ':' :: (print value ++ printRestFields rest))
end

def toText (json : Json) : String := String.ofList json.print

example : (object [("a", array [natural 10, null]), ("b", string "x\"\n\u0001é")]).print =
    "\x7b\"a\":[10,null],\"b\":\"x\\\"\\n\\u0001é\"\x7d".toList := by decide

end FlowClient.Json
