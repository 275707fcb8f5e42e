import FlowClient.Json.Number

/-! Reading JSON text. Nesting is not limited here: how deep a value may be
depends on whether it is read or passed over, and the readers decide that. -/

namespace FlowClient.Json

/-! ## Blanks -/

def isSpace (char : Char) : Bool :=
  char = ' ' || char = '\n' || char = '\r' || char = '\t'

def skipSpace (text : List Char) : List Char := text.dropWhile isSpace

/-! ## Strings -/

/-- One character of a string: given as itself, or by the number of a UTF-16
code unit. -/
inductive StringPart where
  | char (value : Char)
  | unit (code : Nat)
deriving DecidableEq, Repr

def hexValue? (char : Char) : Option Nat :=
  if '0' ≤ char && char ≤ '9' then some (char.toNat - 48)
  else if 'a' ≤ char && char ≤ 'f' then some (char.toNat - 87)
  else if 'A' ≤ char && char ≤ 'F' then some (char.toNat - 55)
  else none

def unit? (first second third fourth : Char) : Option Nat := do
  let first ← hexValue? first
  let second ← hexValue? second
  let third ← hexValue? third
  let fourth ← hexValue? fourth
  some (((first * 16 + second) * 16 + third) * 16 + fourth)

def unescape? (char : Char) : Option Char :=
  if char = '"' || char = '\\' || char = '/' then some char
  else if char = 'b' then some (Char.ofNat 8)
  else if char = 'f' then some (Char.ofNat 12)
  else if char = 'n' then some '\n'
  else if char = 'r' then some '\r'
  else if char = 't' then some '\t'
  else none

/-- Read up to the closing quote. Control characters must be escaped. -/
def scanString : List Char → Option (List StringPart × List Char)
  | [] => none
  | '"' :: rest => some ([], rest)
  | '\\' :: 'u' :: first :: second :: third :: fourth :: rest => do
      let code ← unit? first second third fourth
      let (parts, rest) ← scanString rest
      some (.unit code :: parts, rest)
  | '\\' :: char :: rest => do
      let char ← unescape? char
      let (parts, rest) ← scanString rest
      some (.char char :: parts, rest)
  | char :: rest =>
      if char.toNat < 32 then none
      else do
        let (parts, rest) ← scanString rest
        some (.char char :: parts, rest)

def isHighSurrogate (code : Nat) : Bool := 0xD800 ≤ code && code < 0xDC00

def isLowSurrogate (code : Nat) : Bool := 0xDC00 ≤ code && code < 0xE000

/-- The characters of a string, if every surrogate has its other half. -/
def assemble : List StringPart → Option (List Char)
  | [] => some []
  | .char value :: rest => (assemble rest).map (value :: ·)
  | .unit high :: .unit low :: rest =>
      if isHighSurrogate high then
        if isLowSurrogate low then
          (assemble rest).map
            (Char.ofNat (0x10000 + (high - 0xD800) * 0x400 + (low - 0xDC00)) :: ·)
        else none
      else if isLowSurrogate high then none
      else (assemble (.unit low :: rest)).map (Char.ofNat high :: ·)
  | .unit code :: rest =>
      if isHighSurrogate code || isLowSurrogate code then none
      else (assemble rest).map (Char.ofNat code :: ·)

/-- A string behind its opening quote: its text, unless it names half of a
surrogate pair, and what follows it. -/
def parseString (text : List Char) : Option (Option String × List Char) :=
  (scanString text).map fun (parts, rest) => ((assemble parts).map String.ofList, rest)

/-! ## Values -/

/-- The object with the given fields. A key that names half of a surrogate pair
spoils it. -/
def objectOf (fields : List (Option String × Json)) : Json :=
  match fields.mapM fun (name, value) => name.map (·, value) with
  | some fields => .object fields
  | none => .unreadable

mutual
def parseValue : Nat → List Char → Option (Json × List Char)
  | 0, _ => none
  | fuel + 1, text =>
      match skipSpace text with
      | 'n' :: 'u' :: 'l' :: 'l' :: rest => some (.null, rest)
      | 't' :: 'r' :: 'u' :: 'e' :: rest => some (.bool true, rest)
      | 'f' :: 'a' :: 'l' :: 's' :: 'e' :: rest => some (.bool false, rest)
      | '"' :: rest => (parseString rest).map fun
          | (some text, rest) => (.string text, rest)
          | (none, rest) => (.unreadable, rest)
      | '[' :: rest =>
          match skipSpace rest with
          | ']' :: rest => some (.array [], rest)
          | rest => (parseItems fuel rest).map fun (items, rest) => (.array items, rest)
      | '{' :: rest =>
          match skipSpace rest with
          | '}' :: rest => some (.object [], rest)
          | rest => (parseFields fuel rest).map fun (fields, rest) => (objectOf fields, rest)
      | rest => parseNumber rest

def parseItems : Nat → List Char → Option (List Json × List Char)
  | 0, _ => none
  | fuel + 1, text =>
      match parseValue fuel text with
      | none => none
      | some (item, rest) =>
          match skipSpace rest with
          | ']' :: rest => some ([item], rest)
          | ',' :: rest =>
              (parseItems fuel rest).map fun (items, rest) => (item :: items, rest)
          | _ => none

def parseFields : Nat → List Char → Option (List (Option String × Json) × List Char)
  | 0, _ => none
  | fuel + 1, text =>
      match skipSpace text with
      | '"' :: rest =>
          match parseString rest with
          | none => none
          | some (name, rest) =>
              match skipSpace rest with
              | ':' :: rest =>
                  match parseValue fuel rest with
                  | none => none
                  | some (value, rest) =>
                      match skipSpace rest with
                      | '}' :: rest => some ([(name, value)], rest)
                      | ',' :: rest =>
                          (parseFields fuel rest).map fun (fields, rest) =>
                            ((name, value) :: fields, rest)
                      | _ => none
              | _ => none
      | _ => none
end

def parse? (text : String) : Option Json :=
  let chars := text.toList
  match parseValue (2 * chars.length + 2) chars with
  | none => none
  | some (json, rest) => if (skipSpace rest).isEmpty then some json else none

end FlowClient.Json
