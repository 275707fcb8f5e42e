import FlowClient.Toml

/-! The four ways to write a string in TOML: with escapes or as it stands, on one
line or on several. -/

namespace FlowClient.Toml

/-! ## Characters -/

def isSpace (char : Char) : Bool := char = ' ' || char = '\t'

/-- Characters that may stand in a string, ends of lines apart. -/
def isContent (char : Char) : Bool :=
  char = '\t' || (32 ≤ char.toNat && char.toNat != 127)

def hexValue? (char : Char) : Option Nat :=
  if '0' ≤ char && char ≤ '9' then some (char.toNat - 48)
  else if 'a' ≤ char && char ≤ 'f' then some (char.toNat - 87)
  else if 'A' ≤ char && char ≤ 'F' then some (char.toNat - 55)
  else none

def scalar? (digits : List Char) : Option Char := do
  let code ← digits.foldlM (fun code digit => (hexValue? digit).map (code * 16 + ·)) 0
  if h : code.isValidChar then some (Char.ofNatAux code h) else none

/-- The character behind a backslash, where it is a single one. -/
def escape? (char : Char) : Option Char :=
  if char = '"' || char = '\\' then some char
  else if char = 'b' then some (Char.ofNat 8)
  else if char = 'f' then some (Char.ofNat 12)
  else if char = 'n' then some '\n'
  else if char = 'r' then some '\r'
  else if char = 't' then some '\t'
  else if char = 'e' then some (Char.ofNat 27)
  else none

def newline? : List Char → Option (List Char)
  | '\n' :: rest => some rest
  | '\r' :: '\n' :: rest => some rest
  | _ => none

/-- Put a character in front of what was read. -/
def ahead (char : Char) (read : List Char × List Char) : List Char × List Char :=
  (char :: read.1, read.2)

/-! ## On one line -/

/-- Behind the opening quote: the characters up to the closing one, and the rest. -/
def basicString : List Char → Option (List Char × List Char)
  | '"' :: rest => some ([], rest)
  | '\\' :: 'x' :: a :: b :: rest => do
      let char ← scalar? [a, b]
      (basicString rest).map (ahead char)
  | '\\' :: 'u' :: a :: b :: c :: d :: rest => do
      let char ← scalar? [a, b, c, d]
      (basicString rest).map (ahead char)
  | '\\' :: 'U' :: a :: b :: c :: d :: e :: f :: g :: h :: rest => do
      let char ← scalar? [a, b, c, d, e, f, g, h]
      (basicString rest).map (ahead char)
  | '\\' :: char :: rest => do
      let char ← escape? char
      (basicString rest).map (ahead char)
  | char :: rest => if isContent char then (basicString rest).map (ahead char) else none
  | [] => none

def literalString : List Char → Option (List Char × List Char)
  | '\'' :: rest => some ([], rest)
  | char :: rest => if isContent char then (literalString rest).map (ahead char) else none
  | [] => none

/-! ## On several lines -/

/-- Behind three closing quotes: up to two more quotes belong to the string. -/
def closing (quote : Char) (rest : List Char) : List Char × List Char :=
  match rest with
  | first :: second :: others =>
      if first = quote then
        if second = quote then ([quote, quote], others) else ([quote], second :: others)
      else ([], rest)
  | [first] => if first = quote then ([quote], []) else ([], rest)
  | [] => ([], [])

/-- Whether the rest of the line is blank, so that a backslash in front of it
joins the lines. -/
def joinsLines (rest : List Char) : Bool := (newline? (rest.dropWhile isSpace)).isSome

/-- Behind three opening quotes. While `joining`, blanks and ends of lines are
passed over. -/
def basicText : Bool → List Char → Option (List Char × List Char)
  | true, ' ' :: rest => basicText true rest
  | true, '\t' :: rest => basicText true rest
  | true, '\n' :: rest => basicText true rest
  | true, '\r' :: '\n' :: rest => basicText true rest
  | _, '"' :: '"' :: '"' :: rest => some (closing '"' rest)
  | _, '\\' :: 'x' :: a :: b :: rest => do
      let char ← scalar? [a, b]
      (basicText false rest).map (ahead char)
  | _, '\\' :: 'u' :: a :: b :: c :: d :: rest => do
      let char ← scalar? [a, b, c, d]
      (basicText false rest).map (ahead char)
  | _, '\\' :: 'U' :: a :: b :: c :: d :: e :: f :: g :: h :: rest => do
      let char ← scalar? [a, b, c, d, e, f, g, h]
      (basicText false rest).map (ahead char)
  | _, '\\' :: char :: rest =>
      if joinsLines (char :: rest) then basicText true (char :: rest)
      else do
        let char ← escape? char
        (basicText false rest).map (ahead char)
  | _, '\r' :: '\n' :: rest => (basicText false rest).map fun read => ahead '\r' (ahead '\n' read)
  | _, char :: rest =>
      if char = '\n' || isContent char then (basicText false rest).map (ahead char) else none
  | _, [] => none

def literalText : List Char → Option (List Char × List Char)
  | '\'' :: '\'' :: '\'' :: rest => some (closing '\'' rest)
  | '\r' :: '\n' :: rest => (literalText rest).map fun read => ahead '\r' (ahead '\n' read)
  | char :: rest =>
      if char = '\n' || isContent char then (literalText rest).map (ahead char) else none
  | [] => none

/-- The end of a line right behind three opening quotes does not belong to the
string. -/
def withoutFirstNewline (text : List Char) : List Char := (newline? text).getD text

/-! ## Any string -/

def string? (text : List Char) : Option (String × List Char) :=
  let read := match text with
    | '"' :: '"' :: '"' :: rest => basicText false (withoutFirstNewline rest)
    | '"' :: rest => basicString rest
    | '\'' :: '\'' :: '\'' :: rest => literalText (withoutFirstNewline rest)
    | '\'' :: rest => literalString rest
    | _ => none
  read.map fun (content, rest) => (String.ofList content, rest)

/-- The string at the front of a text that may stand as a key: one on one line. -/
def lineString? (text : List Char) : Option (String × List Char) :=
  let read := match text with
    | '"' :: rest => basicString rest
    | '\'' :: rest => literalString rest
    | _ => none
  read.map fun (content, rest) => (String.ofList content, rest)

end FlowClient.Toml
