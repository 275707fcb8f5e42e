import FlowClient.Toml.Scalar
import FlowClient.Toml.Section

/-! Reading TOML documents: lines of headers and of keys with their values. -/

namespace FlowClient.Toml

/-! ## Between values -/

def skipSpace (text : List Char) : List Char := text.dropWhile isSpace

def skipComment? (text : List Char) : Option (List Char) :=
  match text with
  | '#' :: rest =>
      let rest := rest.dropWhile isContent
      if rest.isEmpty || (newline? rest).isSome then some rest else none
  | _ => some text

/-- Pass over blanks, comments and ends of lines, of which there are at most
`fuel`. -/
def skipLines? : Nat → List Char → Option (List Char)
  | 0, text => some text
  | fuel + 1, text =>
      match skipComment? (skipSpace text) with
      | none => none
      | some rest =>
          match newline? rest with
          | some rest => skipLines? fuel rest
          | none => some rest

def endOfLine? (text : List Char) : Option (List Char) :=
  match skipComment? (skipSpace text) with
  | none => none
  | some [] => some []
  | some rest => newline? rest

/-! ## Keys -/

def isBareKey (char : Char) : Bool := char.isAlphanum || char = '_' || char = '-'

def simpleKey? (text : List Char) : Option (String × List Char) :=
  match text with
  | '"' :: _ => lineString? text
  | '\'' :: _ => lineString? text
  | _ =>
      match text.takeWhile isBareKey with
      | [] => none
      | name => some (String.ofList name, text.drop name.length)

/-- A key of at most so many parts: the names that lead to it, its own name, and the
rest. Blanks may stand around the dots. -/
def keyWithin? : Nat → List Char → Option (List String × String × List Char)
  | 0, _ => none
  | parts + 1, text => do
      let (name, rest) ← simpleKey? (skipSpace text)
      match skipSpace rest with
      | '.' :: rest => do
          let (path, last, rest) ← keyWithin? parts rest
          some (name :: path, last, rest)
      | rest => some ([], name, rest)

/-- How many parts a key may have. -/
def partLimit : Nat := 80

def key? (text : List Char) : Option (List String × String × List Char) :=
  keyWithin? partLimit text

/-! ## Values -/

/-- How many arrays and tables between braces may stand one inside the other. -/
def nestingLimit : Nat := 80

mutual
/-- The value at the front of a text, nested at most so deep. Fuel of twice the length
of the text and one more is enough. -/
def value? : Nat → Nat → List Char → Option (Toml × List Char)
  | 0, _, _ => none
  | fuel + 1, nesting, text =>
      match text, nesting with
      | '"' :: _, _ => (string? text).map fun (content, rest) => (.string content, rest)
      | '\'' :: _, _ => (string? text).map fun (content, rest) => (.string content, rest)
      | '[' :: _, 0 => none
      | '{' :: _, 0 => none
      | '[' :: rest, nesting + 1 =>
          (items? fuel nesting rest).map fun (items, rest) => (.array items, rest)
      | '{' :: rest, nesting + 1 =>
          (entries? fuel nesting {} rest).map fun (entries, rest) => (entries.toToml, rest)
      | _, _ =>
          let (found, rest) := word text
          (scalarOf? found).map (·, rest)

/-- The items of an array behind its bracket or a comma, to its end. -/
def items? : Nat → Nat → List Char → Option (List Toml × List Char)
  | 0, _, _ => none
  | fuel + 1, nesting, text =>
      match skipLines? fuel text with
      | none => none
      | some (']' :: rest) => some ([], rest)
      | some rest =>
          match value? fuel nesting rest with
          | none => none
          | some (item, rest) =>
              match skipLines? fuel rest with
              | some (']' :: rest) => some ([item], rest)
              | some (',' :: rest) =>
                  (items? fuel nesting rest).map fun (items, rest) => (item :: items, rest)
              | _ => none

/-- The entries of a table between braces, behind the opening one or a comma, to
its end. Lines may end anywhere but within a key. -/
def entries? : Nat → Nat → Section → List Char → Option (Section × List Char)
  | 0, _, _, _ => none
  | fuel + 1, nesting, entries, text =>
      match skipLines? fuel text with
      | none => none
      | some ('}' :: rest) => some (entries, rest)
      | some rest =>
          match entry? fuel nesting entries rest with
          | none => none
          | some (entries, rest) =>
              match skipLines? fuel rest with
              | some ('}' :: rest) => some (entries, rest)
              | some (',' :: rest) => entries? fuel nesting entries rest
              | _ => none

def entry? : Nat → Nat → Section → List Char → Option (Section × List Char)
  | 0, _, _, _ => none
  | fuel + 1, nesting, entries, text => do
      let (path, name, rest) ← key? text
      match skipLines? fuel rest with
      | some ('=' :: rest) => do
          let rest ← skipLines? fuel rest
          let (value, rest) ← value? fuel nesting rest
          let entries ← entries.set? path name value
          some (entries, rest)
      | _ => none
end

/-! ## Documents -/

/-- Read a document line by line. `header` names the table that is open. -/
def lines? : Nat → List String → Section → List Char → Option Section
  | 0, _, _, _ => none
  | fuel + 1, header, root, text =>
      match skipLines? fuel text with
      | none => none
      | some [] => some root
      | some ('[' :: '[' :: rest) => do
          let (path, name, rest) ← key? rest
          match rest with
          | ']' :: ']' :: rest => do
              let root ← root.openElement? path name
              lines? fuel (path ++ [name]) root (← endOfLine? rest)
          | _ => none
      | some ('[' :: rest) => do
          let (path, name, rest) ← key? rest
          match rest with
          | ']' :: rest => do
              let root ← root.openTable? path name
              lines? fuel (path ++ [name]) root (← endOfLine? rest)
          | _ => none
      | some rest => do
          let (path, name, rest) ← key? rest
          match rest with
          | '=' :: rest => do
              let (value, rest) ← value? fuel nestingLimit (skipSpace rest)
              let root ← root.change? false (·.set? path name value) header
              lines? fuel header root (← endOfLine? rest)
          | _ => none

/-- The mark that may stand at the beginning of a text to tell its encoding. -/
def withoutMark (text : List Char) : List Char :=
  match text with
  | char :: rest => if char.toNat = 0xFEFF then rest else text
  | [] => []

def parse? (document : String) : Option Toml :=
  let text := withoutMark document.toList
  (lines? (2 * text.length + 2) [] {} text).map Section.toToml

end FlowClient.Toml
