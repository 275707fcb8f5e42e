import FlowClient.Text.Pieces
import FlowClient.Toml.Strings

/-! The TOML values that are written as one word: booleans, numbers and moments.

The form of a word decides what kind of value it is. A word with the form of a whole
number need not have a value: whoever reads such a number fails, and whoever passes
it over does not. -/

namespace FlowClient.Toml

/-! ## Signs and underscores -/

def sign (text : List Char) : Bool × List Char :=
  match text with
  | '-' :: rest => (true, rest)
  | '+' :: rest => (false, rest)
  | _ => (false, text)

/-- Whether the pieces between underscores begin and end with digits, the end of the
last one apart. -/
def piecesFit (isDigit : Char → Bool) : List (List Char) → Bool
  | [] => true
  | piece :: rest =>
      piece.head?.any isDigit && (rest.isEmpty || piece.getLast?.any isDigit) &&
        piecesFit isDigit rest

/-- Whether all underscores in a number stand between digits. Its sign and the mark
that tells its base are not a part of it here. -/
def underscoresFit (isDigit : Char → Bool) (text : List Char) : Bool :=
  !text.contains '_' || piecesFit isDigit (Text.pieces (· == '_') text)

/-! ## Whole numbers -/

def decimalDigit? (char : Char) : Option Nat :=
  if char.isDigit then some (char.toNat - 48) else none

def digitBelow? (base : Nat) (char : Char) : Option Nat :=
  (hexValue? char).filter (· < base)

def valueOf (base : Nat) (digits : List Nat) : Nat :=
  digits.foldl (fun value digit => value * base + digit) 0

/-- The value of one digit or more. -/
def natural? (base : Nat) (text : List Char) : Option Nat := do
  let digits ← text.mapM (digitBelow? base)
  if digits.isEmpty then none else some (valueOf base digits)

def wholeNumber (base : Nat) (isNegative : Bool) (text : List Char) : Toml :=
  match natural? base (text.filter (· != '_')) with
  | some value => .integer (if isNegative then -(value : Int) else value)
  | none => .unreadable

def isHexDigit (char : Char) : Bool := (hexValue? char).isSome

/-- A whole number to a base, behind the mark that tells the base. Nothing but digits
to the base stands there, and no sign; there need not be any. -/
def based? (base : Nat) (text : List Char) : Option Toml :=
  let isDigit (char : Char) : Bool := (digitBelow? base char).isSome
  if (text.all fun char => isDigit char || char = '_') && underscoresFit isDigit text then
    some (wholeNumber base false text)
  else none

def baseOf? (mark : Char) : Option Nat :=
  if mark = 'x' then some 16
  else if mark = 'o' then some 8
  else if mark = 'b' then some 2
  else none

/-! ## Other numbers -/

def isExponentMark (char : Char) : Bool := char = 'e' || char = 'E'

/-- Whether digits, with underscores anywhere, write a number; only a fraction or an
exponent may have a zero in front of other digits. -/
def isDigits (allowsZeros : Bool) (text : List Char) : Bool :=
  let digits := text.filter (· != '_')
  !digits.isEmpty && digits.all Char.isDigit &&
    (allowsZeros || digits.length = 1 || text.head? != some '0')

/-- Whether a text without a sign is a number with a fraction or an exponent,
underscores apart. -/
def isFloat (text : List Char) : Bool :=
  let mantissa := text.takeWhile (!isExponentMark ·)
  let isMantissa := match Text.pieces (· == '.') mantissa with
    | [whole] => isDigits false whole
    | [whole, fraction] => isDigits false whole && isDigits true fraction
    | _ => false
  let isExponent := match text.drop mantissa.length with
    | [] => true
    | _ :: exponent => isDigits true (sign exponent).2
  isMantissa && isExponent

/-! ## Moments -/

def field? (width least most : Nat) (text : List Char) : Option Nat := do
  let digits ← text.mapM decimalDigit?
  let value := valueOf 10 digits
  if digits.length = width && least ≤ value && value ≤ most then some value else none

def isLeapYear (year : Nat) : Bool := year % 4 = 0 && (year % 100 != 0 || year % 400 = 0)

def daysIn (year month : Nat) : Nat :=
  if month = 2 then (if isLeapYear year then 29 else 28)
  else if month = 4 || month = 6 || month = 9 || month = 11 then 30
  else 31

def isDate (text : List Char) : Bool :=
  match Text.pieces (· == '-') text with
  | [year, month, day] =>
      match field? 4 0 9999 year, field? 2 1 12 month with
      | some year, some month => (field? 2 1 (daysIn year month) day).isSome
      | _, _ => false
  | _ => false

/-- A fraction of a second as it is written out: to nine digits, and without
zeros at its end. -/
def fraction? (digits : List Char) : Option (List Char) :=
  if digits.isEmpty || !digits.all Char.isDigit then none
  else
    let kept := ((digits.take 9).reverse.dropWhile (· == '0')).reverse
    some (if kept.isEmpty then [] else '.' :: kept)

/-- A second with or without a fraction, as it is written out. -/
def second? (text : List Char) : Option (List Char) :=
  let whole := text.take 2
  if (field? 2 0 60 whole).isNone then none
  else match text.drop 2 with
    | [] => some whole
    | '.' :: digits => (fraction? digits).map (whole ++ ·)
    | _ => none

/-- A time of day as it is written out. Its second may be left out. -/
def time? (text : List Char) : Option (List Char) :=
  let clock (hour minute second : List Char) : Option (List Char) :=
    if (field? 2 0 23 hour).isSome && (field? 2 0 59 minute).isSome then
      some (hour ++ ':' :: (minute ++ ':' :: second))
    else none
  match Text.pieces (· == ':') text with
  | [hour, minute] => clock hour minute ['0', '0']
  | [hour, minute, second] => (second? second).bind (clock hour minute)
  | _ => none

/-- Whether a text is a distance from universal time, in hours and minutes. -/
def isOffset (text : List Char) : Bool :=
  match Text.pieces (· == ':') text with
  | [hours, minutes] => (field? 2 0 23 hours).isSome && (field? 2 0 59 minutes).isSome
  | _ => false

/-- A time of day that may say how far it is from universal time. No distance at
all lies ahead of it. -/
def placedTime? (text : List Char) : Option (List Char) :=
  let isMark (char : Char) : Bool := char = 'Z' || char = 'z' || char = '+' || char = '-'
  let clock := text.takeWhile (!isMark ·)
  let place : Option (List Char) := match text.drop clock.length with
    | [] => some []
    | mark :: offset =>
        if mark = 'Z' || mark = 'z' then (if offset.isEmpty then some ['Z'] else none)
        else if !isOffset offset then none
        else if offset = "00:00".toList then some ('+' :: offset)
        else some (mark :: offset)
  place.bind fun place => (time? clock).map (· ++ place)

def moment? (text : List Char) : Option (List Char) :=
  let date := text.take 10
  if isDate date then
    match text.drop 10 with
    | [] => some date
    | mark :: time =>
        if mark = 'T' || mark = 't' || mark = ' ' then
          (placedTime? time).map fun time => date ++ 'T' :: time
        else none
  else time? text

/-! ## Words -/

/-- Characters that stand in no word. -/
def isWordEnd (char : Char) : Bool :=
  isSpace char || char = '\n' || char = '\r' || char = ',' || char = '[' || char = ']' ||
    char = '{' || char = '}' || char = '#' || char = '='

/-- Whether a word goes on with a text that stands behind blanks. -/
def goesOn (text : List Char) : Bool :=
  text.head?.any fun char => !isWordEnd char && char != '.' && char != '"' && char != '\''

/-- The word at the front of a text, and the rest. Blanks belong to a word if it goes
on behind them, as a date does with a time. -/
def word : List Char → List Char × List Char
  | [] => ([], [])
  | char :: rest =>
      if isWordEnd char && !(isSpace char && goesOn (rest.dropWhile isSpace)) then
        ([], char :: rest)
      else ahead char (word rest)

/-- The value of a word that begins with a digit or an underscore if its sign is
left out. Behind an underscore next to hexadecimal digits a whole number may hold
anything, and then has no value. -/
def decimalOf? (word : List Char) : Option Toml :=
  let (isNegative, unsigned) := sign word
  let rest := unsigned.dropWhile Char.isDigit
  let number : Option Toml :=
    if unsigned.head? != some '0' && underscoresFit isHexDigit unsigned then
      some (wholeNumber 10 isNegative unsigned)
    else none
  match rest with
  | [] => number
  | mark :: _ =>
      if mark = '-' || mark = ':' then
        (moment? word).map fun text => .moment (String.ofList text)
      else if rest.contains ' ' then none
      else if rest.any fun char => char = '.' || isExponentMark char then
        if isFloat unsigned && underscoresFit Char.isDigit unsigned then
          some (.float (String.ofList word))
        else none
      else if mark = '_' then number
      else none

def scalarOf? (word : List Char) : Option Toml :=
  let unsigned := (sign word).2
  if word = "true".toList then some (.boolean true)
  else if word = "false".toList then some (.boolean false)
  else if unsigned = "inf".toList || unsigned = "nan".toList then
    some (.float (String.ofList word))
  else match unsigned with
    | ['0'] => some (.integer 0)
    | '0' :: mark :: digits =>
        match baseOf? mark with
        | some base => if unsigned = word then based? base digits else none
        | none => decimalOf? word
    | first :: _ => if first.isDigit || first = '_' then decimalOf? word else none
    | [] => none

/-- Whole numbers, with a value and with the form of one only. -/
example : ["1_000", "0b11", "+7", "-2", "0x1_a", "0x", "1_a"].map
    (fun text => (scalarOf? text.toList).map fun
      | .integer value => some value
      | _ => none) =
    [some (some 1000), some (some 3), some (some 7), some (some (-2)), some (some 26),
      some none, some none] := by
  decide +kernel

/-- No numbers. -/
example : ["01", "1__0", "1_z", "+_1", "0x+1", "0b2", "+0x1"].all
    fun text => (scalarOf? text.toList).isNone := by
  decide +kernel

example : (isFloat "1e06".toList, isFloat "1.".toList, isFloat "0.5".toList) =
    (true, false, true) := by
  decide

end FlowClient.Toml
