import FlowClient.Json

/-! Numbers in JSON text, and which of them are too large.

A number has to come out as a finite double in a certain way of computing it: as
many digits as fit into 64 bits are rounded to a double, a power of ten is, and
the two are multiplied. So a number right at the end of the doubles may be taken
in one writing and refused in another. -/

namespace FlowClient.Json

/-! ## Digits -/

def spanDigits (text : List Char) : List Char × List Char :=
  (text.takeWhile Char.isDigit, text.dropWhile Char.isDigit)

def natOfDigits (digits : List Char) : Nat := Nat.ofDigitChars 10 digits 0

/-- Add digits to the end of a number for as long as it fits into 64 bits: the
number that comes of it, and the digits that are left. -/
def gather (found : Nat) : List Char → Nat × List Char
  | [] => (found, [])
  | digit :: rest =>
      let longer := found * 10 + (digit.toNat - 48)
      if longer < UInt64.size then gather longer rest else (found, digit :: rest)

/-! ## Doubles -/

/-- The nearest number with at most 53 binary digits in front of zeros. Of two
that are as near, it is the one whose last digit is even. -/
def nearestDouble (value : Nat) : Nat :=
  let place := 1 <<< (value.log2 - 52)
  let kept := value / place
  let rest := value % place
  if place < 2 * rest || (2 * rest = place && kept % 2 = 1) then (kept + 1) * place
  else kept * place

/-- The least number that rounds to none of the finite doubles. -/
def doublesEnd : Nat := (1 <<< 1024) - (1 <<< 970)

/-- Whether `significand * 10 ^ exponent` comes out as a finite double, if both
factors are rounded first. -/
def isWithinDoubles (significand : Nat) (exponent : Int) : Bool :=
  if significand = 0 || exponent < 0 then true
  else if 308 < exponent then false
  else nearestDouble significand * nearestDouble (Nat.pow 10 exponent.toNat) < doublesEnd

/-! ## Parts -/

def wholePart? (text : List Char) : Option (List Char × List Char) :=
  match text with
  | '0' :: rest => some (['0'], rest)
  | _ =>
      match spanDigits text with
      | ([], _) => none
      | found => some found

def fraction? (text : List Char) : Option (List Char × List Char) :=
  match text with
  | '.' :: rest =>
      match spanDigits rest with
      | ([], _) => none
      | found => some found
  | _ => some ([], text)

def exponent? (text : List Char) : Option (Option Int × List Char) :=
  match text with
  | mark :: rest =>
      if mark = 'e' || mark = 'E' then
        let (negative, rest) := match rest with
          | '-' :: rest => (true, rest)
          | '+' :: rest => (false, rest)
          | _ => (false, rest)
        match spanDigits rest with
        | ([], _) => none
        | (found, rest) =>
            let value : Int := natOfDigits found
            some (some (if negative then -value else value), rest)
      else some (none, text)
  | [] => some (none, text)

/-- Whether a number with these parts comes out as a finite double. Digits of the
fraction may be gathered even if not all of the whole part were; those of the
whole part that are left count only by their places. -/
def isFinite (whole fraction : List Char) (exponent : Int) : Bool :=
  let (found, left) := gather 0 whole
  let (significand, unused) := gather found fraction
  let places : Int := fraction.length - unused.length
  isWithinDoubles significand (exponent + left.length - places)

/-! ## Numbers -/

def parseNumber (text : List Char) : Option (Json × List Char) := do
  let (negative, unsigned) := match text with
    | '-' :: rest => (true, rest)
    | _ => (false, text)
  let (whole, rest) ← wholePart? unsigned
  let (fraction, rest) ← fraction? rest
  let (exponent, rest) ← exponent? rest
  if !isFinite whole fraction (exponent.getD 0) then some (.unreadable, rest)
  else if !negative && fraction.isEmpty && exponent.isNone then
    some (.natural (natOfDigits whole), rest)
  else
    some (.decimal (String.ofList (text.take (text.length - rest.length))), rest)

/-- Just short of the end of the doubles, on the two sides of a rounding. -/
example : (isFinite ['1'] "7976931348623158".toList 308,
    isFinite "179769313486231599".toList [] 291) = (false, true) := by
  decide +kernel

end FlowClient.Json
