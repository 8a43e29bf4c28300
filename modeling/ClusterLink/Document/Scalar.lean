import ClusterLink.Document.Reader
import ClusterLink.Document.Value
/-!
Values without quotes or brackets: truth values, numbers and moments. The characters that such a
value can hold are taken together and then read as a whole.
-/
namespace ClusterLink.Document.Scalar

/-- Whether a character can stand in a bare word: those of names, signs, points and colons. -/
def isWordChar (c : Char) : Bool :=
  c.isAlphanum || c = '_' || c = '-' || c = '+' || c = '.' || c = ':'

/-- Digits, between any two of which one underscore may stand. -/
def digits? (isDigit : Char → Bool) : List Char → Option (List Char)
  | [] => none
  | [c] => if isDigit c then some [c] else none
  | c :: '_' :: rest => if isDigit c then (digits? isDigit rest).map (c :: ·) else none
  | c :: rest => if isDigit c then (digits? isDigit rest).map (c :: ·) else none

def digitValue (c : Char) : Nat :=
  if c ≤ '9' then c.toNat - 48 else if c ≤ 'F' then c.toNat - 55 else c.toNat - 87

def ofDigits (base : Nat) (digits : List Char) : Nat :=
  digits.foldl (fun n c => n * base + digitValue c) 0

def isBinary (c : Char) : Bool := c = '0' || c = '1'
def isOctal (c : Char) : Bool := '0' ≤ c && c ≤ '7'
def isHexadecimal (c : Char) : Bool :=
  c.isDigit || ('a' ≤ c && c ≤ 'f') || ('A' ≤ c && c ≤ 'F')

/-- A sign, if there is one, and what follows it. -/
def signed : List Char → Bool × List Char
  | '-' :: rest => (true, rest)
  | '+' :: rest => (false, rest)
  | word => (false, word)

/-- Decimal digits with no zero before others. -/
def whole? (word : List Char) : Option (List Char) := do
  let digits ← digits? Char.isDigit word
  if digits.head? = some '0' ∧ digits.length ≠ 1 then none else some digits

/-- Integers take 64 bits. -/
def fits (n : Int) : Bool := Int64.minValue.toInt ≤ n && n ≤ Int64.maxValue.toInt

def magnitude? : List Char → Option Nat
  | '0' :: 'x' :: rest => (digits? isHexadecimal rest).map (ofDigits 16)
  | '0' :: 'o' :: rest => (digits? isOctal rest).map (ofDigits 8)
  | '0' :: 'b' :: rest => (digits? isBinary rest).map (ofDigits 2)
  | word => (whole? word).map (ofDigits 10)

/-- An integer. Only decimal ones have a sign. -/
def integer? (word : List Char) : Option Int := do
  let (negative, rest) := signed word
  let n ← if rest.length = word.length then magnitude? word else (whole? rest).map (ofDigits 10)
  let n : Int := if negative then -n else n
  if fits n then some n else none

/-- Whether `n * 10 ^ exponent` rounds to a finite binary64: it stays below the midpoint between
the largest one and the next power of two. -/
def isFinite (n : Nat) (exponent : Int) : Bool :=
  let size : Int := (Nat.toDigits 10 n).length + exponent
  n = 0 || size < 300 ||
    (size < 320 &&
      decide (n * Nat.pow 10 exponent.toNat <
        (1 <<< 1024 - 1 <<< 970) * Nat.pow 10 (-exponent).toNat))

def exponent? (word : List Char) : Option Int :=
  let (negative, rest) := signed word
  (digits? Char.isDigit rest).map fun digits =>
    if negative then -(ofDigits 10 digits : Int) else ofDigits 10 digits

/-- The parts of a float: its digits, how many of them are behind the point, and its exponent. -/
def parts? (word : List Char) : Option (List Char × Nat × Int) := do
  let isExponent (c : Char) : Bool := c = 'e' || c = 'E'
  let whole ← whole? (word.takeWhile fun c => c ≠ '.' && !isExponent c)
  match word.dropWhile fun c => c ≠ '.' && !isExponent c with
  | '.' :: rest =>
    let fraction ← digits? Char.isDigit (rest.takeWhile (!isExponent ·))
    match rest.dropWhile (!isExponent ·) with
    | [] => some (whole ++ fraction, fraction.length, 0)
    | _ :: exponent => some (whole ++ fraction, fraction.length, ← exponent? exponent)
  | _ :: exponent => some (whole, 0, ← exponent? exponent)
  | [] => none

/-- Whether a word is a float. One too large for a float is none, unless it is negative. -/
def isFloat (word : List Char) : Bool :=
  let (negative, rest) := signed word
  rest = "inf".toList || rest = "nan".toList ||
    match parts? rest with
    | some (digits, places, exponent) =>
      negative || isFinite (ofDigits 10 digits) (exponent - places)
    | none => false

/-- A number of exactly two digits, up to a limit. -/
def twoDigits (limit : Nat) : Reader Nat
  | a :: b :: rest =>
    let n := ofDigits 10 [a, b]
    if a.isDigit ∧ b.isDigit ∧ n ≤ limit then some (n, rest) else none
  | _ => none

def daysIn (year month : Nat) : Nat :=
  if month = 2 then
    if year % 4 = 0 ∧ (year % 100 ≠ 0 ∨ year % 400 = 0) then 29 else 28
  else if month = 4 ∨ month = 6 ∨ month = 9 ∨ month = 11 then 30
  else 31

/-- A year, a month and a day of that month. -/
def date : Reader Unit := fun input => do
  let (century, rest) ← twoDigits 99 input
  let (year, rest) ← twoDigits 99 rest
  let (_, rest) ← Reader.mark '-' rest
  let (month, rest) ← twoDigits 12 rest
  let (_, rest) ← Reader.mark '-' rest
  let (day, rest) ← twoDigits (daysIn (century * 100 + year) month) rest
  if month = 0 ∨ day = 0 then none else some ((), rest)

def hoursAndMinutes : Reader Unit := fun input => do
  let (_, rest) ← twoDigits 23 input
  let (_, rest) ← Reader.mark ':' rest
  let (_, rest) ← twoDigits 59 rest
  some ((), rest)

/-- Hours, minutes and seconds, which may have a fraction and be a leap second. -/
def time : Reader Unit := fun input => do
  let (_, rest) ← hoursAndMinutes input
  let (_, rest) ← Reader.mark ':' rest
  let (_, rest) ← twoDigits 60 rest
  match rest with
  | '.' :: fraction =>
    match fraction.dropWhile Char.isDigit with
    | left => if left.length = fraction.length then none else some ((), left)
  | _ => some ((), rest)

/-- Whether the rest of a moment is nothing or its distance from universal time. -/
def isOffset : List Char → Bool
  | [] => true
  | ['Z'] => true
  | ['z'] => true
  | sign :: rest =>
    (sign = '+' || sign = '-') && (hoursAndMinutes rest).any (·.2.isEmpty)

/-- Whether a word is a date, a time, or a date and a time with `T` or a space between them. -/
def isMoment (word : List Char) : Bool :=
  match date word with
  | some ((), []) => true
  | some ((), c :: rest) =>
    (c = 'T' || c = 't' || c = ' ') &&
      match time rest with
      | some ((), offset) => isOffset offset
      | none => false
  | none =>
    match time word with
    | some ((), rest) => rest.isEmpty
    | none => false

/-- The value of a word. -/
def ofWord? (word : List Char) : Option Value :=
  if word = "true".toList then some (.boolean true)
  else if word = "false".toList then some (.boolean false)
  else
    match integer? word with
    | some n => some (.integer n)
    | none =>
      if isFloat word then some (.float (String.ofList word))
      else if isMoment word then some (.moment (String.ofList word))
      else none

/-- Takes a word. A date takes in the word behind one space when that begins with a digit. -/
def word (input : List Char) : List Char × List Char :=
  let first := input.takeWhile isWordChar
  match date first, input.dropWhile isWordChar with
  | some ((), []), ' ' :: c :: rest =>
    if c.isDigit then
      (first ++ ' ' :: (c :: rest).takeWhile isWordChar, (c :: rest).dropWhile isWordChar)
    else (first, ' ' :: c :: rest)
  | _, rest => (first, rest)

def read : Reader Value := fun input =>
  let (word, rest) := word input
  (ofWord? word).map (·, rest)

end ClusterLink.Document.Scalar
