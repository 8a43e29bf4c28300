import ClusterLink.Document.Reader
/-!
Texts in quotes. A text stands between double quotes, with escapes, or between single quotes, as it
is; a mark written three times lets it run over several lines. A text is written in the first form
that shows it as it is, tabs apart, or else between double quotes.
-/
namespace ClusterLink.Document.Quoted

/-- The letters of escapes and what they stand for. -/
def escapes : List (Char × Char) :=
  [('b', '\x08'), ('t', '\t'), ('n', '\n'), ('f', '\x0c'), ('r', '\r'), ('"', '"'), ('\\', '\\')]

def hexValue? (c : Char) : Option Nat :=
  if '0' ≤ c ∧ c ≤ '9' then some (c.toNat - 48)
  else if 'a' ≤ c ∧ c ≤ 'f' then some (c.toNat - 87)
  else if 'A' ≤ c ∧ c ≤ 'F' then some (c.toNat - 55)
  else none

/-- A character by the hexadecimal digits of its code point. -/
def codePoint (width : Nat) : Reader Char := fun input => do
  let digits ← (input.take width).mapM hexValue?
  let code := digits.foldl (fun n digit => n * 16 + digit) 0
  if digits.length = width ∧ code.isValidChar then some (Char.ofNat code, input.drop width)
  else none

/-- The character of an escape behind its backslash. -/
def escaped : Reader Char
  | 'u' :: rest => codePoint 4 rest
  | 'U' :: rest => codePoint 8 rest
  | c :: rest => (escapes.lookup c).map (·, rest)
  | [] => none

def printable : Reader Char
  | c :: rest => if isPrintable c then some (c, rest) else none
  | [] => none

/-- A character of a text that stays on its line. -/
def basicPart : Reader Char
  | '\\' :: rest => escaped rest
  | input => printable input

/-- A character of a text over several lines. Every line end is read as a line feed. -/
def literalLinePart : Reader Char := fun input =>
  match afterNewline? input with
  | some rest => some ('\n', rest)
  | none => printable input

/-- A piece of a text over several lines. A backslash at the end of a line takes the line end and
the space behind it away. -/
def basicLinePart : Reader (List Char)
  | '\\' :: rest =>
    match afterNewline? (skipBlanks rest) with
    | some rest => some ([], skipSpace rest)
    | none => (escaped rest).map fun (c, rest) => ([c], rest)
  | input => (literalLinePart input).map fun (c, rest) => ([c], rest)

/-- The run of marks that ends a text over several lines. Up to two marks before the last three
still belong to the text. -/
def closing (quote : Char) : Reader (List Char) := fun input =>
  let run := (input.takeWhile (· = quote)).length
  if run < 3 then none
  else
    let extra := min (run - 3) 2
    some (List.replicate extra quote, input.drop (extra + 3))

def skipNewline (input : List Char) : List Char := (afterNewline? input).getD input

/-- A text that stays on its line. -/
def readLine : Reader (List Char)
  | '"' :: rest =>
    (Reader.upTo (Reader.mark '"') basicPart rest.length rest).map fun ((s, _), rest) => (s, rest)
  | '\'' :: rest =>
    (Reader.upTo (Reader.mark '\'') printable rest.length rest).map fun ((s, _), rest) => (s, rest)
  | _ => none

/-- A text in any form. -/
def read : Reader (List Char)
  | '"' :: '"' :: '"' :: rest =>
    (Reader.upTo (closing '"') basicLinePart rest.length (skipNewline rest)).map
      fun ((s, marks), rest) => (s.flatten ++ marks, rest)
  | '\'' :: '\'' :: '\'' :: rest =>
    (Reader.upTo (closing '\'') literalLinePart rest.length (skipNewline rest)).map
      fun ((s, marks), rest) => (s ++ marks, rest)
  | input => readLine input

inductive Form where
  | basic
  | literal
  | basicLines
  | literalLines
  deriving DecidableEq, Repr

/-- Whether a character stands three times in a row. -/
def isTripled (c : Char) : List Char → Bool
  | a :: b :: d :: rest => (a = c && b = c && d = c) || isTripled c (b :: d :: rest)
  | _ => false

/-- Whether every character but the line feed can stand in a text as it is. -/
def isPlain (s : List Char) : Bool := s.all fun c => c = '\n' || isPrintable c

/-- The form in which a text is written. -/
def form (s : List Char) : Form :=
  let plain := isPlain s
  let backslash := s.contains '\\'
  let newline := s.contains '\n'
  if plain && !backslash && !s.contains '"' && !newline then .basic
  else if plain && !s.contains '\'' && !newline then .literal
  else if plain && !backslash && !isTripled '"' s then .basicLines
  else if plain && !isTripled '\'' s then .literalLines
  else if newline then .basicLines
  else .basic

def hexDigit (n : Nat) : Char := Char.ofNat (if n < 10 then 48 + n else 55 + n)

/-- A character between double quotes. -/
def escape (c : Char) : List Char :=
  match escapes.find? (·.2 = c) with
  | some (letter, _) => ['\\', letter]
  | none =>
    if isPrintable c then [c]
    else
      let n := c.toNat
      ['\\', 'u', hexDigit (n / 4096 % 16), hexDigit (n / 256 % 16), hexDigit (n / 16 % 16),
        hexDigit (n % 16)]

/-- The characters of a text over several lines, where `run` double quotes stand just before. A
third one in a row is escaped. -/
def escapeLines : (run : Nat) → List Char → List Char
  | _, [] => []
  | run, '"' :: rest =>
    if run < 2 then '"' :: escapeLines (run + 1) rest else '\\' :: '"' :: escapeLines 0 rest
  | _, '\n' :: rest => '\n' :: escapeLines 0 rest
  | _, c :: rest => escape c ++ escapeLines 0 rest

/-- The line break that goes before a text over several lines. -/
def opening (s : List Char) : List Char := if s.contains '\n' then ['\n'] else []

def write (s : List Char) : List Char :=
  let basic := ['"', '"', '"']
  let literal := ['\'', '\'', '\'']
  match form s with
  | .basic => '"' :: s.flatMap escape ++ ['"']
  | .literal => '\'' :: s ++ ['\'']
  | .basicLines => basic ++ opening s ++ escapeLines 0 s ++ basic
  | .literalLines => literal ++ opening s ++ s ++ literal

end ClusterLink.Document.Quoted
