/-!
Reading a settings document from a list of characters: what a reader is, and the blanks, line ends
and comments between the parts of a document.
-/
namespace ClusterLink.Document

abbrev Reader (α : Type) := List Char → Option (α × List Char)

namespace Reader

/-- One character, which has to be the next. -/
def mark (c : Char) : Reader Unit
  | next :: rest => if next = c then some ((), rest) else none
  | [] => none

/-- Parts up to what closes them, at most `limit - 1` of them. -/
def upTo {α β : Type} (close : Reader β) (part : Reader α) : (limit : Nat) → Reader (List α × β)
  | 0, _ => none
  | limit + 1, input =>
    match close input with
    | some (b, rest) => some (([], b), rest)
    | none => do
      let (a, rest) ← part input
      let ((more, b), rest) ← upTo close part limit rest
      some ((a :: more, b), rest)

end Reader

def isBlank (c : Char) : Bool := c = ' ' || c = '\t'

/-- Tabs and everything else that is no control character. -/
def isPrintable (c : Char) : Bool := c = '\t' || (' ' ≤ c && c ≠ '\x7f')

def skipBlanks (input : List Char) : List Char := input.dropWhile isBlank

/-- The rest behind a line feed, or behind a carriage return and a line feed. -/
def afterNewline? : List Char → Option (List Char)
  | '\n' :: rest => some rest
  | '\r' :: '\n' :: rest => some rest
  | _ => none

/-- Skips blanks and line ends. -/
def skipSpace : List Char → List Char
  | '\n' :: rest => skipSpace rest
  | '\r' :: '\n' :: rest => skipSpace rest
  | c :: rest => if isBlank c then skipSpace rest else c :: rest
  | [] => []

/-- Skips blanks, line ends and comments. A comment runs to the end of its line and holds no control
character but tabs: it stops short at one, where nothing can go on. -/
def skipTrivia (inComment : Bool) : List Char → List Char
  | '\n' :: rest => skipTrivia false rest
  | '\r' :: '\n' :: rest => skipTrivia false rest
  | c :: rest =>
    if inComment then if isPrintable c then skipTrivia true rest else c :: rest
    else if isBlank c then skipTrivia false rest
    else if c = '#' then skipTrivia true rest
    else c :: rest
  | [] => []

/-- The rest behind the end of a line, which may hold blanks and a comment. The input ends like a
line. -/
def afterLine? (input : List Char) : Option (List Char) :=
  let left := match skipBlanks input with
    | '#' :: rest => rest.dropWhile isPrintable
    | rest => rest
  match left with
  | [] => some []
  | left => afterNewline? left

end ClusterLink.Document
