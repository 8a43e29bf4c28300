import ClusterLink.Document.Basic
import ClusterLink.Document.Quoted
import ClusterLink.Document.Scalar
/-!
Reading a settings document. Every line is empty, a heading or an assignment; a value may go on over
further lines inside an array or a text.
-/
namespace ClusterLink.Document

/-- How many arrays and inline tables may enclose one another, and how many parts a key may have. -/
def depthLimit : Nat := 79

def isKeyChar (c : Char) : Bool := c.isAlphanum || c = '_' || c = '-'

def keyPart : Reader String := fun input =>
  match Quoted.readLine input with
  | some (name, rest) => some (String.ofList name, rest)
  | none =>
    let name := input.takeWhile isKeyChar
    if name.isEmpty then none else some (String.ofList name, input.dropWhile isKeyChar)

/-- The parts of a dotted key, the last one apart. -/
def keyWithin : (limit : Nat) → Reader (List String × String)
  | 0, _ => none
  | limit + 1, input => do
    let (name, rest) ← keyPart (skipBlanks input)
    match skipBlanks rest with
    | '.' :: rest => do
      let ((path, key), rest) ← keyWithin limit rest
      some ((name :: path, key), rest)
    | rest => some (([], name), rest)

def key : Reader (List String × String) := keyWithin depthLimit

def assignment (value : Reader Value) : Reader Assignment := fun input => do
  let ((path, key), rest) ← key input
  let (_, rest) ← Reader.mark '=' rest
  let (value, rest) ← value (skipBlanks rest)
  some (⟨path, key, value⟩, rest)

/-- The elements of an array up to its closing bracket. A comma may follow the last one. -/
def elements (value : Reader Value) : (limit : Nat) → Reader (List Value)
  | 0, _ => none
  | limit + 1, input =>
    match skipTrivia false input with
    | ']' :: rest => some ([], rest)
    | input => do
      let (first, rest) ← value input
      match skipTrivia false rest with
      | ']' :: rest => some ([first], rest)
      | ',' :: rest => do
        let (more, rest) ← elements value limit rest
        some (first :: more, rest)
      | _ => none

/-- The assignments of an inline table up to its closing brace, of which there is at least one. -/
def members (value : Reader Value) : (limit : Nat) → Reader (List Assignment)
  | 0, _ => none
  | limit + 1, input => do
    let (first, rest) ← assignment value input
    match skipBlanks rest with
    | '\x7d' :: rest => some ([first], rest)
    | ',' :: rest => do
      let (more, rest) ← members value limit rest
      some (first :: more, rest)
    | _ => none

def inlineTable (value : Reader Value) : Reader Value := fun input => do
  let (body, rest) ← match skipBlanks input with
    | '\x7d' :: rest => some ([], rest)
    | input => members value input.length input
  let entries ← Entries.assignAll [] body
  some (.table .inline entries, rest)

/-- A value that encloses no other. -/
def leaf : Reader Value := fun input =>
  if input.head? = some '"' ∨ input.head? = some '\'' then
    (Quoted.read input).map fun (s, rest) => (.text (String.ofList s), rest)
  else Scalar.read input

/-- A value with at most `levels` arrays and inline tables around any part of it. -/
def value : (levels : Nat) → Reader Value
  | 0, input => leaf input
  | levels + 1, input =>
    match input with
    | '[' :: rest =>
      (elements (value levels) rest.length rest).map fun (elements, rest) =>
        (.array elements, rest)
    | '\x7b' :: rest => inlineTable (value levels) rest
    | input => leaf input

inductive Line where
  | heading (heading : Heading) (path : List String) (key : String)
  | assignment (assignment : Assignment)

def heading : Reader Line
  | '[' :: '[' :: rest => do
    let ((path, key), rest) ← key rest
    let (_, rest) ← Reader.mark ']' rest
    let (_, rest) ← Reader.mark ']' rest
    some (.heading .element path key, rest)
  | '[' :: rest => do
    let ((path, key), rest) ← key rest
    let (_, rest) ← Reader.mark ']' rest
    some (.heading .table path key, rest)
  | _ => none

/-- What a line says, if it says anything. -/
def line : Reader (Option Line) := fun input =>
  match afterLine? input with
  | some rest => some (none, rest)
  | none => do
    let input := skipBlanks input
    let (content, rest) ←
      if input.head? = some '[' then heading input
      else (assignment (value depthLimit) input).map fun (a, rest) => (.assignment a, rest)
    let rest ← afterLine? rest
    some (some content, rest)

def lines : (limit : Nat) → List Char → Option (List Line)
  | _, [] => some []
  | 0, _ => none
  | limit + 1, input => do
    let (content, rest) ← line input
    let more ← lines limit rest
    some (content.toList ++ more)

/-- Gathers lines under the headings that they follow. -/
def ofLines : List Line → Document
  | [] => ⟨[], []⟩
  | .assignment a :: rest =>
    let document := ofLines rest
    { document with preamble := a :: document.preamble }
  | .heading heading path key :: rest =>
    let document := ofLines rest
    ⟨[], ⟨heading, path, key, document.preamble⟩ :: document.sections⟩

/-- Reads a document. A byte order mark may stand before it. -/
def parse? (text : String) : Option Document :=
  let input := match text.toList with
    | '\ufeff' :: rest => rest
    | input => input
  (lines input.length input).map ofLines

end ClusterLink.Document
