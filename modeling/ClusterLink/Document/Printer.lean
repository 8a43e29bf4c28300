import ClusterLink.Document.Parser
/-!
Writing a settings document: sections with an empty line between them, an assignment on each line,
and arrays of two or more elements on a line for each.
-/
namespace ClusterLink.Document

def writeKeyPart (name : String) : List Char :=
  let s := name.toList
  if s.isEmpty || !s.all isKeyChar then Quoted.write s else s

def writeKey (path : List String) (key : String) : List Char :=
  path.foldr (fun name rest => writeKeyPart name ++ '.' :: rest) (writeKeyPart key)

/-- Elements on lines of their own, each with a comma. -/
def writeElements : List (List Char) → List Char
  | [] => ['[', ']']
  | [element] => '[' :: element ++ [']']
  | elements =>
    "[\n".toList ++ elements.flatMap (fun e => "    ".toList ++ e ++ ",\n".toList) ++ [']']

/-- Members on one line. -/
def writeMembers : List (List Char) → List Char
  | [] => "\x7b\x7d".toList
  | members => "\x7b ".toList ++ ", ".toList.intercalate members ++ " \x7d".toList

namespace Value

mutual

def write : Value → List Char
  | .text value => Quoted.write value.toList
  | .integer value => (toString value).toList
  | .boolean value => (if value then "true" else "false").toList
  | .float lexeme => lexeme.toList
  | .moment lexeme => lexeme.toList
  | .array elements => writeElements (writeAll elements)
  | .table _ entries => writeMembers (writeEntries entries)
  | .tables elements => writeElements (writeTables elements)

def writeAll : List Value → List (List Char)
  | [] => []
  | value :: rest => write value :: writeAll rest

def writeEntries : List (String × Value) → List (List Char)
  | [] => []
  | (key, value) :: rest =>
    (writeKeyPart key ++ " = ".toList ++ write value) :: writeEntries rest

def writeTables : List (List (String × Value)) → List (List Char)
  | [] => []
  | entries :: rest => writeMembers (writeEntries entries) :: writeTables rest

end

end Value

def Assignment.write (a : Assignment) : List Char :=
  writeKey a.path a.key ++ " = ".toList ++ a.value.write ++ ['\n']

def writeBody (body : List Assignment) : List Char := body.flatMap Assignment.write

def Section.write (part : Section) : List Char :=
  let name := writeKey part.path part.key
  let heading := match part.heading with
    | .table => '[' :: name ++ [']']
    | .element => "[[".toList ++ name ++ "]]".toList
  heading ++ '\n' :: writeBody part.body

def render (document : Document) : String :=
  let preamble := if document.preamble.isEmpty then [] else [writeBody document.preamble]
  String.ofList (['\n'].intercalate (preamble ++ document.sections.map Section.write))

end ClusterLink.Document
