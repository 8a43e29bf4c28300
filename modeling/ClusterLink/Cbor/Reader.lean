import ClusterLink.Cbor.FloatWidth
import ClusterLink.Cbor.Head
import ClusterLink.Cbor.Item
/-!
Reading one item from the front of an octet string. Heads may be longer than needed and lengths
may be left open. Lists, maps and tags nest at most `nestingLimit` deep.
-/
namespace ClusterLink.Cbor

abbrev Reader (α : Type) := Octets → Option (α × Octets)

/-- How many lists, maps and tags may enclose one another. -/
def nestingLimit : Nat := 256

namespace Reader

def pair {α β : Type} (first : Reader α) (second : Reader β) : Reader (α × β) := fun s => do
  let (a, s) ← first s
  let (b, s) ← second s
  some ((a, b), s)

def times {α : Type} (reader : Reader α) : Nat → Reader (List α)
  | 0, s => some ([], s)
  | n + 1, s => do
    let (a, s) ← reader s
    let (more, s) ← times reader n s
    some (a :: more, s)

/-- Values up to a break octet, at most `limit - 1` of them. -/
def upToBreak {α : Type} (reader : Reader α) : (limit : Nat) → Reader (List α)
  | 0, _ => none
  | limit + 1, s =>
    if s.head? = some Head.breakOctet then some ([], s.tail)
    else do
      let (a, s) ← reader s
      let (more, s) ← upToBreak reader limit s
      some (a :: more, s)

/-- As many values as the argument of a head says. No value is empty, so that the length of the
input bounds their number. -/
def counted {α : Type} (reader : Reader α) : Argument → Reader (List α)
  | .sized _ n, s => times reader n s
  | .streamed, s => upToBreak reader s.length s

/-- The parts of a streamed string up to the break that closes it. A part is a string of the same
major type with a stated length, or again a stream, `depth` of which are open inside this one. -/
def parts (major : Nat) : (limit depth : Nat) → Reader (List Octets)
  | 0, _, _ => none
  | limit + 1, depth, s => do
    let (head, s) ← Head.read? s
    match head.argument with
    | .streamed =>
      if head.major = major then parts major limit (depth + 1) s
      else if head.major = 7 then
        if depth = 0 then some ([], s) else parts major limit (depth - 1) s
      else none
    | .sized _ n =>
      if head.major = major then do
        let (part, s) ← Octets.split? n s
        let (more, s) ← parts major limit depth s
        some (part :: more, s)
      else none

/-- The parts of a string whose head has been read. -/
def string (major : Nat) : Argument → Reader (List Octets)
  | .sized _ n, s => (Octets.split? n s).map fun (part, s) => ([part], s)
  | .streamed, s => parts major s.length 0 s

/-- A text is read part by part: no character may be divided between two parts. -/
def joinText (parts : List Octets) : Option String :=
  (parts.mapM Octets.text?).map String.join

end Reader

namespace Item

/-- Simple values and floats. An undefined value reads as null. -/
def simple? : Argument → Option Item
  | .sized 2 bits => some (.float (UInt64.ofNat (FloatWidth.half.widen bits)))
  | .sized 4 bits => some (.float (UInt64.ofNat (FloatWidth.single.widen bits)))
  | .sized 8 bits => some (.float (UInt64.ofNat bits))
  | .sized _ 20 => some (.bool false)
  | .sized _ 21 => some (.bool true)
  | .sized _ 22 => some .null
  | .sized _ 23 => some .null
  | _ => none

/-- The integer whose magnitude is given by tag 2 or, counted down from `-1`, by tag 3. Beyond the
range of plain integers it keeps its tag over the shortest magnitude. -/
def bigInteger? (number : Nat) (magnitude : Octets) : Option Item :=
  let n := Octets.toNatBE magnitude
  if n < UInt64.size then
    some (if number = 2 then .unsigned (UInt64.ofNat n) else .negative (UInt64.ofNat n))
  else if number = 3 ∧ 1 <<< 127 ≤ n then none
  else some (.tag (UInt64.ofNat number) (.bytes (magnitude.dropWhile (· = 0))))

/-- The magnitude that follows tag 2 or 3: a string of stated length, at most 16 octets. -/
def magnitude? (number : Nat) (s : Octets) : Option (Nat × Octets) :=
  if number = 2 ∨ number = 3 then
    match Head.read? s with
    | some (⟨2, .sized _ n⟩, s) => if n ≤ 16 then some (n, s) else none
    | _ => none
  else none

/-- One item, given how to read what it encloses, if it may enclose anything. -/
def readWith (inner : Option (Reader Item)) : Reader Item := fun s => do
  let (head, s) ← Head.read? s
  match head.major, head.argument with
  | 0, .sized _ n => some (.unsigned (UInt64.ofNat n), s)
  | 1, .sized _ n => some (.negative (UInt64.ofNat n), s)
  | 2, argument => do
    let (parts, s) ← Reader.string 2 argument s
    some (.bytes parts.flatten, s)
  | 3, argument => do
    let (parts, s) ← Reader.string 3 argument s
    let text ← Reader.joinText parts
    some (.text text, s)
  | 4, argument => do
    let (items, s) ← Reader.counted (← inner) argument s
    some (.array items, s)
  | 5, argument => do
    let (entries, s) ← Reader.counted (Reader.pair (← inner) (← inner)) argument s
    some (.map entries, s)
  | 6, .sized _ number =>
    match magnitude? number s with
    | some (n, s) => do
      let (magnitude, s) ← Octets.split? n s
      let item ← bigInteger? number magnitude
      some (item, s)
    | none => do
      let (content, s) ← (← inner) s
      some (.tag (UInt64.ofNat number) content, s)
  | 7, argument => (simple? argument).map (·, s)
  | _, _ => none

/-- One item with at most `levels` lists, maps and tags around any part of it. -/
def readNested : (levels : Nat) → Reader Item
  | 0 => readWith none
  | levels + 1 => readWith (some (readNested levels))

def read? : Reader Item := readNested nestingLimit

end Item
end ClusterLink.Cbor
