/-!
The three binary interchange widths, by their bits. Widening to binary64 keeps every value and
makes a signalling NaN quiet. A binary64 is narrowed only to bits that widen back to it.
-/
namespace ClusterLink.Cbor

/-- The field sizes of a binary interchange format. -/
structure FloatWidth where
  exponentBits : Nat
  fractionBits : Nat
  deriving DecidableEq, Repr

namespace FloatWidth

def half : FloatWidth := ⟨5, 10⟩
def single : FloatWidth := ⟨8, 23⟩

def bias (w : FloatWidth) : Nat := 1 <<< (w.exponentBits - 1) - 1

/-- The binary64 bits of the number that `bits` stands for. -/
def widen (w : FloatWidth) (bits : Nat) : Nat :=
  let fraction := bits % 1 <<< w.fractionBits
  let exponent := bits >>> w.fractionBits % 1 <<< w.exponentBits
  let sign := (bits >>> (w.fractionBits + w.exponentBits) % 2) <<< 63
  let shifted := fraction <<< (52 - w.fractionBits)
  if exponent + 1 = 1 <<< w.exponentBits then
    if fraction = 0 then sign + 2047 <<< 52
    else sign + 2047 <<< 52 + (shifted ||| 1 <<< 51)
  else if exponent = 0 then
    if fraction = 0 then sign
    else
      let top := fraction.log2
      sign + (top + 1024 - w.bias - w.fractionBits) <<< 52 +
        (fraction - 1 <<< top) <<< (52 - top)
  else sign + (exponent + 1023 - w.bias) <<< 52 + shifted

/-- The narrow bits that keep the leading digits of a binary64. -/
def truncate (w : FloatWidth) (bits : Nat) : Nat :=
  let fraction := bits % 1 <<< 52
  let exponent := bits >>> 52 % 2048
  let sign := bits >>> 63 <<< (w.fractionBits + w.exponentBits)
  let shifted := fraction >>> (52 - w.fractionBits)
  if exponent = 2047 then sign + (1 <<< w.exponentBits - 1) <<< w.fractionBits + shifted
  else if 1023 < exponent + w.bias then
    sign + ((exponent + w.bias - 1023) % 1 <<< w.exponentBits) <<< w.fractionBits + shifted
  else sign + (1 <<< 52 + fraction) >>> (1076 - w.bias - w.fractionBits - exponent)

/-- The narrow bits that widen to exactly these binary64 bits, if there are any. -/
def narrow? (w : FloatWidth) (bits : Nat) : Option Nat :=
  let narrow := w.truncate bits
  if w.widen narrow = bits then some narrow else none

theorem widen_of_narrow? {w : FloatWidth} {bits narrow : Nat} (h : w.narrow? bits = some narrow) :
    w.widen narrow = bits := by
  simp only [narrow?] at h
  split at h <;> simp_all

end FloatWidth

/-- Whether binary64 bits stand for no number. -/
def isNaN (bits : UInt64) : Bool := bits.toNat % 1 <<< 63 > 2047 <<< 52

/-- Numerical equality: NaN differs from itself and the two zeros are equal. -/
def sameNumber (a b : UInt64) : Bool :=
  !isNaN a && !isNaN b && (a == b || (a.toNat % 1 <<< 63 == 0 && b.toNat % 1 <<< 63 == 0))

end ClusterLink.Cbor
