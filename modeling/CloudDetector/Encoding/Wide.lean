import CloudDetector.Encoding.Utf8

namespace CloudDetector.Encoding

inductive ByteOrder
  | littleEndian
  | bigEndian
deriving DecidableEq

/-- The number that bytes make; the first weighs most in big-endian order. -/
def ByteOrder.number : ByteOrder → List UInt8 → Nat
  | .littleEndian, bytes => bytes.foldr (fun b n => b.toNat + 256 * n) 0
  | .bigEndian, bytes => bytes.foldl (fun n b => 256 * n + b.toNat) 0

/-- A character, unless the number is a surrogate or too large. -/
def charOf? (n : Nat) : Option Char := if n.isValidChar then some (.ofNat n) else none

namespace Utf32

/-- Nothing may be left over, and every number is a character. -/
def decode? (order : ByteOrder) : List UInt8 → Option (List Char)
  | a :: b :: c :: d :: rest => do
    let first ← charOf? (order.number [a, b, c, d])
    return first :: (← decode? order rest)
  | [] => some []
  | _ => none

end Utf32

namespace Utf16

def isHigh (u : Nat) : Bool := 0xD800 ≤ u && u ≤ 0xDBFF

def isLow (u : Nat) : Bool := 0xDC00 ≤ u && u ≤ 0xDFFF

def units? (order : ByteOrder) : List UInt8 → Option (List Nat)
  | a :: b :: rest => (units? order rest).map (order.number [a, b] :: ·)
  | [] => some []
  | [_] => none

/-- No surrogate stands but in a pair. -/
def characters? : List Nat → Option (List Char)
  | u :: v :: rest =>
    if isHigh u && isLow v then do
      let first ← charOf? (0x10000 + (u - 0xD800) * 0x400 + (v - 0xDC00))
      return first :: (← characters? rest)
    else do
      let first ← charOf? u
      return first :: (← characters? (v :: rest))
  | [u] => (charOf? u).map ([·])
  | [] => some []

def decode? (order : ByteOrder) (bytes : List UInt8) : Option (List Char) :=
  (units? order bytes).bind characters?

end Utf16

end CloudDetector.Encoding
