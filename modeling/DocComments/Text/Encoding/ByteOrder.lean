/-!
# The order of bytes

A unit of several bytes is written from either end.
-/

namespace DocComments.Text

/-- **The order of the bytes of a unit.** -/
inductive ByteOrder where
  /-- The low byte comes first. -/
  | little
  /-- The high byte comes first. -/
  | big
  deriving DecidableEq, Repr

namespace ByteOrder

/-- The number that some bytes make. -/
def number : ByteOrder → List UInt8 → Nat
  | little, bytes => bytes.foldr (fun b n => n * 256 + b.toNat) 0
  | big, bytes => bytes.foldl (fun n b => n * 256 + b.toNat) 0

/-- The ending that tells the order in the name of an encoding. -/
def ending : ByteOrder → String
  | little => "le"
  | big => "be"

/-- The two orders read the same number, one from each end. -/
theorem number_reverse (bytes : List UInt8) :
    big.number bytes.reverse = little.number bytes := by
  simp [number]

end ByteOrder

end DocComments.Text
