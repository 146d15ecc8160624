/-!
The entropy of a stream's bytes.
-/

namespace Triage.Digest

/-- How often each byte value occurs. -/
abbrev Histogram := Vector Nat 256

namespace Histogram

def empty : Histogram := Vector.replicate 256 0

def push (h : Histogram) (b : UInt8) : Histogram :=
  h.set b.toNat (h.get ⟨b.toNat, b.toNat_lt⟩ + 1) b.toNat_lt

def absorb (h : Histogram) (bytes : List UInt8) : Histogram := bytes.foldl push h

/-- Bits per byte: the expected number of halvings that single out a byte's value. -/
def entropy (h : Histogram) : Float :=
  let total := (h.toList.foldr (· + ·) 0).toFloat
  (h.toList.filter (· > 0)).foldl
    (fun sum n =>
      let p := n.toFloat / total
      sum + -p * p.log2) 0

end Histogram

end Triage.Digest
