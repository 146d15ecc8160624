/-!
Decimal text of binary floating point numbers. A finite number is an integer times a power of two,
so both forms are computed exactly: `fixed` rounds to a number of places, and `shortest` takes the
fewest digits that read back as the same number.
-/

namespace Triage

/-- The number `(-1)^negative * mantissa * 2^exponent`. -/
structure Binary where
  negative : Bool
  mantissa : Nat
  exponent : Int
deriving DecidableEq, Repr

namespace Binary

/-- The mantissas with all their bits start here. -/
def leastFull : Nat := 0x10000000000000

/-- The fields of the 64 bits, for a number that is finite. -/
def ofBits (bits : UInt64) : Binary :=
  let n : Nat := bits.toNat
  let fraction := n % leastFull
  let biased : Nat := n / leastFull % 0x800
  let negative := n / 0x8000000000000000 = 1
  if biased = 0 then ⟨negative, fraction, -1074⟩
  else ⟨negative, leastFull + fraction, Int.ofNat biased - 1075⟩

def toFloat (b : Binary) : Float :=
  let size := (Float.ofNat b.mantissa).scaleB b.exponent
  if b.negative then -size else size

/-- Numerator and denominator of the value without its sign, times a power of ten. -/
def scaled (b : Binary) (power : Int) : Nat × Nat :=
  let (two, ten) := (b.exponent, power)
  ((b.mantissa <<< two.toNat) * Nat.pow 10 ten.toNat,
    (1 <<< (-two).toNat) * Nat.pow 10 (-ten).toNat)

end Binary

namespace Decimal

/-- The nearest integer to a quotient; a half goes to the even neighbour. -/
def roundDiv (num den : Nat) : Nat :=
  let q := num / den
  let r := num % den
  if 2 * r < den then q
  else if 2 * r > den then q + 1
  else if q % 2 = 0 then q else q + 1

def padLeft (width : Nat) (digits : List Char) : List Char :=
  List.replicate (width - digits.length) '0' ++ digits

def digits (n : Nat) : List Char := (toString n).toList

/-- `n` as a decimal with its last `places` digits behind the point. -/
def withPoint (places n : Nat) : List Char :=
  let ds := padLeft (places + 1) (digits n)
  let whole := ds.take (ds.length - places)
  if places = 0 then whole else whole ++ '.' :: ds.drop (ds.length - places)

/-- A number with a fixed count of places. Zero has no sign. -/
def fixed (places : Nat) (b : Binary) : String :=
  let (num, den) := b.scaled places
  let n := roundDiv num den
  let sign := if b.negative && b.mantissa ≠ 0 then "-" else ""
  sign ++ String.ofList (withPoint places n)

/-- The ends of the interval that rounds to the number, as multiples of half a unit of its last bit,
and whether the ends belong to it. -/
def interval (b : Binary) : Nat × Nat × Nat × Bool :=
  let smallest := b.mantissa = Binary.leastFull && b.exponent ≠ -1074
  (4 * b.mantissa - (if smallest then 1 else 2), 4 * b.mantissa, 4 * b.mantissa + 2,
    b.mantissa % 2 = 0)

/-- The multiple of `10^power` that reads back as the number, if one of the number's two neighbours on
that grid does; the nearer one, and of two as near the even one. -/
def onGrid? (b : Binary) (power : Int) : Option Nat :=
  let (low, mid, high, ends) := interval b
  let quarter : Binary := { b with exponent := b.exponent - 2 }
  let scaled (m : Nat) := { quarter with mantissa := m }.scaled (-power)
  let (num, den) := scaled mid
  let inside (n : Nat) : Bool :=
    let (l, d) := scaled low
    let (h, _) := scaled high
    if ends then l ≤ n * d && n * d ≤ h else l < n * d && n * d < h
  let nearest := roundDiv num den
  let below := num / den
  [nearest, below, below + 1].find? inside

/-- The digits and the power of ten of the shortest decimal that reads back, searched for from coarse
grids to fine ones. -/
def shortestFrom (b : Binary) : Nat → Int → Nat × Int
  | 0, power => (0, power)
  | fuel + 1, power =>
    match onGrid? b power with
    | some n => if n = 0 then shortestFrom b fuel (power - 1) else (n, power)
    | none => shortestFrom b fuel (power - 1)

def shortestDigits (b : Binary) : Nat × Int :=
  if b.mantissa = 0 then (0, 0) else shortestFrom b 700 310

/-- How numbers are written in JSON: positional from 1e-5 up to 1e16, elsewhere with an exponent that
has a sign, and always told apart from integers. -/
def shortest (b : Binary) : String :=
  let (n, power) := shortestDigits b
  let ds := digits n
  let point : Int := ds.length + power
  let sign := if b.negative then "-" else ""
  let body : List Char :=
    if n = 0 then "0.0".toList
    else if 0 ≤ power ∧ point ≤ 16 then ds ++ List.replicate power.toNat '0' ++ ".0".toList
    else if 0 < point ∧ point ≤ 16 then ds.take point.toNat ++ '.' :: ds.drop point.toNat
    else if -5 < point ∧ point ≤ 0 then
      "0.".toList ++ List.replicate (-point).toNat '0' ++ ds
    else
      let mantissa := ds.take 1 ++ (if ds.length = 1 then [] else '.' :: ds.drop 1)
      let exponent := point - 1
      mantissa ++ 'e' :: (if exponent < 0 then '-' else '+') :: digits exponent.natAbs
  sign ++ String.ofList body

end Decimal

end Triage
