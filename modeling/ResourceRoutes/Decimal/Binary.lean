/-!
# Doubles as exact binary fractions

A finite double is `±m · 2^e` with a 53-bit `m`. `Binary.ofFloat` reads that form off the bit
pattern, and `Binary.round` goes the other way: it rounds an exact `m · 2^e` to the nearest
double, a tie to the even mantissa, and gives infinity past the largest finite value.

The two meet in `Binary.powTen`, the correctly rounded powers of ten that decimal reading
scales by.
-/

namespace ResourceRoutes.Decimal

/-- A finite nonzero-or-zero double as `(-1)^negative · mantissa · 2^exponent`. -/
structure Binary where
  negative : Bool
  mantissa : Nat
  exponent : Int
  /-- The gap to the next smaller double is half the gap to the next larger one. -/
  narrowBelow : Bool

namespace Binary

/-- The exact form of a finite double; `none` for an infinity or a NaN. -/
def ofBits (bits : UInt64) : Option Binary :=
  let b : Nat := bits.toNat
  let negative : Bool := b / Nat.pow 2 63 % 2 == 1
  let biased : Nat := b / Nat.pow 2 52 % Nat.pow 2 11
  let fraction : Nat := b % Nat.pow 2 52
  if biased == Nat.pow 2 11 - 1 then none
  else if biased == 0 then some ⟨negative, fraction, -1074, false⟩
  else some ⟨negative, fraction + Nat.pow 2 52, (biased : Int) - 1075, fraction == 0 && biased > 1⟩

/-- The exact form of a finite double. -/
def ofFloat (x : Float) : Option Binary := ofBits x.toBits

/-- Number of binary digits of `n` (zero for zero). -/
def bitLength (n : Nat) : Nat := if n = 0 then 0 else Nat.log2 n + 1

/-- Round `m / 2^s` to an integer, a tie to the even neighbour. -/
def shiftRound (m s : Nat) : Nat :=
  let q := m / Nat.pow 2 s
  let r := m % Nat.pow 2 s
  if s = 0 then m
  else if 2 * r > Nat.pow 2 s then q + 1
  else if 2 * r = Nat.pow 2 s ∧ q % 2 = 1 then q + 1
  else q

/-- The bit pattern of `±m · 2^e` rounded to the nearest double (a tie to even). -/
def roundBits (negative : Bool) (m : Nat) (e : Int) : UInt64 :=
  let sign : Nat := if negative then Nat.pow 2 63 else 0
  if m = 0 then UInt64.ofNat sign
  else
    -- the exponent of the leading bit, held at the bottom of the normal range
    let lead : Int := max ((bitLength m : Int) - 1 + e) (-1022)
    let shift : Int := lead - 52 - e
    let scaled : Nat :=
      if shift ≤ 0 then m * Nat.pow 2 (-shift).toNat else shiftRound m shift.toNat
    let (scaled, lead) := if scaled = Nat.pow 2 53 then (Nat.pow 2 52, lead + 1) else (scaled, lead)
    if lead > 1023 then UInt64.ofNat (sign + (Nat.pow 2 11 - 1) * Nat.pow 2 52)
    else if scaled < Nat.pow 2 52 then UInt64.ofNat (sign + scaled)
    else UInt64.ofNat (sign + (lead + 1023).toNat * Nat.pow 2 52 + (scaled - Nat.pow 2 52))

/-- `±m · 2^e` rounded to the nearest double. -/
def round (negative : Bool) (m : Nat) (e : Int) : Float :=
  Float.ofBits (roundBits negative m e)

/-- `10^k` rounded to the nearest double. -/
def powTen (k : Nat) : Float := round false (Nat.pow 5 k) k

end Binary

end ResourceRoutes.Decimal
