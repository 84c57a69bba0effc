import ResourceRoutes.Decimal.Binary

/-!
# The shortest decimal that reads back

A finite double stands for every real that rounds to it: an interval around the value whose ends
lie halfway to the neighbouring doubles, ends included when the mantissa is even. `shortest`
finds, for one digit count after another, the decimals on that grid nearest the value from
below and from above; the first count with one of them inside the interval wins, and of two
inside the nearer one (a tie goes to the even digit string). Everything is exact arithmetic on
natural numbers.

* `Scientific.strip`: drops trailing zeros of the digits, raising the exponent.
* `Binary.shortest`: the digits and exponent of the shortest decimal in the interval.
-/

namespace ResourceRoutes.Decimal

/-- A decimal `digits · 10^exponent`. -/
structure Scientific where
  digits : Nat
  exponent : Int
  deriving Repr, DecidableEq

namespace Scientific

/-- The same decimal without trailing zeros in its digits. -/
def strip (c : Nat) (e : Int) : Scientific :=
  if h : c ≠ 0 ∧ c % 10 = 0 then strip (c / 10) (e + 1) else ⟨c, e⟩
termination_by c
decreasing_by omega

end Scientific

/-- A fraction `num / den` with a positive denominator. -/
abbrev Frac := Nat × Nat

/-- `x · 10^k` as a fraction. -/
def tenPow (x : Nat) (k : Int) : Frac :=
  if 0 ≤ k then (x * Nat.pow 10 k.toNat, 1) else (x, Nat.pow 10 (-k).toNat)

/-- `x · 2^k` as a fraction. -/
def twoPow (x : Nat) (k : Int) : Frac :=
  if 0 ≤ k then (x * Nat.pow 2 k.toNat, 1) else (x, Nat.pow 2 (-k).toNat)

/-- Compare two fractions. -/
def Frac.cmp (a b : Frac) : Ordering := compare (a.1 * b.2) (b.1 * a.2)

/-- The exponent `E` with `10^E ≤ v < 10^(E+1)`, from a guess that is off by at most two. -/
def decimalExponent (v : Frac) (guess : Int) : Int :=
  let up (e : Int) : Int := if (tenPow 1 (e + 1)).cmp v != .gt then e + 1 else e
  let down (e : Int) : Int := if (tenPow 1 e).cmp v == .gt then e - 1 else e
  down (down (up (up guess)))

namespace Binary

/-- Of the decimals with `n` significant digits, the one inside the rounding interval nearest
the value, if any. -/
def nearestWithDigits (v lo hi : Frac) (inclusive : Bool) (lead : Int) (n : Nat) :
    Option Scientific :=
  let s : Int := lead - n + 1
  let step := tenPow 1 s
  let below := (v.1 * step.2) / (v.2 * step.1)
  let inside (c : Nat) : Bool :=
    let x := tenPow c s
    let aboveLo := match lo.cmp x with
      | .lt => true
      | .eq => inclusive
      | .gt => false
    let belowHi := match x.cmp hi with
      | .lt => true
      | .eq => inclusive
      | .gt => false
    aboveLo && belowHi
  let lowIn := inside below
  let highIn := inside (below + 1)
  if lowIn && highIn then
    match v.cmp (let m := tenPow (2 * below + 1) s; (m.1, 2 * m.2)) with
    | .lt => some ⟨below, s⟩
    | .gt => some ⟨below + 1, s⟩
    | .eq => if below % 2 = 0 then some ⟨below, s⟩ else some ⟨below + 1, s⟩
  else if lowIn then some ⟨below, s⟩
  else if highIn then some ⟨below + 1, s⟩
  else none

/-- The shortest decimal that rounds to this double, without trailing zeros; zero for a zero
mantissa. The sign is not part of it. -/
def shortest (b : Binary) : Scientific :=
  if b.mantissa = 0 then ⟨0, 0⟩
  else
    let m := b.mantissa
    let q := b.exponent - 2
    let v := twoPow (4 * m) q
    let lo := twoPow (4 * m - (if b.narrowBelow then 1 else 2)) q
    let hi := twoPow (4 * m + 2) q
    let log2 : Int := (bitLength m : Int) - 1 + b.exponent
    let lead := decimalExponent v (Int.fdiv (log2 * 78913) 262144)
    match (List.range 17).findSome? (fun i => nearestWithDigits v lo hi (m % 2 == 0) lead (i + 1)) with
    | some d => Scientific.strip d.digits d.exponent
    | none =>
      let s : Int := lead - 16
      let step := tenPow 1 s
      Scientific.strip ((v.1 * step.2) / (v.2 * step.1)) s

end Binary

end ResourceRoutes.Decimal
