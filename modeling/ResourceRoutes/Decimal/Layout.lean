import ResourceRoutes.Decimal.Shortest

/-!
# Writing a double

One function, `Layout.render`, writes the shortest decimal of a double in the layout a record
asks for: positionally while the exponent of the leading digit is in a range (the point after,
inside or before the digits), otherwise in scientific form. `Layout.document` is the layout of
numbers in JSON documents, in their debug notation and in diagnostics that quote them:
positional for leading exponents `-5 … 15`, an integral value keeps `.0`, a positive exponent
shows `+` (`1e+300`, `1.5e-7`).
-/

namespace ResourceRoutes.Decimal

/-- How the digits of a double are laid out. -/
structure Layout where
  /-- Leading-digit exponents `e` with `lo ≤ e < hi` are written positionally; `none` means all. -/
  plainRange : Option (Int × Int)
  /-- An integral value written positionally ends in `.0`. -/
  pointZero : Bool
  /-- A positive exponent is written with `+`. -/
  expPlus : Bool

/-- Numbers in JSON documents: positional from `1e-5` up to below `1e16`, `.0` kept, `e+`. -/
def Layout.document : Layout where
  plainRange := some (-5, 16)
  pointZero := true
  expPlus := true

/-- `n` zeros. -/
def zeros (n : Nat) : String := String.ofList (List.replicate n '0')

namespace Layout

/-- The digits `d` with exponent `s` (value `d · 10^s`, `d > 0`) in this layout, unsigned. -/
def digitsText (l : Layout) (d : Scientific) : String :=
  let ds := toString d.digits
  let len := ds.length
  let lead : Int := d.exponent + len - 1
  let plain := match l.plainRange with
    | none => true
    | some (lo, hi) => lo ≤ lead ∧ lead < hi
  if plain then
    if lead ≥ (len : Int) - 1 then
      ds ++ zeros (lead - (len - 1)).toNat ++ (if l.pointZero then ".0" else "")
    else if 0 ≤ lead then
      String.ofList (ds.toList.take (lead.toNat + 1)) ++ "." ++
        String.ofList (ds.toList.drop (lead.toNat + 1))
    else
      "0." ++ zeros ((-lead).toNat - 1) ++ ds
  else
    let first := String.ofList (ds.toList.take 1)
    let rest := String.ofList (ds.toList.drop 1)
    let mantissa := if rest.isEmpty then first else first ++ "." ++ rest
    let sign := if lead < 0 then "-" else if l.expPlus then "+" else ""
    mantissa ++ "e" ++ sign ++ toString lead.natAbs

/-- A double in this layout. -/
def render (l : Layout) (x : Float) : String :=
  match Binary.ofFloat x with
  | none => if x.isNaN then "NaN" else if x < 0 then "-inf" else "inf"
  | some b =>
    let sign := if b.negative then "-" else ""
    if b.mantissa = 0 then sign ++ (if l.pointZero then "0.0" else "0")
    else sign ++ l.digitsText b.shortest

end Layout

end ResourceRoutes.Decimal
