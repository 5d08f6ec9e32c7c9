import Sift.Binary64.Rounding

/-!
# The shortest decimal that reads back

Every number is written with the fewest decimal digits that still round to it, and among those with
the digits nearest to its value, a tie going to the even digit.

The decimals that round to `m * 2 ^ q` form an interval around it. Measured in units of
`2 ^ (q - 2)` its ends are `4 m + 2` above and `4 m - 2` below, or `4 m - 1` where the numbers below
lie half as far apart; the ends belong to it when `m` is even. For one digit, two digits, and so on
the two neighbours of the value on that decimal grid are tried; seventeen digits always suffice.
-/

namespace Sift.Binary64

/-- The interval of reals that round to a number, and the number itself, in units of a quarter of
its last place: `lower < value < upper`, the ends included when `closed`. -/
structure RoundingInterval where
  lower : Nat
  value : Nat
  upper : Nat
  closed : Bool
  /-- The unit is two to this power. -/
  unit : Int

/-- The interval that rounds to the absolute value of rank `r`. -/
def roundingInterval (r : Nat) : RoundingInterval :=
  let (m, q) := decode r
  let lower := if m = 1 <<< 52 && -1074 < q then 4 * m - 1 else 4 * m - 2
  ⟨lower, 4 * m, 4 * m + 2, m % 2 == 0, q - 2⟩

/-- Whether `digits * grid` lies in the interval, one unit of which measures `step`. -/
def RoundingInterval.holds (i : RoundingInterval) (step grid digits : Nat) : Bool :=
  let x := digits * grid
  if i.closed then i.lower * step ≤ x && x ≤ i.upper * step
  else i.lower * step < x && x < i.upper * step

/-- The largest `k` with `10 ^ k ≤ num / den`, for a positive ratio within the format. -/
def floorLog10 (num den : Nat) : Int :=
  -- An estimate through the logarithm of two to the base ten, which is at most one too small.
  let k := floorLog2 num den * 30103 / 100000
  if den * Nat.pow 10 (k + 1).toNat ≤ num * Nat.pow 10 (-(k + 1)).toNat then k + 1 else k

/-- The point of the grid of `10 ^ place` that is nearest to the value among the two neighbours of
the value that lie in the interval, if one does. -/
def RoundingInterval.onGrid? (i : RoundingInterval) (place : Int) : Option Nat :=
  let step := Nat.pow 10 (-place).toNat <<< i.unit.toNat
  let grid := Nat.pow 10 place.toNat <<< (-i.unit).toNat
  let below := i.value * step / grid
  match i.holds step grid below, i.holds step grid (below + 1) with
  | true, true =>
    let twice := 2 * (i.value * step)
    let middle := (2 * below + 1) * grid
    if twice < middle || (twice == middle && below % 2 == 0) then some below else some (below + 1)
  | true, false => some below
  | false, true => some (below + 1)
  | false, false => none

/-- A decimal `digits * 10 ^ place` without needless zeros at its end. -/
structure Decimal where
  digits : Nat
  place : Int
  deriving DecidableEq, Repr

def Decimal.strip (fuel : Nat) (d : Decimal) : Decimal :=
  match fuel with
  | 0 => d
  | n + 1 => if d.digits % 10 = 0 && d.digits ≠ 0 then strip n ⟨d.digits / 10, d.place + 1⟩ else d

/-- The decimal with the fewest digits that rounds to the absolute value of rank `r`. -/
def shortest (r : Nat) : Decimal :=
  if r = 0 then
    ⟨0, 0⟩
  else
    let i := roundingInterval r
    let (num, den) := ratio r
    let lead := floorLog10 num den
    let hit := (List.range 17).findSome? fun (k : Nat) =>
      (i.onGrid? (lead - k)).map fun digits => (⟨digits, lead - k⟩ : Decimal)
    (hit.getD ⟨0, 0⟩).strip 18

/-! ### Written forms -/

/-- The digits of a decimal, and the power of ten that its first digit counts. -/
def Decimal.spread (d : Decimal) : List Char × Int :=
  let cs := Nat.toDigits 10 d.digits
  (cs, d.place + cs.length - 1)

/-- Positional notation of the digits `cs`, the first of which counts `10 ^ lead`. There is always
a digit on either side of the point. -/
def positional (cs : List Char) (lead : Int) : List Char :=
  if lead < 0 then
    ['0', '.'] ++ List.replicate (-lead - 1).toNat '0' ++ cs
  else
    let whole := lead.toNat + 1
    let padded := cs ++ List.replicate (whole - cs.length) '0'
    let fraction := padded.drop whole
    padded.take whole ++ '.' :: (if fraction.isEmpty then ['0'] else fraction)

/-- Notation with an exponent, which always has its sign; a lone digit has no point after it. -/
def scientific (cs : List Char) (lead : Int) : List Char :=
  let mark := if lead < 0 then ['e', '-'] else ['e', '+']
  match cs with
  | [] => []
  | c :: [] => c :: mark ++ Nat.toDigits 10 lead.natAbs
  | c :: rest => c :: '.' :: rest ++ mark ++ Nat.toDigits 10 lead.natAbs

/-- The text of a number: positional from `0.00001` up to below `10 ^ 16`, else with an exponent. -/
def text : Binary64 → String
  | .nan => "NaN"
  | .number s r =>
    let sign := if s then ['-'] else []
    if r.val < infinityRank then
      let (cs, lead) := (shortest r).spread
      String.ofList (sign ++
        if -5 ≤ lead && lead < 16 then positional cs lead else scientific cs lead)
    else
      String.ofList (sign ++ ['i', 'n', 'f'])

end Sift.Binary64
