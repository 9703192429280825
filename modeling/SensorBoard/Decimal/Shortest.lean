/-!
# Shortest decimals

The decimal with the fewest digits that reads back to a given double. A double stands for an
interval of reals, those that round to it; on ever finer decimal grids the two neighbours of the
value are tried, and the first grid with a neighbour inside the interval gives the digits.
All comparisons are exact comparisons of natural numbers.
-/

namespace SensorBoard.Decimal

/-- A finite non-negative double, `mantissa * 2 ^ exponent`. -/
structure Binary where
  mantissa : Nat
  exponent : Int
  /-- The gap to the value below is half the gap to the value above. -/
  narrowBelow : Bool

/-- The magnitude that the bits of a finite double write; the sign bit is left out. -/
def Binary.ofBits (b : UInt64) : Binary :=
  let e := ((b >>> 52) &&& 0x7FF).toNat
  let f := (b &&& 0xFFFFFFFFFFFFF).toNat
  if e = 0 then ⟨f, -1074, false⟩
  else ⟨Nat.pow 2 52 + f, (e : Int) - 1075, f == 0 && decide (1 < e)⟩

/-- A decimal, `digits * 10 ^ exponent`. -/
structure Scientific where
  digits : Nat
  exponent : Int
  deriving DecidableEq

/-- Which of two equally close decimals of the same length is taken. -/
inductive Tie where
  | up
  | toEven
  deriving DecidableEq

/-- Quarter units of the last binary place, measured on the decimal grid `10 ^ place`: `q` of them
are `q * unit / grid` grid steps. -/
structure Scale where
  unit : Nat
  grid : Nat

/-- The scale that joins a double's quarter units to a decimal grid. -/
def Binary.scaleAt (x : Binary) (place : Int) : Scale :=
  let e := x.exponent - 2
  ⟨Nat.pow 2 e.toNat * Nat.pow 10 (-place).toNat,
    Nat.pow 2 (-e).toNat * Nat.pow 10 place.toNat⟩

/-- Does the grid point `c` round to the double? The ends of the interval do exactly when the
mantissa is even. -/
def Binary.readsBack (x : Binary) (s : Scale) (c : Nat) : Bool :=
  let low := (if x.narrowBelow then 4 * x.mantissa - 1 else 4 * x.mantissa - 2) * s.unit
  let high := (4 * x.mantissa + 2) * s.unit
  let point := c * s.grid
  if x.mantissa % 2 = 0 then decide (low ≤ point) && decide (point ≤ high)
  else decide (low < point) && decide (point < high)

/-- The grid point at the given place that reads back to the double and is closest to it. -/
def Binary.nearest? (x : Binary) (tie : Tie) (place : Int) : Option Nat :=
  let s := x.scaleAt place
  let value := 4 * x.mantissa * s.unit
  let below := value / s.grid
  match x.readsBack s below, x.readsBack s (below + 1) with
  | true, false => some below
  | false, true => some (below + 1)
  | false, false => none
  | true, true =>
    match compare (2 * value) ((2 * below + 1) * s.grid), tie with
    | .lt, _ => some below
    | .gt, _ => some (below + 1)
    | .eq, .up => some (below + 1)
    | .eq, .toEven => some (if below % 2 = 0 then below else below + 1)

/-- Is the double below `10 ^ k`? -/
def Binary.isBelow (x : Binary) (k : Int) : Bool :=
  let s := x.scaleAt k
  decide (4 * x.mantissa * s.unit < s.grid)

/-- The least `k` with the double below `10 ^ k`, found from the binary logarithm by at most a few
exact comparisons. -/
def Binary.magnitude (x : Binary) : Int :=
  let start := ((x.mantissa.log2 : Int) + x.exponent) * 30103 / 100000 - 1
  match (List.range 5).find? (fun i : Nat => x.isBelow (start + i)) with
  | some i => start + i
  | none => start + 5

/-- Moves trailing zeros of the digits into the exponent; `fuel` bounds their number. -/
def Scientific.strip : Nat → Scientific → Scientific
  | 0, d => d
  | fuel + 1, d =>
    if d.digits ≠ 0 ∧ d.digits % 10 = 0 then strip fuel ⟨d.digits / 10, d.exponent + 1⟩ else d

/-- The exact decimal value of a double. -/
def Binary.exact (x : Binary) : Scientific :=
  ⟨x.mantissa * Nat.pow 2 x.exponent.toNat * Nat.pow 5 (-x.exponent).toNat,
    -((-x.exponent).toNat : Int)⟩

/-- The shortest decimal of a double that is not zero: one to seventeen digits are tried in turn.
Seventeen always suffice, and the exact value stands behind them. -/
def Binary.shortest (x : Binary) (tie : Tie) : Scientific :=
  let k := x.magnitude
  -- the first grid that has a point in the interval is the coarsest, so it has the fewest digits
  let found := (List.range 17).findSome? fun i : Nat =>
    let place := k - 1 - (i : Int)
    (x.nearest? tie place).map fun c => (⟨c, place⟩ : Scientific)
  (found.getD x.exact).strip 20

end SensorBoard.Decimal
