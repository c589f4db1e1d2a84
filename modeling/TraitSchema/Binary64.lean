namespace TraitSchema

structure Binary64 where
  bits : UInt64
deriving DecidableEq, Repr, Inhabited

namespace Binary64

def negative (x : Binary64) : Bool := x.bits >>> 63 != 0

/-- The magnitude of a finite number is the first part times two to the second. -/
def magnitude (x : Binary64) : Nat × Int :=
  let fraction := (x.bits &&& 0xFFFFFFFFFFFFF).toNat
  let exponent := ((x.bits >>> 52) &&& 0x7FF).toNat
  if exponent = 0 then (fraction, -1074) else (fraction + Nat.pow 2 52, exponent - 1075)

def digitCount (n : Nat) : Nat := (Nat.toDigits 10 n).length

def leadingZeros (num den : Nat) : (bound : Nat) → Nat
  | 0 => 0
  | bound + 1 => if den ≤ num then 0 else leadingZeros (num * 10) den bound + 1

def leadingExponent (num den : Nat) : Int :=
  if den ≤ num then (digitCount (num / den) : Int) - 1 else -leadingZeros num den 400

def inUnits (num den : Nat) (k : Int) : Nat × Nat :=
  if 0 ≤ k then (num, den * Nat.pow 10 k.toNat) else (num * Nat.pow 10 (-k).toNat, den)

/-- The multiple of ten to the `k` that lies between `low / den` and `high / den` and is nearest to
`mid / den`; the ends count when `closed`. -/
def nearestBetween (low mid high den : Nat) (closed : Bool) (k : Int) : Option Nat :=
  let (m, d) := inUnits mid den k
  let (l, _) := inUnits low den k
  let (h, _) := inUnits high den k
  let inside (n : Nat) : Bool :=
    if closed then l ≤ n * d && n * d ≤ h else l < n * d && n * d < h
  let down := m / d
  let up := down + 1
  if inside down && (!inside up || 2 * (m % d) ≤ d) then some down
  else if inside up then some up
  else none

def withoutZero (n : Nat) (k : Int) : Nat × Int := if n % 10 = 0 then (n / 10, k + 1) else (n, k)

/-- The decimal `n * 10 ^ k` with the fewest digits, and the nearest of those, that rounds to the
number's magnitude. -/
def shortest (x : Binary64) : Nat × Int :=
  let (m, q) := x.magnitude
  if m = 0 then (0, 0)
  else
    let scale := Nat.pow 2 (q - 2).toNat
    let den := Nat.pow 2 (2 - q).toNat
    let below := if m = Nat.pow 2 52 && -1074 < q then 1 else 2
    let low := (4 * m - below) * scale
    let mid := 4 * m * scale
    let high := (4 * m + 2) * scale
    let lead := leadingExponent mid den
    let found := (List.range 17).findSome? fun (i : Nat) =>
      (nearestBetween low mid high den (m % 2 == 0) (lead - i)).map (withoutZero · (lead - i))
    found.getD (0, 0)

def tenTo (k : Nat) : Float := Float.ofScientific 1 false k

def scaleDown (x : Float) (k : Nat) : Float :=
  if x == 0 then x
  else if k ≤ 308 then x / tenTo k
  else scaleDown (x / tenTo 308) (k - 308)
termination_by k
decreasing_by omega

/-- The number `n * 10 ^ k`, with one rounding for `n` and one for each scaling; `none` when it is
too large. -/
def scaled? (n : Nat) (k : Int) : Option Float :=
  let x := Float.ofNat n
  if k < 0 then some (scaleDown x (-k).toNat)
  else if x == 0 then some x
  else if 308 < k then none
  else
    let y := x * tenTo k.toNat
    if y.isFinite then some y else none

def ofDecimal? (negative : Bool) (n : Nat) (k : Int) : Option Binary64 :=
  (scaled? n k).map fun x => ⟨(if negative then -x else x).toBits⟩

/-- Positional notation with at least one digit after the point where the point stands among
the first sixteen digits or at most five places before the first, and an exponent elsewhere. -/
def text (x : Binary64) : String :=
  let (n, k) := x.shortest
  let digits := if n = 0 then ['0'] else Nat.toDigits 10 n
  let k : Int := k
  let point : Int := digits.length + k
  let body : List Char :=
    if 0 ≤ k ∧ point ≤ 16 then digits ++ List.replicate k.toNat '0' ++ ['.', '0']
    else if 0 < point ∧ point ≤ 16 then
      digits.take point.toNat ++ '.' :: digits.drop point.toNat
    else if -5 < point ∧ point ≤ 0 then
      '0' :: '.' :: List.replicate (-point).toNat '0' ++ digits
    else
      let fraction := if digits.length = 1 then [] else '.' :: digits.drop 1
      digits.take 1 ++ fraction ++ 'e' :: (toString (point - 1)).toList
  String.ofList (if x.negative then '-' :: body else body)

end Binary64

end TraitSchema
