/-!
# Shortest decimals

`Decimal.ofBits` finds, for a finite binary floating-point number of 64 bits, the decimal with the
fewest digits that reads back as that number, and among those the one nearest to it.
`Decimal.text` writes a decimal with a point, or with an exponent when the point is far away.
-/

namespace ContainerLint

/-- The number `digits * 10 ^ exponent`, negated if `negative`. -/
structure Decimal where
  negative : Bool
  digits : Nat
  exponent : Int
deriving DecidableEq, Repr

namespace Decimal

/-- A power of two. -/
def twoTo (n : Nat) : Nat := Nat.pow 2 n

/-- A power of ten. -/
def tenTo (n : Nat) : Nat := Nat.pow 10 n

/-- The significand and exponent `(m, q)` of the number `m * 2 ^ q` with the given bits. -/
def binaryParts (bits : UInt64) : Nat × Int :=
  let fraction : Nat := bits.toNat % twoTo 52
  let field : Nat := bits.toNat / twoTo 52 % twoTo 11
  if field = 0 then (fraction, -1074) else (twoTo 52 + fraction, (field : Int) - 1075)

/-- Whether `a * 10 ^ e` lies in the interval of numbers that round to `m * 2 ^ q`. The interval
reaches half way to the neighbours, and its ends belong to it when `m` is even; below a power of
two the lower neighbour is nearer. -/
def readsBack (m : Nat) (q : Int) (a : Nat) (e : Int) : Bool :=
  -- everything is compared in units of 2 ^ (q - 2)
  let tens := tenTo e.toNat
  let tenths := tenTo (-e).toNat
  let twos := twoTo (q - 2).toNat
  let halves := twoTo (2 - q).toNat
  let value := a * tens * halves
  let lower := (4 * m - (if m = twoTo 52 ∧ -1074 < q then 1 else 2)) * twos * tenths
  let upper := (4 * m + 2) * twos * tenths
  if m % 2 = 0 then lower ≤ value && value ≤ upper else lower < value && value < upper

/-- Twice the distance of `a * 10 ^ e` from `m * 2 ^ q`, in a unit that depends on `q` and `e`
alone. -/
def distance (m : Nat) (q : Int) (a : Nat) (e : Int) : Nat :=
  let x := a * tenTo e.toNat * twoTo (-q).toNat
  let y := m * twoTo q.toNat * tenTo (-e).toNat
  (x - y) + (y - x)

/-- The largest `a` with `a * 10 ^ e` not above `m * 2 ^ q`. -/
def below (m : Nat) (q : Int) (e : Int) : Nat :=
  (m * twoTo q.toNat * tenTo (-e).toNat) / (tenTo e.toNat * twoTo (-q).toNat)

/-- Looks for a decimal that reads back, on finer and finer grids, from `10 ^ e` down. -/
def searchFrom (m : Nat) (q : Int) : Nat → Int → Nat × Int
  | 0, e => (below m q e, e)
  | fuel + 1, e =>
    let a := below m q e
    match readsBack m q a e && a != 0, readsBack m q (a + 1) e with
    | true, true =>
      let near := distance m q a e
      let far := distance m q (a + 1) e
      if near < far ∨ (near = far ∧ a % 2 = 0) then (a, e) else (a + 1, e)
    | true, false => (a, e)
    | false, true => (a + 1, e)
    | false, false => searchFrom m q fuel (e - 1)

/-- Drops the zeros at the end of the digits. -/
def strip : Nat → Nat → Int → Nat × Int
  | 0, a, e => (a, e)
  | fuel + 1, a, e => if a % 10 = 0 ∧ a ≠ 0 then strip fuel (a / 10) (e + 1) else (a, e)

/-- The shortest decimal of a finite number. -/
def ofBits (bits : UInt64) : Decimal :=
  let (m, q) := binaryParts bits
  let negative := twoTo 63 ≤ bits.toNat
  if m = 0 then ⟨negative, 0, 0⟩
  else
    let (a, e) := searchFrom m q 700 309
    let (a, e) := strip 20 a e
    ⟨negative, a, e⟩

/-- Zeros, `n` of them. -/
def zeros (n : Nat) : List Char := List.replicate n '0'

/-- The text of a decimal. The digits are written around a point while the point is at most 16
digits to the right of the first digit or 4 zeros to its left; beyond that an exponent is used. -/
def text (d : Decimal) : String :=
  let sign := if d.negative then ['-'] else []
  let digits := (toString d.digits).toList
  let point := (digits.length : Int) + d.exponent
  let body :=
    if d.digits = 0 then "0.0".toList
    else if 0 ≤ d.exponent ∧ point ≤ 16 then digits ++ zeros d.exponent.toNat ++ ".0".toList
    else if 0 < point ∧ point ≤ 16 then
      digits.take point.toNat ++ '.' :: digits.drop point.toNat
    else if -5 < point ∧ point ≤ 0 then "0.".toList ++ zeros (-point).toNat ++ digits
    else
      let exponent := 'e' :: (toString (point - 1)).toList
      match digits with
      | [d] => d :: exponent
      | d :: more => d :: '.' :: more ++ exponent
      | [] => exponent
  String.ofList (sign ++ body)

end Decimal

end ContainerLint
