/-
  Custody.Text.Shortest
  ────────────────────────────────
  **NUMBERS OF DOUBLE PRECISION IN DECIMAL.**

  A number of double precision stands for every real that rounds to it.  Its
  text is the shortest decimal among those reals and, of two shortest ones,
  the nearer; of two equally near ones, the even.  The search tries one
  digit, then two, and so on, against the number itself in exact arithmetic.

  Main fact: `readsBack_of_shortest?` — a decimal that the search settles on
  stands for the number that it was asked for.
-/

namespace Custody.Text

/-! ## §1. Numbers and decimals. -/

/-- The number `significand · 2 ^ power`, none below zero. -/
structure Binary where
  significand : Nat
  power : Int
  /-- Whether the next number below is only half as far away as the next above. -/
  narrow : Bool
deriving DecidableEq, Repr

/-- The number `digits · 10 ^ power`. -/
structure Decimal where
  digits : Nat
  power : Int
deriving DecidableEq, Repr

/-- The magnitude that the bits of a finite number of double precision stand for. -/
def Binary.ofBits (bits : UInt64) : Binary :=
  let fraction := bits.toNat % (1 <<< 52)
  let exponent := bits.toNat / (1 <<< 52) % (1 <<< 11)
  if exponent = 0 then ⟨fraction, -1074, false⟩
  else ⟨1 <<< 52 + fraction, (exponent : Int) - 1075, fraction = 0 ∧ exponent ≠ 1⟩

/-- A power of ten; one for a power below zero. -/
def tens (power : Int) : Nat := Nat.pow 10 power.toNat

/-- A power of two; one for a power below zero. -/
def twos (power : Int) : Nat := 1 <<< power.toNat

/-! ## §2. The search. -/

/-- Whether a decimal is among the reals that round to a number; the two ends are among them just
if the significand is even. -/
def Binary.readsBack (x : Binary) (d : Decimal) : Bool :=
  -- All is taken four times, so that a quarter of a step is a whole number.
  let value := 4 * d.digits * tens d.power * twos (-x.power)
  let unit := twos x.power * tens (-d.power)
  let low := (4 * x.significand - if x.narrow then 1 else 2) * unit
  let high := (4 * x.significand + 2) * unit
  if x.significand % 2 = 0 then low ≤ value ∧ value ≤ high else low < value ∧ value < high

/-- How often `10 ^ power` goes into a number, and whether the rest is less than half of it, half
of it or more. -/
def Binary.quotient (x : Binary) (power : Int) : Nat × Ordering :=
  let value := x.significand * twos x.power * tens (-power)
  let unit := twos (-x.power) * tens power
  (value / unit, compare (2 * (value % unit)) unit)

/-- The decimal on the grid of `10 ^ power` that stands for a number: of the two next to it that
do, the nearer, or the even one. -/
def Binary.onGrid? (x : Binary) (power : Int) : Option Decimal :=
  let (below, rest) := x.quotient power
  -- A rest of more than half, or of half over an odd digit, puts the next one first.
  let upward := rest = .gt ∨ (rest = .eq ∧ below % 2 = 1)
  let candidates : List Decimal :=
    if upward then [⟨below + 1, power⟩, ⟨below, power⟩] else [⟨below, power⟩, ⟨below + 1, power⟩]
  candidates.find? x.readsBack

/-- The place of the first digit of a number: the greatest power of ten that goes into it. -/
def Binary.leading? (x : Binary) : Option Int :=
  ((List.range 640).map fun (n : Nat) => (310 : Int) - n).find? fun power =>
    0 < (x.quotient power).1

/-- The shortest decimal that stands for a number. -/
def Binary.shortest? (x : Binary) : Option Decimal :=
  x.leading?.bind fun leading =>
    (List.range 17).findSome? fun (n : Nat) => x.onGrid? (leading - n)

/-- A decimal that was found on a grid is read back. -/
theorem Binary.readsBack_of_onGrid? {x : Binary} {power : Int} {d : Decimal}
    (h : x.onGrid? power = some d) : x.readsBack d = true :=
  List.find?_some h

/-- The decimal that the search settles on is read back. -/
theorem Binary.readsBack_of_shortest? {x : Binary} {d : Decimal} (h : x.shortest? = some d) :
    x.readsBack d = true := by
  rw [shortest?, Option.bind_eq_some_iff] at h
  obtain ⟨leading, _, found⟩ := h
  obtain ⟨n, _, hit⟩ := List.exists_of_findSome?_eq_some found
  exact readsBack_of_onGrid? hit

/-! ## §3. The text. -/

/-- Moves the zeros at the end of the digits into the power; there are at most `fuel` of them. -/
def Decimal.trim : Nat → Decimal → Decimal
  | 0, d => d
  | fuel + 1, d =>
    if d.digits % 10 = 0 ∧ d.digits ≠ 0 then trim fuel ⟨d.digits / 10, d.power + 1⟩ else d

/-- Zeros in a row. -/
def zeros (n : Int) : List Char := List.replicate n.toNat '0'

/-- A decimal as text.  Up to sixteen places before the point and five behind it are written out,
with a digit on both sides of the point; any other decimal has one digit before the point and an
exponent. -/
def Decimal.chars (d : Decimal) : List Char :=
  let digits := Nat.toDigits 10 d.digits
  let count : Int := digits.length
  let point := count + d.power
  if 0 ≤ d.power ∧ point ≤ 16 then digits ++ zeros d.power ++ ['.', '0']
  else if 0 < point ∧ point ≤ 16 then
    digits.take point.toNat ++ ['.'] ++ digits.drop point.toNat
  else if -5 < point ∧ point ≤ 0 then ['0', '.'] ++ zeros (-point) ++ digits
  else
    let exponent := 'e' :: (toString (point - 1)).toList
    match digits with
    | [digit] => digit :: exponent
    | digit :: rest => digit :: '.' :: rest ++ exponent
    | [] => exponent

/-- A finite number of double precision as text. -/
def showDouble (x : Float) : String :=
  let bits := x.toBits
  let sign := if bits >>> 63 = 1 then ['-'] else []
  let magnitude := Binary.ofBits bits
  let decimal := (magnitude.shortest?.getD ⟨0, 0⟩).trim 17
  String.ofList (sign ++ decimal.chars)

end Custody.Text
