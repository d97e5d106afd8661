/-
  Custody.Text.Amount
  ────────────────────────────────
  **AMOUNTS OF BITCOIN AS TEXT.**

  Amounts are whole satoshis.  They are shown with thousands separators and,
  beside that, in whole coins with eight places; they are read with the
  separators `,` and `_` anywhere in the numeral.
-/
import Custody.Text.Blank
import Custody.Text.Numeral

namespace Custody.Text

/-- Satoshis in one coin. -/
def satsPerCoin : Nat := 100000000

/-- A numeral filled up with zeros on the left to at least `width` digits. -/
def padNumeral (width n : Nat) : List Char :=
  let digits := Nat.toDigits 10 n
  List.replicate (width - digits.length) '0' ++ digits

/-- Puts a comma before each group of three digits that has a digit before it. -/
def groupThousands : List Char → List Char
  | [] => []
  | [c] => [c]
  | c :: rest =>
    if rest.length % 3 = 0 then c :: ',' :: groupThousands rest else c :: groupThousands rest

/-- An amount in coins, with eight places. -/
def coins (sats : UInt64) : String :=
  String.ofList (Nat.toDigits 10 (sats.toNat / satsPerCoin) ++ ['.'] ++
    padNumeral 8 (sats.toNat % satsPerCoin))

/-- An amount in satoshis and in coins. -/
def displayAmount (sats : UInt64) : String :=
  let grouped := String.ofList (groupThousands (Nat.toDigits 10 sats.toNat))
  s!"{grouped} sats ({coins sats} BTC)"

/-- Reads an amount in satoshis: blanks at the ends and separators do not count. -/
def readAmount? (text : String) : Option UInt64 :=
  let digits := (trimChars text.toList).filter fun c => c != ',' && c != '_'
  (readNumeral UInt64.size digits).toOption.map UInt64.ofNat

end Custody.Text
