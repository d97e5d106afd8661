/-
  Custody.RedemptionAddress
  ────────────────────────────────
  **WHERE A REDEEMED RESERVATION IS PAID.**

  A redemption address is a key hash of 20 bytes or a witness program of 32.
  The script that pays it pushes the witness version and the bytes.

  Main fact: `ofHex_hex` — an address is read back from its own digits.
-/
import Custody.Json.Record

namespace Custody

/-- A key hash or a witness program. -/
structure RedemptionAddress where
  bytes : List UInt8
  length_valid : bytes.length = 20 ∨ bytes.length = 32
deriving DecidableEq

namespace RedemptionAddress

instance : Repr RedemptionAddress := ⟨fun a _ => repr a.bytes⟩

/-- The address in hexadecimal. -/
def hex (a : RedemptionAddress) : String := Hex.encode a.bytes

instance : ToString RedemptionAddress := ⟨hex⟩

/-- The address of a hexadecimal text, or the reason why it is none. -/
def ofHex (text : String) : Except String RedemptionAddress :=
  match Hex.decode text with
  | .error fault => .error s!"invalid hex: {fault.message}"
  | .ok bytes =>
    if h : bytes.length = 20 ∨ bytes.length = 32 then .ok ⟨bytes, h⟩
    else .error s!"redemption address must be 20 or 32 bytes, got {bytes.length}"

/-- An address is read back from its digits. -/
theorem ofHex_hex (a : RedemptionAddress) : ofHex a.hex = .ok a := by
  simp [ofHex, hex, Hex.decode_encode, a.length_valid]

/-- The script that pays the address: version zero for a key hash, one for a program. -/
def outputScript (a : RedemptionAddress) : List UInt8 :=
  let version : UInt8 := if a.bytes.length = 20 then 0x00 else 0x51
  version :: UInt8.ofNat a.bytes.length :: a.bytes

instance : ToJson RedemptionAddress := ⟨fun a => .text a.hex⟩
instance : FromJson RedemptionAddress where
  fromJson? j := j.text?.bind fun text => (ofHex text).toOption

end RedemptionAddress

end Custody
