/-
  Custody.Wallet
  ────────────────────────────────
  **CUSTODIAL WALLETS.**

  A wallet is known by the hash of its key.  It holds all that was swept into
  it in one output, its main output; the wallet keeps only a digest of it, and
  whoever spends it names it in full.
-/
import Custody.Tx

namespace Custody

/-! ## §1. Life of a wallet. -/

/-- The stages of a wallet's life. -/
inductive WalletState where
  | unknown
  | live
  | movingFunds
  | closing
  | closed
  | terminated
deriving DecidableEq, Repr, Inhabited

namespace WalletState

/-- Every stage. -/
def all : List WalletState := [unknown, live, movingFunds, closing, closed, terminated]

/-- The name of a stage. -/
def name : WalletState → String
  | unknown => "unknown"
  | live => "live"
  | movingFunds => "moving_funds"
  | closing => "closing"
  | closed => "closed"
  | terminated => "terminated"

instance : ToString WalletState := ⟨name⟩

/-- The stage of a name. -/
def ofName? (text : String) : Option WalletState := all.find? fun state => state.name == text

/-- Why a text is no stage. -/
def unknownName (text : String) : String := s!"unknown wallet state: {text}"

/-- A stage is read back from its name. -/
theorem ofName?_name (state : WalletState) : ofName? state.name = some state := by
  cases state <;> decide

/-- Deposits are revealed to live wallets only. -/
def acceptsDeposits : WalletState → Bool
  | live => true
  | _ => false

/-- Sweeps are settled for wallets that are live or moving their funds. -/
def acceptsSweeps : WalletState → Bool
  | live | movingFunds => true
  | _ => false

instance : ToJson WalletState := ⟨fun state => .text state.name⟩
instance : FromJson WalletState where
  fromJson? j := j.symbol?.bind ofName?

end WalletState

/-! ## §2. The main output. -/

/-- The one output that holds a wallet's balance. -/
structure MainOutput where
  txHash : TxHash
  index : UInt32
  value : UInt64
deriving DecidableEq, Repr

namespace MainOutput

/-- The digest that a wallet keeps of its main output. -/
def hash (o : MainOutput) : Digest :=
  sha256 (o.txHash.bytes ++ Word.bigEndian 4 o.index.toNat ++ Word.bigEndian 8 o.value.toNat)

/-- The outpoint of a main output. -/
def outpoint (o : MainOutput) : Outpoint := ⟨o.txHash, o.index⟩

instance : ToJson MainOutput where
  toJson o := .object [
    ("tx_hash", toJson o.txHash),
    ("output_index", toJson o.index),
    ("value", toJson o.value)]

instance : FromJson MainOutput where
  fromJson? j := do
    let r ← j.record? ["tx_hash", "output_index", "value"] 0
    return {
      txHash := ← r.field "tx_hash"
      index := ← r.field "output_index"
      value := ← r.field "value" }

end MainOutput

/-! ## §3. Wallets. -/

/-- A wallet: its stage and the digest of its main output, once it has one. -/
structure Wallet where
  keyHash : PubKeyHash
  state : WalletState
  mainOutputHash : Option Digest
deriving DecidableEq, Repr

namespace Wallet

instance : ToJson Wallet where
  toJson w := .object [
    ("pubkey_hash", toJson w.keyHash),
    ("state", toJson w.state),
    ("main_utxo_hash", toJson w.mainOutputHash)]

/-- The digest of the main output may be null, but it may not be left out. -/
instance : FromJson Wallet where
  fromJson? j := do
    let r ← j.record? ["pubkey_hash", "state", "main_utxo_hash"] 0
    return {
      keyHash := ← r.field "pubkey_hash"
      state := ← r.field "state"
      mainOutputHash := ← r.field "main_utxo_hash" }

end Wallet

end Custody
