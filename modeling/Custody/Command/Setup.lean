/-
  Custody.Command.Setup
  ────────────────────────────────
  **WALLETS AND VAULTS ARE SET UP.**

  A wallet is registered once and then moved from stage to stage; a vault is
  trusted or not.  Moving a wallet to the stage it is in reports nothing.

  Main facts:
    * `registerWallet_eq_error_iff` — registering fails for known wallets only;
    * `setWalletState_eq_error_iff` — moving fails for unknown wallets only.
-/
import Custody.State

namespace Custody

/-! ## §1. Faults. -/

/-- Why a wallet cannot be set up. -/
inductive WalletFault where
  | unknownWallet (wallet : PubKeyHash)
  | alreadyRegistered (wallet : PubKeyHash)
deriving DecidableEq, Repr

namespace WalletFault

/-- The wording of a fault. -/
def message : WalletFault → String
  | .unknownWallet wallet => s!"wallet {wallet} is not registered"
  | .alreadyRegistered wallet => s!"wallet {wallet} is already registered"

/-- The code of a fault. -/
def code : WalletFault → String
  | .unknownWallet _ => "UNKNOWN_WALLET"
  | .alreadyRegistered _ => "WALLET_ALREADY_REGISTERED"

/-- The category of a fault. -/
def category : WalletFault → Category
  | .unknownWallet _ => .notFound
  | .alreadyRegistered _ => .precondition

end WalletFault

namespace State

/-! ## §2. Commands. -/

/-- Registers a wallet. -/
def registerWallet (s : State) (wallet : PubKeyHash) (stage : WalletState) :
    Except WalletFault (Transition Unit) :=
  if s.wallets.contains wallet then .error (.alreadyRegistered wallet)
  else .ok {
    state := { s with wallets := s.wallets.insert wallet ⟨wallet, stage, none⟩ }
    events := [.walletRegistered wallet stage]
    ledgerOps := []
    output := () }

/-- Moves a wallet to another stage. -/
def setWalletState (s : State) (wallet : PubKeyHash) (stage : WalletState) :
    Except WalletFault (Transition Unit) :=
  match s.wallets.get? wallet with
  | none => .error (.unknownWallet wallet)
  | some row => .ok {
      state := { s with wallets := s.wallets.insert wallet { row with state := stage } }
      events := if row.state = stage then [] else [.walletStateChanged wallet row.state stage]
      ledgerOps := []
      output := () }

/-- Says whether a vault is trusted. -/
def setVaultStatus (s : State) (vault : Identity) (trusted : Bool) : Transition Unit where
  state := { s with vaults := s.vaults.insert vault trusted }
  events := [.vaultStatusUpdated vault trusted]
  ledgerOps := []
  output := ()

/-! ## §3. When they fail. -/

/-- Registering a wallet fails exactly if it is known. -/
theorem registerWallet_eq_error_iff (s : State) (wallet : PubKeyHash) (stage : WalletState) :
    (∃ fault, s.registerWallet wallet stage = .error fault) ↔
      (s.wallets.get? wallet).isSome := by
  unfold registerWallet Table.contains
  split <;> simp_all

/-- Moving a wallet to a stage fails exactly if the wallet is unknown. -/
theorem setWalletState_eq_error_iff (s : State) (wallet : PubKeyHash) (stage : WalletState) :
    (∃ fault, s.setWalletState wallet stage = .error fault) ↔ s.wallets.get? wallet = none := by
  unfold setWalletState
  split <;> simp_all

end State

end Custody
