/-
  Custody.Command
  ────────────────────────────────
  **COMMANDS AS VALUES.**

  Everything that a service can be told to do, as one type, so that a run of
  commands is a list.  Carrying a command out answers with a receipt, which
  holds what the operation behind the command tells its caller.

  Main fact: `execute_log_prefix` — whatever the command, the log only grows.
-/
import Custody.Service

namespace Custody

/-! ## §1. Commands and receipts. -/

/-- What a service can be told to do. -/
inductive Command where
  | registerWallet (wallet : PubKeyHash) (state : WalletState)
  | setWalletState (wallet : PubKeyHash) (state : WalletState)
  | setVaultStatus (vault : Identity) (trusted : Bool)
  | reveal (depositor : Identity) (request : RevealRequest)
  | reserve (depositor : Identity) (request : ReserveRequest)
  | settleSweep (relayer : Identity) (request : SweepRequest)
  | redeem (redeemer : Identity) (key : DepositKey)
  | liquidate (liquidator : Identity) (key : DepositKey)
deriving DecidableEq, Repr

/-- What the caller of an accepted command is told. -/
inductive Receipt where
  /-- Wallet and vault are set up as asked. -/
  | done
  /-- A deposit is kept under a key. -/
  | revealed (key : DepositKey)
  | reserved (reservation : Reservation)
  | settled (outcome : SweepOutcome)
  | redeemed (redemption : PriorityRedemption)
  /-- A bonus is paid. -/
  | liquidated (bonus : UInt64)
deriving DecidableEq, Repr

variable {σ α β : Type}

/-- The outcome with another answer. -/
def Outcome.map (f : α → β) (out : Outcome σ α) : Outcome σ β where
  result := out.result.map f
  service := out.service
  store := out.store
  journal := out.journal

/-! ## §2. Carrying them out. -/

namespace Service

variable [Store σ]

/-- Carries a command out. -/
def execute (service : Service) (store : σ) (env : Circumstances) : Command → Outcome σ Receipt
  | .registerWallet wallet state =>
    (service.registerWallet store env wallet state).map fun _ => .done
  | .setWalletState wallet state =>
    (service.setWalletState store env wallet state).map fun _ => .done
  | .setVaultStatus vault trusted =>
    (service.setVaultStatus store env vault trusted).map fun _ => .done
  | .reveal depositor request => (service.reveal store env depositor request).map .revealed
  | .reserve depositor request => (service.reserve store env depositor request).map .reserved
  | .settleSweep relayer request => (service.settleSweep store env relayer request).map .settled
  | .redeem redeemer key => (service.redeem store env redeemer key).map .redeemed
  | .liquidate liquidator key => (service.liquidate store env liquidator key).map .liquidated

/-- The log after a proposal was carried out starts with the log before it. -/
theorem carryOut_log_prefix (service : Service) (store : σ) (env : Circumstances)
    (command : String) (caller : Option Identity) (proposal : Except Fault (Transition α)) :
    service.log.events <+:
      (service.carryOut store env command caller proposal).service.log.events := by
  unfold carryOut
  split
  · exact List.prefix_refl _
  · unfold commit
    split
    · exact List.prefix_refl _
    · dsimp only
      split
      · exact List.prefix_refl _
      · unfold follow
        dsimp only
        split <;> exact List.prefix_append _ _

/-- Whatever becomes of a command, the log only grows, and at its end. -/
theorem execute_log_prefix (service : Service) (store : σ) (env : Circumstances)
    (command : Command) :
    service.log.events <+: (service.execute store env command).service.log.events := by
  cases command <;> exact carryOut_log_prefix ..

end Service

end Custody
