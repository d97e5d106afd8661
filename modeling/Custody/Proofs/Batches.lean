/-
  Custody.Proofs.Batches
  ────────────────────────────────
  **A BATCH IS ITS OPERATIONS, AND ITS PREVIEW IS THE BATCH.**

  A batch carries its operations out one after the other and stops at the first
  that fails; then none of them has taken place.  The preview of a batch fails
  exactly where the batch does.  Else it lists what the batch leaves behind,
  and whoever puts that list over the old balances has the new ones.

  Money moves within the supply, whatever accounts coincide: only what is minted
  comes in, and only what is burned goes out.

  Main facts:
    * `applyBatch_eq_performAll` — a batch is its operations, one after the other;
    * `mem_preview_iff`          — a preview lists the entries that change;
    * `restore_preview`          — put over the old balances, it gives the new ones;
    * `totalSupply_perform`, `totalSupply_performAll` — what moves the supply;
    * `preview_agrees`           — all of this of every batch of every ledger.
-/
import Mathlib.Control.Monad.Basic
import Custody.Proofs.Money

namespace Custody

/-! ## §1. What operations mint and burn. -/

namespace LedgerOp

/-- What an operation mints. -/
def minted : LedgerOp → Nat
  | increaseBalance _ amount => amount.toNat
  | increaseBalances _ amounts => sumOver UInt64.toNat amounts
  | decreaseBalance _ | transferBalance .. | transferBalanceFrom .. => 0

/-- What an operation burns. -/
def burned : LedgerOp → Nat
  | decreaseBalance amount => amount.toNat
  | increaseBalance .. | increaseBalances .. | transferBalance .. | transferBalanceFrom .. => 0

end LedgerOp

/-- Credits to some accounts, with an amount for each. -/
theorem sumOver_credits {recipients : List Identity} {amounts : List UInt64}
    (even : recipients.length = amounts.length) :
    sumOver (Move.gain fun _ => true) (List.zipWith Move.credit recipients amounts)
        = sumOver UInt64.toNat amounts ∧
      sumOver (Move.loss fun _ => true) (List.zipWith Move.credit recipients amounts) = 0 := by
  induction recipients generalizing amounts with
  | nil =>
    cases amounts with
    | nil => exact ⟨rfl, rfl⟩
    | cons => cases even
  | cons recipient rest ih =>
    cases amounts with
    | nil => cases even
    | cons amount others =>
      obtain ⟨gain, loss⟩ := ih (Nat.succ.inj even)
      rw [List.zipWith_cons_cons, sumOver_cons, sumOver_cons, sumOver_cons, gain, loss]
      exact ⟨rfl, rfl⟩

namespace Ledger

variable {ledger next : Ledger}

/-! ## §2. One operation. -/

/-- An operation carried out whole has made all its moves. -/
theorem perform_eq_ok_iff {op : LedgerOp} :
    ledger.perform op = (next, none) ↔
      next.bridge = ledger.bridge ∧
        runMoves ledger.balances (moves ledger.bridge op) = (next.balances, none) := by
  unfold perform
  obtain ⟨bridge, balances⟩ := next
  generalize runMoves ledger.balances (moves ledger.bridge op) = run
  obtain ⟨after, fault⟩ := run
  simp [eq_comm, and_assoc]

/-- **What an operation does to the supply.** -/
theorem totalSupply_perform {op : LedgerOp} (performed : ledger.perform op = (next, none)) :
    next.totalSupply + op.burned = ledger.totalSupply + op.minted := by
  obtain ⟨-, run⟩ := perform_eq_ok_iff.mp performed
  have held := heldBy_runMoves (fun _ => true) run
  rw [totalSupply_eq, totalSupply_eq]
  cases op with
  | increaseBalance recipient amount =>
    simpa [moves, Move.gain, Move.loss, LedgerOp.minted, LedgerOp.burned] using held
  | increaseBalances recipients amounts =>
    rw [moves] at run held
    by_cases even : recipients.length = amounts.length
    · rw [if_pos even] at held
      obtain ⟨gain, loss⟩ := sumOver_credits even
      rw [gain, loss] at held
      exact held
    · -- Recipients without amounts are refused.
      rw [if_neg even] at run
      simp [runMoves, Move.make] at run
  | decreaseBalance amount =>
    simpa [moves, Move.gain, Move.loss, LedgerOp.minted, LedgerOp.burned] using held
  -- What one account loses another gains, or the same one.
  | transferBalance recipient amount =>
    simpa [moves, Move.gain, Move.loss, LedgerOp.minted, LedgerOp.burned] using held
  | transferBalanceFrom sender recipient amount =>
    simpa [moves, Move.gain, Move.loss, LedgerOp.minted, LedgerOp.burned] using held

/-! ## §3. Operations one after the other. -/

/-- Carries operations out up to the first that fails; gives the ledger then, and the fault if
any. -/
def performAll (ledger : Ledger) : List LedgerOp → Ledger × Option LedgerFault
  | [] => (ledger, none)
  | op :: rest =>
    match ledger.perform op with
    | (next, none) => next.performAll rest
    | (next, some fault) => (next, some fault)

/-- A batch is performed as its moves are run, and fails where they do. -/
theorem performAll_eq (ledger : Ledger) (ops : List LedgerOp) :
    ledger.performAll ops =
      ({ ledger with balances := (runMoves ledger.balances (batchMoves ledger.bridge ops)).1 },
        (runMoves ledger.balances (batchMoves ledger.bridge ops)).2) := by
  induction ops generalizing ledger with
  | nil => rfl
  | cons op rest ih =>
    rw [performAll, perform, batchMoves, List.flatMap_cons, runMoves_append]
    generalize runMoves ledger.balances (moves ledger.bridge op) = run
    obtain ⟨balances, fault⟩ := run
    cases fault with
    | none => exact ih _
    | some fault => rfl

/-- **A batch is its operations, one after the other, all of them or none.** -/
theorem applyBatch_eq_performAll (ledger : Ledger) (ops : List LedgerOp) :
    ledger.applyBatch ops =
      match ledger.performAll ops with
      | (next, none) => .ok next
      | (_, some fault) => .error fault := by
  rw [performAll_eq, applyBatch, settle, batchMoves]
  generalize runMoves ledger.balances (ops.flatMap (moves ledger.bridge)) = run
  obtain ⟨balances, fault⟩ := run
  cases fault with
  | none => rfl
  | some fault => rfl

/-- **What operations do to the supply**: it grows by what they mint and loses what they burn. -/
theorem totalSupply_performAll {ops : List LedgerOp}
    (performed : ledger.performAll ops = (next, none)) :
    next.totalSupply + sumOver LedgerOp.burned ops
      = ledger.totalSupply + sumOver LedgerOp.minted ops := by
  induction ops generalizing ledger with
  | nil =>
    cases performed
    rfl
  | cons op rest ih =>
    rw [performAll] at performed
    split at performed
    case h_1 between first =>
      have one := totalSupply_perform first
      have others := ih performed
      rw [sumOver_cons, sumOver_cons]
      omega
    case h_2 => cases performed

/-! ## §4. Previews. -/

/-- A preview lists the accounts whose entry the batch changes, each with its balance then. -/
theorem mem_preview_iff {ops : List LedgerOp} {account : Identity} {balance : UInt64}
    (applied : ledger.applyBatch ops = .ok next) :
    (account, balance) ∈ ledger.balances.changed next.balances ↔
      next.balances.get? account ≠ ledger.balances.get? account ∧
        balance = next.balanceOf account := by
  rw [Table.mem_changed_iff, balanceOf, Balances.of]
  constructor
  · rintro ⟨now, differ⟩
    rw [now]
    exact ⟨differ.symm, rfl⟩
  · rintro ⟨differ, rfl⟩
    cases now : next.balances.get? account with
    | some other =>
      rw [now] at differ
      exact ⟨rfl, differ.symm⟩
    | none =>
      -- No account loses its entry, so this one had none, and nothing changed.
      have before : ledger.balances.get? account = none := by
        refine Option.not_isSome_iff_eq_none.mp fun known => ?_
        have := applyBatch_keeps applied account known
        rw [now] at this
        cases this
      exact absurd (now.trans before.symm) differ

/-- **Put over the old balances, a preview gives the new ones.** -/
theorem restore_preview {ops : List LedgerOp} (applied : ledger.applyBatch ops = .ok next) :
    ledger.restore (ledger.balances.changed next.balances) = next := by
  obtain ⟨same, -⟩ := (applyBatch_eq_ok_iff ..).mp applied
  rw [restore, Table.insertAll_changed (applyBatch_keeps applied), ← same]

/-- The ledger after a batch was asked for. -/
def afterBatch (ledger : Ledger) (ops : List LedgerOp) : Ledger :=
  match ledger.applyBatch ops with
  | .ok next => next
  | .error _ => ledger

/-- **The preview of a batch and the batch agree, and the supply moves only by mints and burns.**
A batch is its operations one after the other; it is refused with the fault of its preview, and
then nothing has changed.  Else the preview lists in order the accounts whose entries change, with
their balances after the batch, and is enough to find all balances. -/
theorem preview_agrees (ledger : Ledger) (ops : List LedgerOp) :
    (ledger.applyBatch ops =
      match ledger.performAll ops with
      | (next, none) => .ok next
      | (_, some fault) => .error fault) ∧
    (∀ fault, ledger.preview ops = .error fault ↔ ledger.applyBatch ops = .error fault) ∧
    (∀ fault, ledger.applyBatch ops = .error fault → ledger.afterBatch ops = ledger) ∧
    ∀ changes, ledger.preview ops = .ok changes →
      ledger.applyBatch ops = .ok (ledger.afterBatch ops) ∧
      Ascending changes ∧
      (∀ account balance, (account, balance) ∈ changes ↔
        (ledger.afterBatch ops).balances.get? account ≠ ledger.balances.get? account ∧
          balance = (ledger.afterBatch ops).balanceOf account) ∧
      (∀ account,
        (ledger.restore changes).balanceOf account = (ledger.afterBatch ops).balanceOf account) ∧
      (ledger.afterBatch ops).totalSupply + sumOver LedgerOp.burned ops
        = ledger.totalSupply + sumOver LedgerOp.minted ops := by
  refine ⟨applyBatch_eq_performAll ledger ops, preview_eq_error_iff ledger ops, ?_, ?_⟩
  · intro fault refused
    rw [afterBatch, refused]
  · intro changes previewed
    obtain ⟨next, applied, rfl⟩ := (preview_eq_ok_iff ..).mp previewed
    have after : ledger.afterBatch ops = next := by rw [afterBatch, applied]
    rw [after]
    refine ⟨applied, next.balances.ascending.filter _, fun _ _ => mem_preview_iff applied, ?_, ?_⟩
    · intro account
      rw [restore_preview applied]
    · have performed := applyBatch_eq_performAll ledger ops
      rw [applied] at performed
      split at performed
      case h_1 other whole =>
        cases performed
        exact totalSupply_performAll whole
      case h_2 => cases performed

end Ledger

namespace Sample

/-- A ledger of two accounts, of which one is the bridge. -/
def till : Ledger := ⟨⟨"bridge"⟩, Table.ofList [(⟨"alice"⟩, 5), (⟨"bridge"⟩, 10)]⟩

/-- A batch in which accounts coincide: a transfer of an account to itself, an account that is
credited twice, the bridge as recipient, and a credit of nothing. -/
def mixed : List LedgerOp := [
  .transferBalanceFrom ⟨"alice"⟩ ⟨"alice"⟩ 5,
  .increaseBalances [⟨"bob"⟩, ⟨"bob"⟩, ⟨"bridge"⟩] [1, 2, 3],
  .transferBalance ⟨"bridge"⟩ 13,
  .increaseBalance ⟨"carol"⟩ 0,
  .decreaseBalance 4]

/-- What it changes. -/
def entries : List (Identity × UInt64) := [(⟨"bob"⟩, 3), (⟨"bridge"⟩, 9), (⟨"carol"⟩, 0)]

/-- A batch that fails after its first operation. -/
def tooMuch : List LedgerOp := [.increaseBalance ⟨"bob"⟩ 1, .decreaseBalance 11]

end Sample

/-- The mixed batch mints 6 and burns 4; the other one is refused and leaves nothing behind. -/
theorem preview_agrees_sample :
    Sample.till.preview Sample.mixed = .ok Sample.entries ∧
    (∀ account, (Sample.till.restore Sample.entries).balanceOf account
      = (Sample.till.afterBatch Sample.mixed).balanceOf account) ∧
    (Sample.till.afterBatch Sample.mixed).totalSupply + 4 = Sample.till.totalSupply + 6 ∧
    Sample.till.applyBatch Sample.tooMuch = .error (.insufficient ⟨"bridge"⟩ 10 11) ∧
    Sample.till.afterBatch Sample.tooMuch = Sample.till := by
  have previewed : Sample.till.preview Sample.mixed = .ok Sample.entries := by decide +kernel
  have refused : Sample.till.applyBatch Sample.tooMuch
      = .error (.insufficient ⟨"bridge"⟩ 10 11) := by decide +kernel
  obtain ⟨-, -, -, exact_preview⟩ := Ledger.preview_agrees Sample.till Sample.mixed
  obtain ⟨-, -, -, restored, supply⟩ := exact_preview Sample.entries previewed
  obtain ⟨-, -, unchanged, -⟩ := Ledger.preview_agrees Sample.till Sample.tooMuch
  exact ⟨previewed, restored, supply, refused, unchanged _ refused⟩

end Custody
