/-
  Custody.Proofs.Money
  ────────────────────────────────
  **WHAT A BATCH DOES TO THE MONEY OF SOME ACCOUNTS.**

  Money is counted over a set of accounts, given by a test: all of them for
  the supply, one of them for a balance.  A credit adds to it what it gives to
  an account of the set, a debit takes away, and a run of moves adds up.  What
  is proved once about moves then holds of the supply and of every balance.

  Main facts:
    * `heldBy_runMoves`   — money after, plus debits, is money before, plus credits;
    * `heldBy_applyBatch` — the same of a batch that was applied;
    * `totalSupply_eq`, `heldBy_one` — the supply and a balance are such counts;
    * `applyBatch_keeps`  — no account loses its entry.
-/
import Custody.Ledger
import Custody.Proofs.Tables

namespace Custody

/-! ## §1. Money of a set of accounts. -/

/-- What the accounts of a set hold together. -/
def Balances.heldBy (accounts : Identity → Bool) (balances : Balances) : Nat :=
  balances.sumBy fun account balance => if accounts account then balance.toNat else 0

/-- What a move gives to the accounts of a set. -/
def Move.gain (accounts : Identity → Bool) : Move → Nat
  | .credit account amount => if accounts account then amount.toNat else 0
  | .debit .. | .refuse _ => 0

/-- What a move takes from the accounts of a set. -/
def Move.loss (accounts : Identity → Bool) : Move → Nat
  | .debit account amount => if accounts account then amount.toNat else 0
  | .credit .. | .refuse _ => 0

namespace Balances

/-- An account without a row has nothing. -/
theorem of_eq_getD (balances : Balances) (account : Identity) :
    balances.of account = (balances.get? account).getD 0 := rfl

/-- The money of a set after the balance of one account was written anew. -/
theorem heldBy_insert (accounts : Identity → Bool) (balances : Balances) (account : Identity)
    (balance : UInt64) :
    Balances.heldBy accounts (balances.insert account balance)
        + (if accounts account then (balances.of account).toNat else 0)
      = balances.heldBy accounts + (if accounts account then balance.toNat else 0) := by
  unfold heldBy
  cases found : balances.get? account with
  | none =>
    -- An account without an entry holds nothing.
    have := Table.sumBy_insert_of_none (fun a x => if accounts a then x.toNat else 0) balance found
    rw [this, of_eq_getD, found]
    simp
  | some old =>
    have := Table.sumBy_insert_of_some (fun a x => if accounts a then x.toNat else 0) balance found
    rw [of_eq_getD, found]
    exact this

/-- One account holds its balance. -/
theorem heldBy_one (balances : Balances) (account : Identity) :
    balances.heldBy (· == account) = (balances.of account).toNat := by
  -- With its balance written as zero, the account holds nothing, and that was all there was.
  have retold := heldBy_insert (· == account) balances account 0
  have nothing : Balances.heldBy (· == account) (balances.insert account 0) = 0 := by
    unfold heldBy
    rw [Table.sumBy_congr (g := fun _ _ => 0), Table.sumBy, sumOver_zero]
    intro other x found
    by_cases same : other = account
    · subst same
      rw [Table.get?_insert_self] at found
      cases found
      simp
    · simp [same]
  rw [nothing] at retold
  simpa using retold.symm

end Balances

/-! ## §2. Moves. -/

/-- A move that is made changes what some accounts hold by what they gain and lose in it. -/
theorem Move.heldBy_make {move : Move} {balances next : Balances} (accounts : Identity → Bool)
    (h : move.make balances = .ok next) :
    next.heldBy accounts + move.loss accounts = balances.heldBy accounts + move.gain accounts := by
  cases move with
  | credit account amount =>
    simp only [make] at h
    split at h
    case h_2 => cases h
    case h_1 balance sum =>
      cases h
      have sum := Word.add?_eq_some_iff.mp sum
      have retold := Balances.heldBy_insert accounts balances account balance
      by_cases inside : accounts account
      · simp only [gain, loss, if_pos inside] at retold ⊢
        omega
      · simp only [gain, loss, if_neg inside] at retold ⊢
        omega
  | debit account amount =>
    simp only [make] at h
    split at h
    case h_2 => cases h
    case h_1 balance rest =>
      cases h
      have rest := Word.sub?_eq_some_iff.mp rest
      have retold := Balances.heldBy_insert accounts balances account balance
      by_cases inside : accounts account
      · simp only [gain, loss, if_pos inside] at retold ⊢
        omega
      · simp only [gain, loss, if_neg inside] at retold ⊢
        omega
  | refuse fault => cases h

/-- **Money after a run of moves**: what was taken is missing, and what was given is there. -/
theorem heldBy_runMoves {balances next : Balances} {moves : List Move}
    (accounts : Identity → Bool) (h : runMoves balances moves = (next, none)) :
    next.heldBy accounts + sumOver (Move.loss accounts) moves
      = balances.heldBy accounts + sumOver (Move.gain accounts) moves := by
  induction moves generalizing balances with
  | nil =>
    cases h
    simp
  | cons move rest ih =>
    simp only [runMoves] at h
    split at h
    case h_2 => cases h
    case h_1 between made =>
      have first := Move.heldBy_make accounts made
      have others := ih h
      simp only [sumOver_cons]
      omega

theorem Move.keeps_make {move : Move} {balances next : Balances}
    (h : move.make balances = .ok next) : balances.Keeps next := by
  cases move with
  | credit account amount =>
    simp only [make] at h
    split at h
    · cases h
      exact Table.keeps_insert balances account _
    · cases h
  | debit account amount =>
    simp only [make] at h
    split at h
    · cases h
      exact Table.keeps_insert balances account _
    · cases h
  | refuse fault => cases h

theorem runMoves_keeps {balances next : Balances} {moves : List Move}
    (h : runMoves balances moves = (next, none)) : balances.Keeps next := by
  induction moves generalizing balances with
  | nil =>
    cases h
    exact Table.Keeps.refl _
  | cons move rest ih =>
    simp only [runMoves] at h
    split at h
    case h_2 => cases h
    case h_1 between made => exact (Move.keeps_make made).trans (ih h)

/-- The balances after one was written anew. -/
theorem Balances.of_insert (balances : Balances) (account other : Identity) (balance : UInt64) :
    Balances.of (balances.insert account balance) other
      = if other = account then balance else balances.of other := by
  unfold Balances.of
  rw [Table.get?_insert_eq]
  split <;> rfl

/-- A debit goes on where there is enough, and else stops the run. -/
theorem runMoves_debit (balances : Balances) (account : Identity) (amount : UInt64)
    (rest : List Move) :
    (∃ balance, (balances.of account).toNat = amount.toNat + balance.toNat ∧
      runMoves balances (.debit account amount :: rest)
        = runMoves (balances.insert account balance) rest) ∨
    ((balances.of account).toNat < amount.toNat ∧
      runMoves balances (.debit account amount :: rest)
        = (balances, some (.insufficient account (balances.of account) amount))) := by
  cases left : Word.sub? (balances.of account) amount with
  | some balance =>
    have made : Move.make balances (.debit account amount)
        = .ok (balances.insert account balance) := by simp only [Move.make, left]
    exact .inl ⟨balance, Word.sub?_eq_some_iff.mp left, by rw [runMoves, made]⟩
  | none =>
    have made : Move.make balances (.debit account amount)
        = .error (.insufficient account (balances.of account) amount) := by
      simp only [Move.make, left]
    refine .inr ⟨?_, by rw [runMoves, made]⟩
    unfold Word.sub? at left
    split at left
    case isTrue => cases left
    case isFalse short =>
      have := mt UInt64.le_iff_toNat_le.mpr short
      omega

/-- A credit goes on where the sum fits, and else stops the run. -/
theorem runMoves_credit (balances : Balances) (account : Identity) (amount : UInt64)
    (rest : List Move) :
    (∃ balance, (balances.of account).toNat + amount.toNat = balance.toNat ∧
      runMoves balances (.credit account amount :: rest)
        = runMoves (balances.insert account balance) rest) ∨
    (UInt64.size ≤ (balances.of account).toNat + amount.toNat ∧
      runMoves balances (.credit account amount :: rest)
        = (balances, some (.overflow account))) := by
  cases sum : Word.add? (balances.of account) amount with
  | some balance =>
    have made : Move.make balances (.credit account amount)
        = .ok (balances.insert account balance) := by simp only [Move.make, sum]
    exact .inl ⟨balance, Word.add?_eq_some_iff.mp sum, by rw [runMoves, made]⟩
  | none =>
    have made : Move.make balances (.credit account amount) = .error (.overflow account) := by
      simp only [Move.make, sum]
    refine .inr ⟨?_, by rw [runMoves, made]⟩
    unfold Word.add? at sum
    split at sum
    case isTrue => cases sum
    case isFalse large => omega

/-! ## §3. Batches. -/

namespace Ledger

/-- The moves of a batch. -/
def batchMoves (bridge : Identity) (ops : List LedgerOp) : List Move := ops.flatMap (moves bridge)

/-- What a batch gives to the accounts of a set. -/
def gained (bridge : Identity) (accounts : Identity → Bool) (ops : List LedgerOp) : Nat :=
  sumOver (Move.gain accounts) (batchMoves bridge ops)

/-- What a batch takes from the accounts of a set. -/
def lost (bridge : Identity) (accounts : Identity → Bool) (ops : List LedgerOp) : Nat :=
  sumOver (Move.loss accounts) (batchMoves bridge ops)

/-- A batch is applied exactly if all its moves go through, and to what they leave. -/
theorem applyBatch_eq_ok_iff (ledger next : Ledger) (ops : List LedgerOp) :
    ledger.applyBatch ops = .ok next ↔
      next.bridge = ledger.bridge ∧
        runMoves ledger.balances (batchMoves ledger.bridge ops) = (next.balances, none) := by
  unfold applyBatch settle batchMoves
  obtain ⟨bridge, balances⟩ := next
  generalize runMoves ledger.balances (ops.flatMap (moves ledger.bridge)) = run
  obtain ⟨after, fault⟩ := run
  cases fault with
  | none => simp [Except.map, eq_comm]
  | some fault => simp [Except.map]

/-- A batch is refused exactly with the fault of the first move that fails. -/
theorem applyBatch_eq_error_iff (ledger : Ledger) (ops : List LedgerOp) (fault : LedgerFault) :
    ledger.applyBatch ops = .error fault ↔
      (runMoves ledger.balances (batchMoves ledger.bridge ops)).2 = some fault := by
  unfold applyBatch settle batchMoves
  generalize runMoves ledger.balances (ops.flatMap (moves ledger.bridge)) = run
  obtain ⟨after, stopped⟩ := run
  cases stopped with
  | none => simp [Except.map]
  | some other => simp [Except.map]

/-- A preview fails exactly as the batch would. -/
theorem preview_eq_error_iff (ledger : Ledger) (ops : List LedgerOp) (fault : LedgerFault) :
    ledger.preview ops = .error fault ↔ ledger.applyBatch ops = .error fault := by
  unfold preview applyBatch
  cases ledger.settle ops with
  | error other => simp [Except.map]
  | ok balances => simp [Except.map]

/-- A batch changes what some accounts hold by what they gain and lose in it. -/
theorem heldBy_applyBatch {ledger next : Ledger} {ops : List LedgerOp}
    (accounts : Identity → Bool) (h : ledger.applyBatch ops = .ok next) :
    next.balances.heldBy accounts + lost ledger.bridge accounts ops
      = ledger.balances.heldBy accounts + gained ledger.bridge accounts ops :=
  heldBy_runMoves accounts ((applyBatch_eq_ok_iff ..).mp h).2

theorem applyBatch_keeps {ledger next : Ledger} {ops : List LedgerOp}
    (h : ledger.applyBatch ops = .ok next) : ledger.balances.Keeps next.balances :=
  runMoves_keeps ((applyBatch_eq_ok_iff ..).mp h).2

/-- The supply is what all accounts hold. -/
theorem totalSupply_eq (ledger : Ledger) :
    ledger.totalSupply = ledger.balances.heldBy fun _ => true := by
  unfold totalSupply Balances.heldBy Table.sumBy Table.values
  induction ledger.balances.rows with
  | nil => rfl
  | cons row rest ih =>
    rw [List.map_cons, List.foldr_cons, sumOver_cons, ih]
    rfl

/-- A batch changes the supply by what all accounts gain and lose in it. -/
theorem totalSupply_applyBatch {ledger next : Ledger} {ops : List LedgerOp}
    (h : ledger.applyBatch ops = .ok next) :
    next.totalSupply + lost ledger.bridge (fun _ => true) ops
      = ledger.totalSupply + gained ledger.bridge (fun _ => true) ops := by
  rw [totalSupply_eq, totalSupply_eq]
  exact heldBy_applyBatch _ h

/-- A batch changes a balance by what the account gains and loses in it. -/
theorem balanceOf_applyBatch {ledger next : Ledger} {ops : List LedgerOp} (account : Identity)
    (h : ledger.applyBatch ops = .ok next) :
    (next.balanceOf account).toNat + lost ledger.bridge (· == account) ops
      = (ledger.balanceOf account).toNat + gained ledger.bridge (· == account) ops := by
  have := heldBy_applyBatch (· == account) h
  rw [Balances.heldBy_one, Balances.heldBy_one] at this
  exact this

/-! ## §4. What each operation gives and takes. -/

@[simp] theorem gained_nil (bridge : Identity) (accounts : Identity → Bool) :
    gained bridge accounts [] = 0 := rfl

@[simp] theorem lost_nil (bridge : Identity) (accounts : Identity → Bool) :
    lost bridge accounts [] = 0 := rfl

theorem gained_append (bridge : Identity) (accounts : Identity → Bool) (xs ys : List LedgerOp) :
    gained bridge accounts (xs ++ ys) = gained bridge accounts xs + gained bridge accounts ys := by
  rw [gained, batchMoves, List.flatMap_append, sumOver_append]
  rfl

theorem lost_append (bridge : Identity) (accounts : Identity → Bool) (xs ys : List LedgerOp) :
    lost bridge accounts (xs ++ ys) = lost bridge accounts xs + lost bridge accounts ys := by
  rw [lost, batchMoves, List.flatMap_append, sumOver_append]
  rfl

end Ledger

end Custody
