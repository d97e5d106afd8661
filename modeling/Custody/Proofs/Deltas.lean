/-
  Custody.Proofs.Deltas
  ────────────────────────────────
  **A CHANGE OF STATE IS THE ROWS THAT DIFFER.**

  The change from one state to another lists the later rows that are no earlier
  ones, and four of its six lists leave the key of a row out, as the row carries
  it.  Put over the earlier state, it lays every later row over what was there;
  rows are never taken out.  So it leads to the later state exactly if that one
  keeps all keys.

  Commands keep all keys, and leave every row under its own key.

  Main facts:
    * `applyTo_diff`        — a change lays the later rows over the earlier;
    * `applyTo_diff_eq_iff` — it leads to the later state if the keys are kept;
    * `isEmpty_diff_iff`    — it is empty if the later rows were all there;
    * `Accepted.keeps`, `Accepted.keyed` — commands keep keys, and rows under them;
    * `diff_exact`          — all of this of all states and all commands.
-/
import Custody.Proofs.Runs

namespace Custody

/-! ## §1. How two states lie to each other. -/

namespace Table

variable {κ α : Type} [Ord κ]

/-- A table is the rows of one laid over the rows of another. -/
def LaidOver (upper lower result : Table κ α) : Prop :=
  ∀ key, result.get? key = (upper.get? key).or (lower.get? key)

/-- Every row of one table is a row of another. -/
def Within (part whole : Table κ α) : Prop :=
  ∀ key x, part.get? key = some x → whole.get? key = some x

end Table

namespace State

/-- Every row stands under the key that it carries. -/
structure Keyed (s : State) : Prop where
  deposit : ∀ key d, s.deposits.get? key = some d → d.key = key
  reservation : ∀ key r, s.reservations.get? key = some r → r.key = key
  wallet : ∀ wallet row, s.wallets.get? wallet = some row → row.keyHash = wallet
  redemption : ∀ key owed, s.redemptions.get? key = some owed → owed.key = key

/-- Every key of a state is a key of a later one, in each table. -/
structure Keeps (before after : State) : Prop where
  deposits : before.deposits.Keeps after.deposits
  reservations : before.reservations.Keeps after.reservations
  wallets : before.wallets.Keeps after.wallets
  index : before.index.Keeps after.index
  redemptions : before.redemptions.Keeps after.redemptions
  vaults : before.vaults.Keeps after.vaults

/-- A state is the rows of one laid over the rows of another, in each table. -/
structure LaidOver (upper lower result : State) : Prop where
  deposits : upper.deposits.LaidOver lower.deposits result.deposits
  reservations : upper.reservations.LaidOver lower.reservations result.reservations
  wallets : upper.wallets.LaidOver lower.wallets result.wallets
  index : upper.index.LaidOver lower.index result.index
  redemptions : upper.redemptions.LaidOver lower.redemptions result.redemptions
  vaults : upper.vaults.LaidOver lower.vaults result.vaults

/-- Every row of one state is a row of another, in each table. -/
structure Within (part whole : State) : Prop where
  deposits : part.deposits.Within whole.deposits
  reservations : part.reservations.Within whole.reservations
  wallets : part.wallets.Within whole.wallets
  index : part.index.Within whole.index
  redemptions : part.redemptions.Within whole.redemptions
  vaults : part.vaults.Within whole.vaults

/-- In a standing state every row carries the key under which it is kept. -/
theorem Standing.keyed {s : State} (standing : s.Standing) : s.Keyed where
  deposit key := (standing.held key).keyed.deposit
  reservation key := (standing.held key).keyed.reservation
  wallet := standing.wallet_key
  redemption key := (standing.held key).keyed.redemption

/-! ## §2. The change from one state to another. -/

variable {before after : State}

/-- Rows that carry their keys are put back under them. -/
theorem applyTo_diff_tables (keyed : after.Keyed) :
    (before.diff after).applyTo before = {
      deposits := before.deposits.insertAll (before.deposits.changed after.deposits)
      reservations :=
        before.reservations.insertAll (before.reservations.changed after.reservations)
      wallets := before.wallets.insertAll (before.wallets.changed after.wallets)
      index := before.index.insertAll (before.index.changed after.index)
      redemptions := before.redemptions.insertAll (before.redemptions.changed after.redemptions)
      vaults := before.vaults.insertAll (before.vaults.changed after.vaults) } := by
  unfold Delta.applyTo diff
  dsimp only
  rw [Table.rekey_changed keyed.deposit, Table.rekey_changed keyed.reservation,
    Table.rekey_changed keyed.wallet, Table.rekey_changed keyed.redemption]

/-- **A change lays the later rows over the earlier ones.** -/
theorem applyTo_diff (keyed : after.Keyed) :
    after.LaidOver before ((before.diff after).applyTo before) := by
  rw [applyTo_diff_tables keyed]
  exact ⟨Table.get?_insertAll_changed _ _, Table.get?_insertAll_changed _ _,
    Table.get?_insertAll_changed _ _, Table.get?_insertAll_changed _ _,
    Table.get?_insertAll_changed _ _, Table.get?_insertAll_changed _ _⟩

/-- **A change leads to the later state exactly if that state keeps all keys.** -/
theorem applyTo_diff_eq_iff (keyed : after.Keyed) :
    (before.diff after).applyTo before = after ↔ before.Keeps after := by
  rw [applyTo_diff_tables keyed]
  constructor
  · intro leads
    exact ⟨Table.insertAll_changed_eq_iff.mp (congrArg State.deposits leads),
      Table.insertAll_changed_eq_iff.mp (congrArg State.reservations leads),
      Table.insertAll_changed_eq_iff.mp (congrArg State.wallets leads),
      Table.insertAll_changed_eq_iff.mp (congrArg State.index leads),
      Table.insertAll_changed_eq_iff.mp (congrArg State.redemptions leads),
      Table.insertAll_changed_eq_iff.mp (congrArg State.vaults leads)⟩
  · intro keeps
    rw [Table.insertAll_changed keeps.deposits, Table.insertAll_changed keeps.reservations,
      Table.insertAll_changed keeps.wallets, Table.insertAll_changed keeps.index,
      Table.insertAll_changed keeps.redemptions, Table.insertAll_changed keeps.vaults]

/-- **A change is empty exactly if every later row was there before.** -/
theorem isEmpty_diff_iff : (before.diff after).isEmpty = true ↔ after.Within before := by
  simp only [Delta.isEmpty, diff, Bool.and_eq_true, List.isEmpty_iff, List.map_eq_nil_iff,
    Table.changed_eq_nil_iff]
  constructor
  · rintro ⟨⟨⟨⟨⟨deposits, reservations⟩, wallets⟩, index⟩, redemptions⟩, vaults⟩
    exact ⟨deposits, reservations, wallets, index, redemptions, vaults⟩
  · rintro ⟨deposits, reservations, wallets, index, redemptions, vaults⟩
    exact ⟨⟨⟨⟨⟨deposits, reservations⟩, wallets⟩, index⟩, redemptions⟩, vaults⟩

end State

/-! ## §3. What commands keep. -/

/-- A turn keeps a deposit and a redemption. -/
theorem Turn.keeps_rows {key : DepositKey} {now : UInt64} {caller : Option Identity}
    {held next : Holding} {events : List Event} (h : Turn key now caller held events next) :
    (held.deposit.isSome → next.deposit.isSome) ∧
      (held.redemption.isSome → next.redemption.isSome) := by
  cases h with
  | idle => exact ⟨id, id⟩
  | reveal => exact ⟨fun _ => rfl, id⟩
  | reserve => exact ⟨fun _ => rfl, id⟩
  | settle => exact ⟨id, id⟩
  | activate => exact ⟨id, id⟩
  | redeem => exact ⟨id, fun _ => rfl⟩
  | liquidate =>
    refine ⟨fun known => ?_, id⟩
    rw [Option.isSome_map]
    exact known

namespace Accepted

variable {s : State} {params : Params} {env : Circumstances} {command : Command}
  {t : Transition Receipt}

/-- No command loses a wallet. -/
theorem keeps_wallets (h : Accepted s params env command t) : s.wallets.Keeps t.state.wallets := by
  cases h with
  | registerWallet => exact Table.keeps_insert s.wallets _ _
  | setWalletState => exact Table.keeps_insert s.wallets _ _
  | setVaultStatus => exact Table.Keeps.refl _
  | reveal => exact Table.Keeps.refl _
  | reserve => exact Table.Keeps.refl _
  | settleSweep proven settles =>
    cases State.settleSweep_ok_iff.mp settles with
    | mk sweepable claimed paid taken left divided capped settled =>
      rw [← (State.settleAll_frame settled).1]
      exact Table.keeps_modify _ _ _
  | redeem => exact Table.Keeps.refl _
  | liquidate => exact Table.Keeps.refl _

theorem keeps_vaults (h : Accepted s params env command t) : s.vaults.Keeps t.state.vaults := by
  cases h with
  | registerWallet => exact Table.Keeps.refl _
  | setWalletState => exact Table.Keeps.refl _
  | setVaultStatus => exact Table.keeps_insert s.vaults _ _
  | reveal => exact Table.Keeps.refl _
  | reserve => exact Table.Keeps.refl _
  | settleSweep proven settles =>
    cases State.settleSweep_ok_iff.mp settles with
    | mk sweepable claimed paid taken left divided capped settled =>
      rw [← (State.settleAll_frame settled).2.2.2]
      exact Table.Keeps.refl _
  | redeem => exact Table.Keeps.refl _
  | liquidate => exact Table.Keeps.refl _

/-- A list of reservations is only lengthened. -/
theorem lengthens (h : Accepted s params env command t) {depositor : Identity}
    {keys : List DepositKey} (found : s.index.get? depositor = some keys) :
    ∃ more, t.state.index.get? depositor = some (keys ++ more) := by
  -- At most one list moves, and it gets one key more at its end.
  rcases h.index_cases with same | ⟨r, -, -, lists, -⟩
  · exact ⟨[], by rw [same, List.append_nil, found]⟩
  · rw [lists, Table.get?_insert_eq]
    by_cases own : depositor = r.depositor
    · exact ⟨[r.key], by rw [if_pos own, ← own, found, Option.getD_some]⟩
    · exact ⟨[], by rw [if_neg own, List.append_nil, found]⟩

/-- **A command keeps the keys of every table.** -/
theorem keeps (h : Accepted s params env command t) : s.Keeps t.state where
  deposits key known := ((h.turn key).keeps_rows).1 known
  reservations key known := by
    obtain ⟨r, kept⟩ := Option.isSome_iff_exists.mp known
    obtain ⟨after, kept, -⟩ := (h.turn key).keeps_reservation kept
    exact Option.isSome_iff_exists.mpr ⟨after, kept⟩
  wallets := h.keeps_wallets
  index depositor known := by
    obtain ⟨keys, found⟩ := Option.isSome_iff_exists.mp known
    obtain ⟨more, grown⟩ := h.lengthens found
    exact Option.isSome_iff_exists.mpr ⟨keys ++ more, grown⟩
  redemptions key known := ((h.turn key).keeps_rows).2 known
  vaults := h.keeps_vaults

/-- **A command leaves every row under its own key.** -/
theorem keyed (h : Accepted s params env command t) (keyed : s.Keyed) : t.state.Keyed := by
  have held (key : DepositKey) : (t.state.holding key).Keyed key :=
    (h.turn key).keyed ⟨keyed.deposit key, keyed.reservation key, keyed.redemption key⟩
  exact ⟨fun key => (held key).deposit, fun key => (held key).reservation,
    h.wallet_key keyed.wallet, fun key => (held key).redemption⟩

end Accepted

/-- **Changes of state are exact.**  Between states with rows under their own keys, a change lays
the later rows over the earlier ones in each table; it leads to the later state exactly if that one
keeps all keys, and is empty exactly if every later row was there.  Whatever a command proposes in
such a state keeps all keys and is such a state, so its change leads to it. -/
theorem diff_exact :
    (∀ before after : State, before.Keyed → after.Keyed →
      after.LaidOver before ((before.diff after).applyTo before) ∧
      ((before.diff after).applyTo before = after ↔ before.Keeps after) ∧
      ((before.diff after).isEmpty = true ↔ after.Within before)) ∧
    ∀ (service : Service) (env : Circumstances) (command : Command) (t : Transition Receipt),
      service.state.Keyed → service.propose env command = .ok t →
      service.state.Keeps t.state ∧ t.state.Keyed ∧
        (service.state.diff t.state).applyTo service.state = t.state := by
  constructor
  · intro before after _ keyed
    exact ⟨State.applyTo_diff keyed, State.applyTo_diff_eq_iff keyed, State.isEmpty_diff_iff⟩
  · intro service env command t keyed proposed
    have accepted := Service.propose_accepted proposed
    exact ⟨accepted.keeps, accepted.keyed keyed,
      (State.applyTo_diff_eq_iff (accepted.keyed keyed)).mpr accepted.keeps⟩

namespace Sample

/-- The sample run up to its first sweep. -/
def sweepable : Service :=
  ((World.mk (Service.opened {}) Volatile.empty).serve (orders.take 2)).service

/-- That sweep. -/
def firstSweep : Command := .settleSweep ⟨"alice"⟩ (sweep first none)

end Sample

/-- The first sweep of the sample run changes the row of a deposit and that of the wallet. -/
theorem diff_exact_sample :
    Sample.sweepable.state.Keyed ∧
    ∃ t, Sample.sweepable.propose (Sample.env 3) Sample.firstSweep = .ok t ∧
      Sample.sweepable.state.Keeps t.state ∧ t.state.Keyed ∧
      (Sample.sweepable.state.diff t.state).applyTo Sample.sweepable.state = t.state ∧
      t.state.LaidOver Sample.sweepable.state
        ((Sample.sweepable.state.diff t.state).applyTo Sample.sweepable.state) ∧
      ((Sample.sweepable.state.diff t.state).isEmpty = true
        ↔ t.state.Within Sample.sweepable.state) := by
  have standing : Sample.sweepable.state.Standing := by
    unfold Sample.sweepable
    exact World.serve_standing State.Standing.empty
  have keyed := standing.keyed
  have proposes : (Sample.sweepable.propose (Sample.env 3) Sample.firstSweep).isOk = true := by
    decide +kernel
  cases proposed : Sample.sweepable.propose (Sample.env 3) Sample.firstSweep with
  | error fault =>
    rw [proposed] at proposes
    cases proposes
  | ok t =>
    obtain ⟨between, proposals⟩ := diff_exact
    obtain ⟨keeps, after, leads⟩ := proposals _ _ _ t keyed proposed
    obtain ⟨laid, -, empty⟩ := between _ t.state keyed after
    exact ⟨keyed, t, rfl, keeps, after, leads, laid, empty⟩

end Custody
