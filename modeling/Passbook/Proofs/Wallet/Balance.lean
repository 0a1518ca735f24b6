/-
**When the balance of a wallet may be changed.**

* `credit_eq_ok`, `debit_eq_ok`: what is put in or taken out is put in or taken out of what is
  available too;
* `hold_eq_ok`, `release_eq_ok`: what is set aside, or made available again, leaves the balance as
  it is;
* `credit_fits` and its like: what is available stays between nothing and the balance;
* `debit_tellable` and its like: a balance that fits is changed without leaving the range, or the
  rule that refuses the change can be put into words;
* the conditions of a wallet: `ensureActive_eq_ok`, `validateStatusChange_eq_ok`,
  `validateClose_eq_ok`.
-/

import Passbook.Proofs.Verdict
import Passbook.Wallet.Balance

namespace Passbook.Wallet

open Passbook.Verdict (FailsOnly)

/-! ### Conditions -/

@[simp]
theorem ensurePositive_eq_ok {amount : Amount} {done : Unit} :
    ensurePositive amount = .ok done ↔ amount.Positive := by
  unfold ensurePositive
  split
  · simp only [reduceCtorEq, false_iff, Amount.Positive]
    omega
  · simp only [true_iff, Amount.Positive]
    omega

@[simp]
theorem ensureActive_eq_ok {wallet : Snapshot} {done : Unit} :
    ensureActive wallet = .ok done ↔ wallet.status = .active := by
  unfold ensureActive
  by_cases active : wallet.status = .active
  · simp [active]
  · simp [active]

theorem validateStatusChange_eq_ok {wallet : WalletId} {current wanted : WalletStatus}
    {done : Unit} :
    validateStatusChange wallet current wanted = .ok done ↔
      current ≠ .closed ∧ wanted ≠ .closed := by
  cases current <;> cases wanted <;> simp [validateStatusChange]

theorem validateClose_eq_ok {wallet : WalletId} {status : WalletStatus} {balance : WalletBalance}
    {done : Unit} :
    validateClose wallet status balance = .ok done ↔
      status ≠ .closed ∧ balance.balance.units = 0 := by
  unfold validateClose
  by_cases closed : status = .closed
  · simp [closed]
  · by_cases empty : balance.balance.units = 0
    · simp [closed, empty]
    · simp [closed, empty]

theorem tellable_of_message {cause : WalletError} {text : String}
    (said : cause.message = .ok text) : Tellable cause :=
  ⟨_, Verdict.map_eq_ok.mpr ⟨text, said, rfl⟩⟩

theorem ensurePositive_tellable {amount : Amount} :
    FailsOnly Tellable (ensurePositive amount) := by
  unfold ensurePositive
  split
  · exact .error ⟨_, rfl⟩
  · exact .ok ()

theorem ensureActive_tellable {wallet : Snapshot} : FailsOnly Tellable (ensureActive wallet) := by
  unfold ensureActive
  split
  · exact .ok ()
  · exact .error ⟨_, rfl⟩

theorem ensureOwner_tellable {wallet : Snapshot} {caller : UserId} :
    FailsOnly Tellable (ensureOwner wallet caller) := by
  unfold ensureOwner
  split
  · exact .ok ()
  · exact .error ⟨_, rfl⟩

theorem validateStatusChange_tellable {wallet : WalletId} {current wanted : WalletStatus} :
    FailsOnly Tellable (validateStatusChange wallet current wanted) := by
  unfold validateStatusChange
  split
  · exact .error ⟨_, rfl⟩
  · exact .error ⟨_, rfl⟩
  · exact .ok ()

theorem validateClose_tellable {wallet : WalletId} {status : WalletStatus}
    {balance : WalletBalance} : FailsOnly Tellable (validateClose wallet status balance) := by
  unfold validateClose
  split
  · exact .error ⟨_, rfl⟩
  · split
    · exact .error ⟨_, rfl⟩
    · exact .ok ()

/-! ### Balances -/

namespace WalletBalance

/-- What is available lies between nothing and the balance. -/
def Fits (state : WalletBalance) : Prop :=
  0 ≤ state.available.units ∧ state.available.units ≤ state.balance.units

variable {state after : WalletBalance} {amount : Amount}

@[simp]
theorem ensureAvailable_eq_ok {done : Unit} :
    state.ensureAvailable amount = .ok done ↔ amount.units ≤ state.available.units := by
  unfold ensureAvailable
  by_cases short : state.available < amount
  · have less := Amount.lt_iff.mp short
    simp only [short, if_true, reduceCtorEq, false_iff]
    omega
  · have enough := mt Amount.lt_iff.mpr short
    simp only [short, if_false, true_iff]
    omega

theorem credit_eq_ok :
    state.credit amount = .ok after ↔ amount.Positive ∧
      after.balance.units = state.balance.units + amount.units ∧
        after.available.units = state.available.units + amount.units := by
  unfold credit
  rw [Verdict.bind_eq_ok]
  simp only [ensurePositive_eq_ok, exists_const]
  refine and_congr_right fun _ => ?_
  rw [← Amount.add?_eq_some_iff, ← Amount.add?_eq_some_iff]
  cases state.balance.add? amount with
  | none => simp
  | some balance =>
    cases state.available.add? amount with
    | none => simp
    | some available =>
      simp only [Verdict.pure_eq_ok, Option.some.injEq]
      constructor
      · rintro rfl
        exact ⟨rfl, rfl⟩
      · rintro ⟨rfl, rfl⟩
        rfl

theorem debit_eq_ok :
    state.debit amount = .ok after ↔ amount.Positive ∧ amount.units ≤ state.available.units ∧
      after.balance.units = state.balance.units - amount.units ∧
        after.available.units = state.available.units - amount.units := by
  simp only [debit, Verdict.bind_eq_ok, Verdict.ruled_eq_ok, Verdict.unguarded_eq_ok,
    Verdict.pure_eq_ok, Amount.sub_eq_ok, ensurePositive_eq_ok, ensureAvailable_eq_ok, exists_const]
  refine and_congr_right fun _ => and_congr_right fun _ => ?_
  constructor
  · rintro ⟨balance, same, available, same', rfl⟩
    exact ⟨same, same'⟩
  · rintro ⟨same, same'⟩
    exact ⟨after.balance, same, after.available, same', rfl⟩

theorem hold_eq_ok :
    state.hold amount = .ok after ↔ amount.Positive ∧ amount.units ≤ state.available.units ∧
      after.balance = state.balance ∧
        after.available.units = state.available.units - amount.units := by
  simp only [hold, Verdict.bind_eq_ok, Verdict.ruled_eq_ok, Verdict.unguarded_eq_ok,
    Verdict.pure_eq_ok, Amount.sub_eq_ok, ensurePositive_eq_ok, ensureAvailable_eq_ok, exists_const]
  refine and_congr_right fun _ => and_congr_right fun _ => ?_
  constructor
  · rintro ⟨available, same, rfl⟩
    exact ⟨rfl, same⟩
  · rintro ⟨same, same'⟩
    exact ⟨after.available, same', by rw [← same]⟩

theorem release_eq_ok :
    state.release amount = .ok after ↔ amount.Positive ∧
      (∃ held, state.held = .ok held ∧ amount.units ≤ held.units) ∧
        after.balance = state.balance ∧
          after.available.units = state.available.units + amount.units := by
  unfold release
  simp only [Verdict.bind_eq_ok, Verdict.ruled_eq_ok, Verdict.unguarded_eq_ok,
    ensurePositive_eq_ok, exists_const]
  refine and_congr_right fun _ => ?_
  constructor
  · rintro ⟨held, is, rest⟩
    by_cases short : held < amount
    · simp [short] at rest
    · have enough := mt Amount.lt_iff.mpr short
      simp only [short, if_false, Verdict.bind_eq_ok, Verdict.unguarded_eq_ok, Amount.add_eq_ok,
        Verdict.pure_eq_ok] at rest
      obtain ⟨available, same, rfl⟩ := rest
      exact ⟨⟨held, is, by omega⟩, rfl, same⟩
  · rintro ⟨⟨held, is, enough⟩, same, same'⟩
    have sufficient : ¬held < amount := fun short => by
      have less := Amount.lt_iff.mp short
      omega
    refine ⟨held, is, ?_⟩
    simp only [sufficient, if_false, Verdict.bind_eq_ok, Verdict.unguarded_eq_ok, Amount.add_eq_ok,
      Verdict.pure_eq_ok]
    exact ⟨after.available, same', by rw [← same]⟩

/-! ### Balances that fit -/

theorem credit_fits (fits : state.Fits) (credited : state.credit amount = .ok after) :
    after.Fits := by
  obtain ⟨positive, balance, available⟩ := credit_eq_ok.mp credited
  obtain ⟨least, most⟩ := fits
  have more : 0 < amount.units := positive
  constructor
  · omega
  · omega

theorem debit_fits (fits : state.Fits) (debited : state.debit amount = .ok after) : after.Fits := by
  obtain ⟨_, enough, balance, available⟩ := debit_eq_ok.mp debited
  obtain ⟨least, most⟩ := fits
  constructor
  · omega
  · omega

theorem hold_fits (fits : state.Fits) (held : state.hold amount = .ok after) : after.Fits := by
  obtain ⟨positive, enough, same, available⟩ := hold_eq_ok.mp held
  obtain ⟨least, most⟩ := fits
  have more : 0 < amount.units := positive
  constructor
  · omega
  · rw [same]
    omega

theorem release_fits (fits : state.Fits) (released : state.release amount = .ok after) :
    after.Fits := by
  obtain ⟨positive, ⟨held, is, enough⟩, same, available⟩ := release_eq_ok.mp released
  have part := Amount.sub_eq_ok.mp is
  obtain ⟨least, most⟩ := fits
  have more : 0 < amount.units := positive
  constructor
  · omega
  · rw [same]
    omega

/-! ### Arithmetic that stays in range -/

/-- What is held is a part of the balance. -/
theorem exists_held (fits : state.Fits) : ∃ held, state.held = .ok held ∧
    held.units = state.balance.units - state.available.units := by
  obtain ⟨least, most⟩ := fits
  have atMost := state.balance.atMost
  exact ⟨⟨state.balance.units - state.available.units, by omega, by omega⟩,
    Amount.sub_eq_ok.mpr rfl, rfl⟩

/-- A positive amount that is available can be taken out. -/
theorem exists_debit (fits : state.Fits) (positive : amount.Positive)
    (enough : amount.units ≤ state.available.units) : ∃ after, state.debit amount = .ok after := by
  obtain ⟨least, most⟩ := fits
  have more : 0 < amount.units := positive
  have atMost := state.balance.atMost
  exact ⟨⟨⟨state.balance.units - amount.units, by omega, by omega⟩,
    ⟨state.available.units - amount.units, by omega, by omega⟩⟩,
    debit_eq_ok.mpr ⟨positive, enough, rfl, rfl⟩⟩

/-- A positive amount for which there is room can be put in. -/
theorem exists_credit (fits : state.Fits) (positive : amount.Positive)
    (room : state.balance.units + amount.units ≤ Amount.greatest.units) :
    ∃ after, state.credit amount = .ok after := by
  obtain ⟨least, most⟩ := fits
  have more : 0 < amount.units := positive
  have atMost : state.balance.units + amount.units ≤ 9223372036854775807 := room
  exact ⟨⟨⟨state.balance.units + amount.units, by omega, by omega⟩,
    ⟨state.available.units + amount.units, by omega, by omega⟩⟩,
    credit_eq_ok.mpr ⟨positive, rfl, rfl⟩⟩

/-- An amount for which there is no room is refused. -/
theorem credit_of_full (positive : amount.Positive)
    (full : ¬state.balance.units + amount.units ≤ Amount.greatest.units) :
    state.credit amount = .error .overflow := by
  have checked : ensurePositive amount = .ok () := ensurePositive_eq_ok.mpr positive
  have beyond : state.balance.add? amount = none :=
    Amount.ofInt?_eq_none_iff.mpr (.inr (Int.not_le.mp full))
  rw [credit, checked, beyond]
  rfl

/-- The shortfall of a positive amount against what is available is within the range. -/
theorem ensureAvailable_tellable (fits : state.Fits) (positive : amount.Positive) :
    FailsOnly Tellable (state.ensureAvailable amount) := by
  obtain ⟨least, most⟩ := fits
  have atMost := amount.atMost
  have more : 0 < amount.units := positive
  unfold ensureAvailable
  by_cases short : state.available < amount
  · have less := Amount.lt_iff.mp short
    have shortfall : amount.sub state.available =
        .ok ⟨amount.units - state.available.units, by omega, by omega⟩ := Amount.sub_eq_ok.mpr rfl
    rw [if_pos short]
    exact .error (tellable_of_message (Verdict.map_eq_ok.mpr ⟨_, shortfall, rfl⟩))
  · rw [if_neg short]
    exact .ok ()

theorem credit_tellable : FailsOnly Tellable (state.credit amount) := by
  refine FailsOnly.bind ensurePositive_tellable fun _ _ => ?_
  split
  · exact .ok _
  · exact .error ⟨_, rfl⟩

theorem debit_tellable (fits : state.Fits) : FailsOnly Tellable (state.debit amount) := by
  refine FailsOnly.bind (FailsOnly.ruled ensurePositive_tellable) fun _ checked => ?_
  have positive := ensurePositive_eq_ok.mp (Verdict.ruled_eq_ok.mp checked)
  refine FailsOnly.bind (FailsOnly.ruled (ensureAvailable_tellable fits positive))
    fun _ checked => ?_
  have enough := ensureAvailable_eq_ok.mp (Verdict.ruled_eq_ok.mp checked)
  obtain ⟨least, most⟩ := fits
  have atMost := state.balance.atMost
  have more : 0 < amount.units := positive
  have balance : state.balance.sub amount =
      .ok ⟨state.balance.units - amount.units, by omega, by omega⟩ := Amount.sub_eq_ok.mpr rfl
  have available : state.available.sub amount =
      .ok ⟨state.available.units - amount.units, by omega, by omega⟩ := Amount.sub_eq_ok.mpr rfl
  rw [balance, available]
  exact .ok _

theorem hold_tellable (fits : state.Fits) : FailsOnly Tellable (state.hold amount) := by
  refine FailsOnly.bind (FailsOnly.ruled ensurePositive_tellable) fun _ checked => ?_
  have positive := ensurePositive_eq_ok.mp (Verdict.ruled_eq_ok.mp checked)
  refine FailsOnly.bind (FailsOnly.ruled (ensureAvailable_tellable fits positive))
    fun _ checked => ?_
  have enough := ensureAvailable_eq_ok.mp (Verdict.ruled_eq_ok.mp checked)
  have more : 0 < amount.units := positive
  have atMost := state.available.atMost
  have available : state.available.sub amount =
      .ok ⟨state.available.units - amount.units, by omega, by omega⟩ := Amount.sub_eq_ok.mpr rfl
  rw [available]
  exact .ok _

theorem release_tellable (fits : state.Fits) : FailsOnly Tellable (state.release amount) := by
  refine FailsOnly.bind (FailsOnly.ruled ensurePositive_tellable) fun _ checked => ?_
  have positive := ensurePositive_eq_ok.mp (Verdict.ruled_eq_ok.mp checked)
  obtain ⟨held, is, part⟩ := exists_held fits
  rw [is]
  refine FailsOnly.bind (.ok held) fun held' same => ?_
  obtain rfl := Verdict.pure_eq_ok.mp same
  by_cases short : held < amount
  · rw [if_pos short]
    exact .error ⟨_, rfl⟩
  · have enough := mt Amount.lt_iff.mpr short
    obtain ⟨least, most⟩ := fits
    have more : 0 < amount.units := positive
    have atMost := state.balance.atMost
    have available : state.available.add amount =
        .ok ⟨state.available.units + amount.units, by omega, by omega⟩ := Amount.add_eq_ok.mpr rfl
    rw [if_neg short, available]
    exact .ok _

end WalletBalance

end Passbook.Wallet
