/-
**A balance is a pair of purses.**

What is available of a balance is free, and the rest of it is held. An amount is put into what is
free or taken out of it, set aside from it, or made available again.

* `Purses`: two natural numbers; `Purses.Accepts`: more than nothing is moved, and the purse it is
  taken from holds as much; `Purses.after`: moves one after another, those not accepted left out;
* `WalletBalance.Shows`: a balance shows a pair of purses; each pair that the range holds is shown by
  one balance (`Shows.unique`, `exists_shows`);
* `WalletBalance.answer_eq_ok`: a move is accepted exactly when the purses accept it, and the balance
  then shows what they come to (`exists_answer`); whatever else is answered can be put into words
  (`answer_tellable`);
* `WalletBalance.after_shows`: so it is after any moves.
-/

import Passbook.Proofs.Wallet.Balance

namespace Passbook.Wallet

open Passbook.Verdict (FailsOnly)

/-- An amount that is to be moved. -/
inductive Move where
  /-- Put in. -/
  | credit (amount : Amount)
  /-- Taken out. -/
  | debit (amount : Amount)
  /-- Set aside. -/
  | hold (amount : Amount)
  /-- Made available again. -/
  | release (amount : Amount)
deriving DecidableEq

/-! ### The purses -/

/-- What is free and what is held. -/
@[ext]
structure Purses where
  free : Nat
  held : Nat
deriving DecidableEq

namespace Purses

/-- More than nothing is moved, and the purse it is taken from holds as much. What is put in has to
find room within the range. -/
def Accepts (purses : Purses) : Move → Prop
  | .credit amount =>
    amount.Positive ∧ purses.free + purses.held + amount.units ≤ Amount.greatest.units
  | .debit amount => amount.Positive ∧ amount.units ≤ purses.free
  | .hold amount => amount.Positive ∧ amount.units ≤ purses.free
  | .release amount => amount.Positive ∧ amount.units ≤ purses.held

instance (purses : Purses) : (move : Move) → Decidable (purses.Accepts move)
  | .credit _ => inferInstanceAs (Decidable (_ ∧ _))
  | .debit _ => inferInstanceAs (Decidable (_ ∧ _))
  | .hold _ => inferInstanceAs (Decidable (_ ∧ _))
  | .release _ => inferInstanceAs (Decidable (_ ∧ _))

/-- What the purses hold once an amount was moved. -/
def moved (purses : Purses) : Move → Purses
  | .credit amount => ⟨purses.free + amount.units.toNat, purses.held⟩
  | .debit amount => ⟨purses.free - amount.units.toNat, purses.held⟩
  | .hold amount => ⟨purses.free - amount.units.toNat, purses.held + amount.units.toNat⟩
  | .release amount => ⟨purses.free + amount.units.toNat, purses.held - amount.units.toNat⟩

/-- What a move leaves in the purses. One that they do not accept leaves them as they are. -/
def leave (purses : Purses) (move : Move) : Purses :=
  if purses.Accepts move then purses.moved move else purses

/-- What moves leave in the purses one after another. -/
def after (purses : Purses) (moves : List Move) : Purses := moves.foldl leave purses

/-- The range holds what is in both purses. -/
def Within (purses : Purses) : Prop := purses.free + purses.held ≤ Amount.greatest.units

variable {purses : Purses} {move : Move}

/-- A move that is accepted leaves no more in the purses than the range holds. -/
theorem Within.moved (within : purses.Within) (accepts : purses.Accepts move) :
    (purses.moved move).Within := by
  unfold Within at *
  cases move with
  | credit amount | debit amount | hold amount | release amount =>
    obtain ⟨positive, enough⟩ := accepts
    have more : 0 < amount.units := positive
    simp only [Purses.moved]
    omega

end Purses

/-! ### The balance -/

namespace WalletBalance

/-- What the rules answer to a move. -/
def answer (state : WalletBalance) : Move → Except (Halt WalletError) WalletBalance
  | .credit amount => ruled (state.credit amount)
  | .debit amount => state.debit amount
  | .hold amount => state.hold amount
  | .release amount => state.release amount

/-- The balance that a move leaves. One that is rejected leaves it as it is. -/
def leave (state : WalletBalance) (move : Move) : WalletBalance :=
  match state.answer move with
  | .ok after => after
  | .error _ => state

/-- The balance that moves leave one after another. -/
def after (state : WalletBalance) (moves : List Move) : WalletBalance := moves.foldl leave state

/-- What is available, and what else there is of the balance. -/
def purses (state : WalletBalance) : Purses :=
  ⟨state.available.units.toNat, (state.balance.units - state.available.units).toNat⟩

/-- What is free is available, and both purses make up the balance. -/
structure Shows (state : WalletBalance) (purses : Purses) : Prop where
  free : state.available.units = purses.free
  all : state.balance.units = purses.free + purses.held

variable {state other next : WalletBalance} {purses : Purses} {move : Move}

theorem shows_iff : state.Shows purses ↔ state.available.units = purses.free ∧
    state.balance.units = purses.free + purses.held :=
  ⟨fun ⟨free, all⟩ => ⟨free, all⟩, fun ⟨free, all⟩ => ⟨free, all⟩⟩

theorem Fits.shows (fits : state.Fits) : state.Shows state.purses := by
  obtain ⟨least, most⟩ := fits
  simp only [shows_iff, WalletBalance.purses]
  omega

namespace Shows

theorem fits (shown : state.Shows purses) : state.Fits := by
  obtain ⟨free, all⟩ := shown
  constructor
  · omega
  · omega

theorem within (shown : state.Shows purses) : purses.Within := by
  have atMost : state.balance.units ≤ Amount.greatest.units := state.balance.atMost
  rw [shown.all] at atMost
  exact atMost

/-- What is held is in the second purse, and it stays in range. -/
theorem held (shown : state.Shows purses) :
    ∃ held, state.held = .ok held ∧ held.units = purses.held := by
  obtain ⟨held, is, part⟩ := exists_held shown.fits
  obtain ⟨free, all⟩ := shown
  exact ⟨held, is, by omega⟩

/-- One balance only shows a pair of purses. -/
theorem unique (shown : state.Shows purses) (shown' : other.Shows purses) : state = other :=
  WalletBalance.ext (Amount.ext (shown.all.trans shown'.all.symm))
    (Amount.ext (shown.free.trans shown'.free.symm))

end Shows

/-- Purses that the range holds are shown by a balance. -/
theorem exists_shows (within : purses.Within) : ∃ state : WalletBalance, state.Shows purses := by
  have most : (purses.free + purses.held : Int) ≤ 9223372036854775807 := within
  exact ⟨⟨⟨purses.free + purses.held, by omega, by omega⟩, ⟨purses.free, by omega, by omega⟩⟩,
    rfl, rfl⟩

/-! ### One move -/

/-- **A move is accepted as the purses accept it**, and then the balance shows what they come to. -/
theorem answer_eq_ok (shown : state.Shows purses) :
    state.answer move = .ok next ↔ purses.Accepts move ∧ next.Shows (purses.moved move) := by
  obtain ⟨held, is, second⟩ := shown.held
  obtain ⟨free, all⟩ := shown
  have atMost : next.balance.units ≤ Amount.greatest.units := next.balance.atMost
  rw [shows_iff]
  -- What is asked for on either side are bounds and sums of the same figures.
  cases move with
  | credit amount =>
    simp only [answer, Verdict.ruled_eq_ok, credit_eq_ok, Purses.Accepts, Purses.moved]
    omega
  | debit amount =>
    simp only [answer, debit_eq_ok, Purses.Accepts, Purses.moved]
    omega
  | hold amount =>
    simp only [answer, hold_eq_ok, Amount.ext_iff, Purses.Accepts, Purses.moved]
    omega
  | release amount =>
    have enough : (∃ held, state.held = .ok held ∧ amount.units ≤ held.units) ↔
        amount.units ≤ purses.held := by
      rw [is]
      simp only [Except.ok.injEq, exists_eq_left', second]
    simp only [answer, release_eq_ok, enough, Amount.ext_iff, Purses.Accepts, Purses.moved]
    omega

/-- A move that the purses accept is not turned down. -/
theorem exists_answer (shown : state.Shows purses) (accepts : purses.Accepts move) :
    ∃ next, state.answer move = .ok next ∧ next.Shows (purses.moved move) := by
  obtain ⟨next, shown'⟩ := exists_shows (shown.within.moved accepts)
  exact ⟨next, (answer_eq_ok shown).mpr ⟨accepts, shown'⟩, shown'⟩

/-- No move leaves the range, and neither do the words for its rejection. -/
theorem answer_tellable (fits : state.Fits) : FailsOnly Tellable (state.answer move) := by
  cases move with
  | credit amount => exact FailsOnly.ruled credit_tellable
  | debit amount => exact debit_tellable fits
  | hold amount => exact hold_tellable fits
  | release amount => exact release_tellable fits

/-- A move leaves of the balance what it leaves of the purses. -/
theorem Shows.leave (shown : state.Shows purses) (move : Move) :
    (state.leave move).Shows (purses.leave move) := by
  unfold WalletBalance.leave Purses.leave
  by_cases accepts : purses.Accepts move
  · obtain ⟨next, answered, shown'⟩ := exists_answer shown accepts
    rw [if_pos accepts, answered]
    exact shown'
  · rw [if_neg accepts]
    cases answered : state.answer move with
    | ok next => exact absurd ((answer_eq_ok shown).mp answered).1 accepts
    | error halt => exact shown

/-! ### Moves one after another -/

/-- So do moves one after another. -/
theorem Shows.after (shown : state.Shows purses) (moves : List Move) :
    (state.after moves).Shows (purses.after moves) := by
  induction moves generalizing state purses with
  | nil => exact shown
  | cons move rest ih => exact ih (shown.leave move)

/-- **A balance behaves as two purses.** From a balance on of which a part from nothing on is
available, whatever amounts are put in, taken out, set aside or made available again, the balance
stays such and is made up of what the two purses hold, the part that is available being what is
free. The next move is accepted exactly when the purses accept it, and it leaves what it leaves in
them; any other is turned down for a cause that can be put into words. -/
theorem after_shows (state : WalletBalance) (fits : state.Fits) (moves : List Move) :
    (state.after moves).Fits ∧ (state.after moves).Shows (state.purses.after moves) ∧
      (∃ held, (state.after moves).held = .ok held ∧
        held.units = (state.purses.after moves).held) ∧
      ∀ move,
        ((∃ next, (state.after moves).answer move = .ok next) ↔
            (state.purses.after moves).Accepts move) ∧
          (∀ next, (state.after moves).answer move = .ok next →
            next.Fits ∧ next.Shows ((state.purses.after moves).moved move)) ∧
          ∀ halt, (state.after moves).answer move = .error halt →
            ∃ cause text, halt = .refused cause ∧ cause.message = .ok text := by
  have shown := fits.shows.after moves
  refine ⟨shown.fits, shown, shown.held, fun move => ⟨⟨?_, ?_⟩, ?_, ?_⟩⟩
  · rintro ⟨next, answered⟩
    exact ((answer_eq_ok shown).mp answered).1
  · intro accepts
    obtain ⟨next, answered, _⟩ := exists_answer shown accepts
    exact ⟨next, answered⟩
  · intro next answered
    have shown' := ((answer_eq_ok shown).mp answered).2
    exact ⟨shown'.fits, shown'⟩
  · intro halt answered
    obtain ⟨report, told⟩ := answer_tellable shown.fits halt answered
    cases halt with
    | refused cause =>
      obtain ⟨text, said, _⟩ := Verdict.map_eq_ok.mp told
      exact ⟨cause, text, rfl, said⟩
    | overflowed fault => cases told

/-- One is available of two. -/
def sampleBalance : WalletBalance := ⟨.two, .one⟩

/-- Once it is set aside, it cannot be taken out. Both are then made available again, and one is
taken out. After that what is left of the range can be put in, and no more. -/
theorem after_shows_samples :
    sampleBalance.after [.hold .one, .debit .one, .release .two, .debit .one] = ⟨.one, .one⟩ ∧
      (∃ next, WalletBalance.answer ⟨.one, .one⟩
        (.credit ⟨9223372036854775806, by decide, by decide⟩) = .ok next) ∧
      ¬∃ next, WalletBalance.answer ⟨.one, .one⟩ (.credit .greatest) = .ok next := by
  have moved : sampleBalance.after [.hold .one, .debit .one, .release .two, .debit .one] =
      ⟨.one, .one⟩ := by rfl
  obtain ⟨_, _, _, answers⟩ := after_shows sampleBalance ⟨by decide, by decide⟩
    [.hold .one, .debit .one, .release .two, .debit .one]
  rw [moved] at answers
  exact ⟨moved, (answers _).1.mpr (by decide), mt (answers _).1.mp (by decide)⟩

end WalletBalance

end Passbook.Wallet
