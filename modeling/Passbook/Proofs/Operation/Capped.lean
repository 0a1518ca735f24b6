/-
**The limits of wallets.**

Limits that are set are looked at, and those that a wallet is opened with are not.

* `Capped`: the limits of wallets make sense, unless they are those that wallets are opened with;
* `Deed.capped`: a deed keeps limits as they are, unless it opens a wallet or sets limits;
  `Call.capped`: every operation keeps them so;
* `play_sensible`: limits make sense in all runs exactly if those of new wallets do.
-/

import Passbook.Bootstrap
import Passbook.Proofs.Limits.State
import Passbook.Proofs.Operation.Frame
import Passbook.Proofs.Operation.Run

namespace Passbook.Operation

open Passbook.Limits (LimitState SpendLimits)
open Passbook.Store

/-- The limits of wallets make sense, unless they are some of those given. -/
def Capped (given : List SpendLimits) (books : Books) : Prop :=
  ∀ row ∈ books.limits, row.state.limits.Sensible ∨ row.state.limits ∈ given

section

variable {session : Session} {kind : DeedKind} {before after : Books} {given : List SpendLimits}

/-! ### Deeds -/

/-- Limits that are written are as they should be, and others stay. -/
theorem capped_of_restated {wallet : WalletId} {now : Calendar.Instant} {state : LimitState}
    (left : after.limits =
      altered LimitsRow.wallet wallet (Holdings.restated now state) before.limits)
    (proper : state.limits.Sensible ∨ state.limits ∈ given) (capped : Capped given before) :
    Capped given after := by
  intro row member
  rw [left] at member
  obtain ⟨stood, present, rfl⟩ := mem_altered.mp member
  by_cases chosen : stood.wallet = wallet
  · rw [if_pos chosen]
    exact proper
  · rw [if_neg chosen]
    exact capped stood present

/-- Limits are as they should be after an amount is counted, since they were before. -/
theorem proper_of_reserve {old : LimitsRow} {state : LimitState} {amount : Amount}
    {now : Calendar.Instant} (member : old ∈ before.limits)
    (reserved : old.state.reserve amount now = .ok state) (capped : Capped given before) :
    state.limits.Sensible ∨ state.limits ∈ given := by
  rw [LimitState.limits_of_reserve reserved]
  exact capped old member

/-- A wallet is opened with the limits of its session. -/
theorem capped_of_opened {owner : UserId} {walletType : Wallet.WalletType} {currency : Currency}
    {row : WalletRow} (did : Holdings.Opened session owner walletType currency before row after)
    (known : session.newLimits ∈ given) (capped : Capped given before) : Capped given after := by
  intro limits member
  rw [did.left] at member
  rcases List.mem_append.mp member with present | single
  · exact capped limits present
  · rw [List.mem_singleton.mp single]
    exact .inr known

/-- **A deed keeps the limits of wallets**, unless it opens a wallet or sets limits. -/
theorem Deed.capped (deed : Deed session kind before after)
    (other : kind ∉ [.walletOpened, .limitsSet]) (capped : Capped given before) :
    Capped given after := by
  have others : Table.walletLimits ∉ kind.writes → Capped given after := by
    intro still
    have same : after.limits = before.limits := deed.untouched still
    rw [Capped, same]
    exact capped
  cases deed with
  | walletOpened => exact absurd (by decide) other
  | limitsSet => exact absurd (by decide) other
  | spent did =>
    obtain ⟨_, reserved, written⟩ := did.written
    rw [written.left]
    exact capped_of_restated rfl (proper_of_reserve written.member reserved capped) capped
  | transferred did =>
    rw [did.left]
    exact capped_of_restated rfl (proper_of_reserve did.limitsMember did.reserved capped) capped
  | _ => exact others (by decide)

/-! ### Operations -/

/-- The limits that an operation opens a wallet with. -/
def Call.allotment? : Call → Option SpendLimits
  | command session (.createWallet _ _ _) => some session.newLimits
  | _ => none

/-- Wallets are opened by one operation, and limits are set by one. -/
theorem Call.caps {call : Call} (member : ∃ kind ∈ [.walletOpened, .limitsSet], kind ∈ call.kinds) :
    (∃ session owner walletType currency,
        call = .command session (.createWallet owner walletType currency)) ∨
      ∃ session wallet daily monthly,
        call = .command session (.updateLimits wallet daily monthly) := by
  cases call with
  | command session wanted =>
    cases wanted with
    | createWallet owner walletType currency =>
      exact .inl ⟨session, owner, walletType, currency, rfl⟩
    | updateLimits wallet daily monthly => exact .inr ⟨session, wallet, daily, monthly, rfl⟩
    | _ => exact absurd member (by simp [Call.kinds, Command.kinds])
  | _ => exact absurd member (by simp [Call.kinds])

/-- **An operation leaves limits that make sense**, but for those that it opens a wallet with. -/
theorem Call.capped (call : Call) (known : ∀ limits ∈ call.allotment?, limits ∈ given) :
    Upholds (Capped given) call.run := by
  by_cases setting : ∃ kind ∈ [.walletOpened, .limitsSet], kind ∈ call.kinds
  · rcases call.caps setting with ⟨session, owner, walletType, currency, rfl⟩ |
      ⟨session, wallet, daily, monthly, rfl⟩
    · exact (Upholds.of_leaves (Holdings.createWallet_ends session owner walletType currency)
        fun ⟨_, _, did⟩ => capped_of_opened did (known _ rfl)).answering
    · refine (Upholds.of_leaves (Holdings.updateLimits_ends session wallet daily monthly)
        fun ⟨_, made, did⟩ capped => ?_).answering
      obtain ⟨old, rfl, written⟩ := did.written
      rw [written.left]
      exact capped_of_restated rfl (.inl (SpendLimits.make_eq_ok.mp made).2) capped
  · exact call.upholds fun {_ kind _ _} allowed _ deed =>
      deed.capped fun sets => setting ⟨kind, sets, allowed⟩

end

/-! ### Runs -/

/-- Limits make sense after every run from fresh books, unless a wallet was opened with them. -/
theorem play_capped (supply : Supply) (calls : List Call) : Capped (calls.filterMap Call.allotment?)
    (play calls (.fresh supply)).books :=
  play_upholds _ calls (fun call member => call.capped fun _ is =>
    List.mem_filterMap.mpr ⟨call, member, is⟩) Sound.fresh fun _ absent => nomatch absent

/-- A wallet is opened with limits. -/
def sampleAllotment (limits : SpendLimits) : List Call :=
  [.command { sampleSession with newLimits := limits } (.createWallet (sampleOwner 7) .main "USD")]

/-- **The limits of wallets make sense exactly if those of new wallets do.** Where all wallets are
opened with the same limits, every run of any operations leaves each wallet with something to spend
in a day and no less in a month, if and only if these limits are so. If they are, the identifiers
that are handed out make no difference. -/
theorem play_sensible (limits : SpendLimits) :
    ((∀ calls : List Call, (∀ call ∈ calls, ∀ given ∈ call.allotment?, given = limits) →
        ∀ row ∈ (play calls .fresh).books.limits,
          0 < row.state.dailyLimit.units ∧ row.state.dailyLimit ≤ row.state.monthlyLimit) ↔
      0 < limits.daily.units ∧ limits.daily ≤ limits.monthly) ∧
      (0 < limits.daily.units ∧ limits.daily ≤ limits.monthly →
        ∀ (supply : Supply) (calls : List Call),
          (∀ call ∈ calls, ∀ given ∈ call.allotment?, given = limits) →
            ∀ row ∈ (play calls (.fresh supply)).books.limits,
              0 < row.state.dailyLimit.units ∧ row.state.dailyLimit ≤ row.state.monthlyLimit) := by
  have sensibly : 0 < limits.daily.units ∧ limits.daily ≤ limits.monthly →
      ∀ (supply : Supply) (calls : List Call),
        (∀ call ∈ calls, ∀ given ∈ call.allotment?, given = limits) →
          ∀ row ∈ (play calls (.fresh supply)).books.limits,
            0 < row.state.dailyLimit.units ∧ row.state.dailyLimit ≤ row.state.monthlyLimit := by
    intro sensible supply calls only row member
    rcases play_capped supply calls row member with is | known
    · exact is
    · obtain ⟨call, asked, given⟩ := List.mem_filterMap.mp known
      have same : row.state.limits = limits := only call asked _ given
      have is : row.state.limits.Sensible := same ▸ sensible
      exact is
  refine ⟨⟨?_, fun sensible => sensibly sensible .ascending⟩, sensibly⟩
  · intro throughout
    have only : ∀ call ∈ sampleAllotment limits, ∀ given ∈ call.allotment?, given = limits := by
      simp [sampleAllotment, Call.allotment?]
    have there : (play (sampleAllotment limits) .fresh).books.limits =
        [Holdings.newLimitsRow { sampleSession with newLimits := limits } sampleWallet] := by
      rfl
    exact throughout _ only _ (there ▸ List.mem_singleton_self _)

/-- A document of settings in which a month has less to spend than a day. -/
def sampleSettings : Json.Value :=
  .record [("database", .record [("url", .text "postgres://localhost/passbook")]),
    ("limits", .record [("daily_limit", .ofAmount (sampleUnits 200)),
      ("monthly_limit", .ofAmount (sampleUnits 100))])]

/-- **Settings may leave wallets with limits that make no sense**: they are taken as they are given,
and a wallet that is opened under them has them. -/
theorem sampleSettings_senseless :
    ¬ ∀ settings ∈ Settings.read? .exact sampleSettings, ∀ row ∈ (play
        [.command (Bootstrap.sessionOf .epoch .none settings)
          (.createWallet (sampleOwner 7) .main "USD")]
        .fresh).books.limits,
      0 < row.state.dailyLimit.units ∧ row.state.dailyLimit ≤ row.state.monthlyLimit := by
  decide +kernel

end Passbook.Operation
