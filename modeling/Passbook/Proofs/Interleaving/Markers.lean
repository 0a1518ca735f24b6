/-
**Whether a completed marker tells of the deposit that was credited under its key.**

A credit is made on the terms that its own deposit asks for, whatever the terms of the marker that
it finds and completes.

* `Truthful`: the credit and the receipts under a key are on the terms of its completed marker;
* `crossing_untruthful`: they need not be, where a confirmation was taken back in between and the
  key confirmed on other terms;
* `Bears`: whatever stands under a key is on terms of one sort; `Bears.advance`: a move keeps it so;
* `reconciled_of_truthful`: where markers tell the truth, wallets agree with them;
* `run_truthful`: the markers of a key tell the truth if all deposits under it ask for the same, or
  if a marker that stands under it is never taken away.
-/

import Passbook.Proofs.Interleaving.Credits

namespace Passbook.Interleaving

open Passbook.Operation
open Passbook.Payments
open Passbook.Reconciliation (Balanced Reconciled reconciled_iff)
open Passbook.Store

/-! ### What a marker should tell -/

/-- A completed marker tells of the credit and the receipts under its key. -/
structure Truthful (scene : Scene) (key : String) : Prop where
  credits : ∀ marker ∈ scene.books.completedDeposits, marker.key = key →
    ∀ credit ∈ scene.credits, credit.key = key → credit = markerTerms marker
  receipts : ∀ marker ∈ scene.books.completedDeposits, marker.key = key →
    ∀ receipt ∈ scene.receipts, receipt.key.text = key → receipt.amount = marker.amount

/-- Two hundred minor units into the second wallet. -/
def sampleLarger (key : String) : MovementRequest := ⟨sampleOther, sampleUnits 200, key, none, none⟩

/-- The status of the first wallet is set. -/
def sampleStatus (status : Wallet.WalletStatus) : Move :=
  .other (.command sampleSession (.updateStatus sampleWallet status)) rfl

/-- A hundred are confirmed for the first wallet. A second call finds the confirmation, fails at the
wallet, which is frozen for a while, and takes it back. A third call confirms two hundred for the
second wallet under the same key. Only then the first call makes its credit. -/
def sampleCrossing : List Move :=
  [sampleOpening (sampleOwner 7),
    sampleOpening (sampleOwner 8),
    .confirm sampleSession (sampleDeposit "first"),
    sampleStatus .frozen,
    .confirm sampleSession (sampleDeposit "first"),
    .credit 1 sampleSession,
    .undo 1 sampleSession,
    sampleStatus .active,
    .confirm sampleSession (sampleLarger "first"),
    .credit 0 sampleSession,
    .credit 2 sampleSession]

/-- **A completed marker need not tell the truth.** A hundred were paid into the first wallet, and
the marker tells of two hundred in the second; so does the receipt of the third call. -/
theorem crossing_untruthful :
    (run sampleCrossing .fresh).credits = [⟨"first", sampleWallet, sampleAmount⟩] ∧
      (run sampleCrossing .fresh).books.completedDeposits.map markerTerms =
        [⟨"first", sampleOther, sampleUnits 200⟩] ∧
      (run sampleCrossing .fresh).receipts.map (fun receipt => receipt.amount.units) = [100, 200] ∧
      ¬∀ (moves : List Move) (key : String), Truthful (run moves .fresh) key := by
  have credits : (run sampleCrossing .fresh).credits =
      [⟨"first", sampleWallet, sampleAmount⟩] := by decide +kernel
  have markers : (run sampleCrossing .fresh).books.completedDeposits.map markerTerms =
      [⟨"first", sampleOther, sampleUnits 200⟩] := by decide +kernel
  refine ⟨credits, markers, by decide +kernel, fun truthful => ?_⟩
  obtain ⟨marker, member, terms⟩ := List.mem_map.mp (markers ▸ List.mem_singleton_self _)
  have same := (truthful sampleCrossing "first").credits marker member (congrArg Terms.key terms) _
    (credits ▸ List.mem_singleton_self _) rfl
  rw [terms] at same
  exact absurd same (by decide)

/-! ### Terms under a key -/

section

variable {terms : Terms} {before after : Books} {more : List Terms}

theorem marked_of_append {marker row : DepositRow} (member : marker ∈ before.deposits ++ [row]) :
    Marked before (markerTerms marker) ∨ markerTerms marker = markerTerms row := by
  rcases List.mem_append.mp member with present | added
  · exact .inl ⟨marker, present, rfl⟩
  · rw [List.mem_singleton.mp added]
    exact .inr rfl

/-- A marker that is left is on the terms of an earlier one. Or it is on the terms at hand, and the
first under its key. -/
theorem Stride.marked (stride : Stride terms before more after) {other : Terms}
    (marked : Marked after other) :
    Marked before other ∨ (other = terms ∧ ∀ marker ∈ before.deposits, marker.key ≠ terms.key) := by
  obtain ⟨marker, member, rfl⟩ := marked
  cases stride with
  | still => exact .inl ⟨marker, member, rfl⟩
  | confirmed did =>
    rw [did.left] at member
    exact (marked_of_append member).imp id fun same => ⟨same, did.unused⟩
  | credited did =>
    rw [did.left] at member
    obtain ⟨row, present, rfl⟩ := mem_altered.mp member
    refine .inl ⟨row, present, ?_⟩
    split <;> rfl
  | undone _ did =>
    rw [did.left] at member
    exact .inl ⟨marker, (List.mem_filter.mp member).1, rfl⟩
  | deposited did =>
    rw [did.left] at member
    exact (marked_of_append member).imp id fun same => ⟨same, did.unused⟩

/-- Credits are on the terms at hand. -/
theorem Stride.credit_eq (stride : Stride terms before more after) :
    ∀ credit ∈ more, credit = terms := by
  cases stride with
  | credited _ => exact fun _ => List.mem_singleton.mp
  | deposited _ => exact fun _ => List.mem_singleton.mp
  | still => exact fun _ none => nomatch none
  | confirmed _ => exact fun _ none => nomatch none
  | undone _ _ => exact fun _ none => nomatch none

end

/-- There is one marker under a key. -/
theorem marked_unique {books : Books} (sound : Sound books) {first second : Terms}
    (one : Marked books first) (two : Marked books second) (same : first.key = second.key) :
    first = second := by
  obtain ⟨marker, member, rfl⟩ := one
  obtain ⟨other, present, rfl⟩ := two
  rw [eq_of_key sound.depositKeys member present same]

/-- Whatever there is under a key is on terms of one sort. -/
structure Bears (fits : Terms → Prop) (key : String) (scene : Scene) : Prop where
  markers : ∀ terms, Marked scene.books terms → terms.key = key → fits terms
  flights : ∀ flight ∈ scene.flights, flight.terms.key = key → fits flight.terms
  credits : ∀ credit ∈ scene.credits, credit.key = key → fits credit
  receipts : ∀ receipt ∈ scene.receipts, receipt.key.text = key →
    ∃ terms, terms.key = key ∧ fits terms ∧ receipt.amount = terms.amount

section

variable {fits wider : Terms → Prop} {key : String} {scene : Scene}

theorem Bears.fresh {supply : Supply} : Bears fits key (.fresh supply) := by
  constructor
  · rintro _ ⟨_, none, _⟩
    cases none
  all_goals exact fun _ none => nomatch none

theorem Bears.mono (bears : Bears fits key scene)
    (grows : ∀ terms, terms.key = key → fits terms → wider terms) : Bears wider key scene := by
  refine ⟨fun terms marked named => grows _ named (bears.markers terms marked named),
    fun flight member named => grows _ named (bears.flights flight member named),
    fun credit member named => grows _ named (bears.credits credit member named),
    fun receipt member named => ?_⟩
  obtain ⟨terms, same, fit, amount⟩ := bears.receipts receipt member named
  exact ⟨terms, same, grows _ same fit, amount⟩

/-- The terms under which a move does something are of the sort too. -/
theorem Bears.fits_of_source (bears : Bears fits key scene) {move : Move} {terms : Terms}
    (asked : ∀ terms ∈ move.asked, Marked (advance scene move).books terms → terms.key = key →
      fits terms)
    (source : Source scene move terms) (named : terms.key = key) : fits terms := by
  cases source with
  | asked wanted marked => exact asked terms wanted marked named
  | flight member same =>
    subst same
    exact bears.flights _ member named
  | marker marked => exact bears.markers terms marked named

theorem Bears.leftAlone {after : Scene} (bears : Bears fits key scene)
    (alone : LeftAlone scene after) : Bears fits key after := by
  refine ⟨?_, alone.flights ▸ bears.flights, alone.credits ▸ bears.credits,
    alone.receipts ▸ bears.receipts⟩
  intro terms marked
  rw [Marked, alone.markers] at marked
  exact bears.markers terms marked

/-- **A move keeps what there is under a key on terms of one sort**, if what it asks for is. -/
theorem Bears.advance (bears : Bears fits key scene) (sound : Sound scene.books) (move : Move)
    (asked : ∀ terms ∈ move.asked, Marked (advance scene move).books terms → terms.key = key →
      fits terms) : Bears fits key (advance scene move) := by
  rcases advance_cases scene move sound with alone | ⟨terms, more, told, source, did⟩
  · exact bears.leftAlone alone
  · have fit := bears.fits_of_source asked source
    refine ⟨fun other marked named => ?_, fun flight member named => ?_,
      fun credit member named => ?_, fun receipt member named => ?_⟩
    · rcases did.stride.marked marked with earlier | ⟨rfl, _⟩
      · exact bears.markers other earlier named
      · exact fit named
    · rcases did.flights flight member with same | ⟨old, present, same⟩
      · rw [same] at named ⊢
        exact fit named
      · rw [same] at named ⊢
        exact bears.flights old present named
    · rw [did.credits] at member
      rcases List.mem_append.mp member with present | made
      · exact bears.credits credit present named
      · rw [did.stride.credit_eq credit made] at named ⊢
        exact fit named
    · rw [did.receipts] at member
      rcases List.mem_append.mp member with present | given
      · exact bears.receipts receipt present named
      · obtain ⟨same, amount⟩ := did.truth receipt given
        have under := same.symm.trans named
        exact ⟨terms, under, fit under, amount⟩

/-- Where there is one marker to which all terms of the sort belong, it tells the truth. -/
theorem Bears.truthful (bears : Bears fits key scene)
    (one : ∀ first second, fits first → fits second → first.key = key → second.key = key →
      first = second) : Truthful scene key := by
  have borne : ∀ marker ∈ scene.books.completedDeposits, marker.key = key →
      fits (markerTerms marker) := fun marker member named =>
    bears.markers _ ⟨marker, (List.mem_filter.mp member).1, rfl⟩ named
  refine ⟨fun marker member named credit made same => ?_,
    fun marker member named receipt given same => ?_⟩
  · exact one _ _ (bears.credits credit made same) (borne marker member named) same named
  · obtain ⟨terms, under, fit, amount⟩ := bears.receipts receipt given same
    rw [amount, one _ _ fit (borne marker member named) under named]
    rfl

end

/-- The credits are those that the completed markers tell of, if all of them tell the truth. -/
theorem Matched.perm_of_truthful {scene : Scene} (matched : Matched scene)
    (truthful : ∀ key, Truthful scene key) :
    scene.credits.Perm (scene.books.completedDeposits.map markerTerms) := by
  have named : (scene.books.completedDeposits.map markerTerms).map Terms.key =
      scene.books.completedDeposits.map DepositRow.key := List.map_map ..
  have unique : (scene.books.completedDeposits.map DepositRow.key).Nodup :=
    matched.sound.depositKeys.sublist (List.filter_sublist.map _)
  have told : (scene.books.completedDeposits.map markerTerms).Nodup :=
    .of_map Terms.key (named ▸ unique)
  have credited : scene.credits.Nodup := .of_map Terms.key (matched.keys.nodup_iff.mpr unique)
  refine (List.perm_ext_iff_of_nodup credited told).mpr fun terms => ⟨fun member => ?_,
    fun member => ?_⟩
  · obtain ⟨marker, present, same⟩ :=
      List.mem_map.mp (matched.keys.mem_iff.mp (List.mem_map_of_mem member))
    exact List.mem_map.mpr
      ⟨marker, present, ((truthful terms.key).credits marker present same terms member rfl).symm⟩
  · obtain ⟨marker, present, rfl⟩ := List.mem_map.mp member
    obtain ⟨credit, made, same⟩ :=
      List.mem_map.mp (matched.keys.mem_iff.mpr (List.mem_map_of_mem present))
    rw [← (truthful marker.key).credits marker present rfl credit made same]
    exact made

/-- **Where markers tell the truth, books that are balanced with the credits are reconciled.** -/
theorem reconciled_of_truthful {scene : Scene} (matched : Matched scene)
    (balanced : Balanced (scene.credits.map Terms.payment) scene.books)
    (truthful : ∀ key, Truthful scene key) : Reconciled scene.books := by
  have same := (matched.perm_of_truthful truthful).map Terms.payment
  rw [List.map_map] at same
  exact reconciled_iff.mpr (balanced.perm same)

/-! ### Runs -/

/-- A marker that stands under the key is never taken away. -/
def Standing (key : String) : List Move → Scene → Prop
  | [], _ => True
  | move :: rest, scene =>
    ((∃ marker ∈ scene.books.deposits, marker.key = key) →
        ∃ marker ∈ (advance scene move).books.deposits, marker.key = key) ∧
      Standing key rest (advance scene move)

instance Standing.decidable (key : String) :
    (moves : List Move) → (scene : Scene) → Decidable (Standing key moves scene)
  | [], _ => .isTrue trivial
  | move :: rest, scene =>
    have := Standing.decidable key rest (advance scene move)
    inferInstanceAs (Decidable (_ ∧ Standing key rest (advance scene move)))

/-- As long as a marker stands under a key, its terms do. -/
theorem marked_of_stands {scene : Scene} (sound : Sound scene.books) (move : Move) {terms : Terms}
    (marked : Marked scene.books terms)
    (stands : ∃ marker ∈ (advance scene move).books.deposits, marker.key = terms.key) :
    Marked (advance scene move).books terms := by
  obtain ⟨marker, member, named⟩ := stands
  rcases advance_cases scene move sound with alone | ⟨_, _, _, _, did⟩
  · rw [Marked, alone.markers]
    exact marked
  · rcases did.stride.marked ⟨marker, member, rfl⟩ with earlier | ⟨same, unused⟩
    · exact ⟨marker, member, marked_unique sound earlier marked named⟩
    · obtain ⟨old, present, rfl⟩ := marked
      exact absurd (named.symm.trans (congrArg Terms.key same)) (unused old present)

/-- Where all deposits under a key ask for the same, everything under it is on those terms. -/
theorem run_bears_agreed {key : String} {agreed : Terms} (moves : List Move) {scene : Scene}
    (alike : ∀ move ∈ moves, ∀ terms ∈ move.asked, terms.key = key → terms = agreed)
    (matched : Matched scene) (bears : Bears (· = agreed) key scene) :
    Bears (· = agreed) key (run moves scene) := by
  induction moves generalizing scene with
  | nil => exact bears
  | cons move rest ih =>
    obtain ⟨here, later⟩ := List.forall_mem_cons.mp alike
    exact ih later (matched.advance move)
      (bears.advance matched.sound move fun terms asked _ => here terms asked)

/-- Where a marker is never taken away, everything under its key is on the terms of a marker. -/
theorem run_bears_marked {key : String} (moves : List Move) {scene : Scene}
    (standing : Standing key moves scene) (matched : Matched scene)
    (bears : Bears (Marked scene.books) key scene) :
    Bears (Marked (run moves scene).books) key (run moves scene) := by
  induction moves generalizing scene with
  | nil => exact bears
  | cons move rest ih =>
    obtain ⟨stands, later⟩ := standing
    refine ih later (matched.advance move) ?_
    refine (bears.mono fun terms named marked => ?_).advance matched.sound move
      fun terms _ marked _ => marked
    obtain ⟨marker, member, same⟩ := marked
    have under : marker.key = terms.key := congrArg Terms.key same
    obtain ⟨left, present, other⟩ := stands ⟨marker, member, under.trans named⟩
    exact marked_of_stands matched.sound move ⟨marker, member, same⟩
      ⟨left, present, other.trans named.symm⟩

/-- **The completed marker of a key tells the truth**, whatever takes turns, if all deposits under
the key ask for the same wallet and amount, or if no marker that stands under it is taken away. -/
theorem run_truthful (supply : Supply) (moves : List Move) (key : String)
    (safe : (∃ agreed, ∀ move ∈ moves, ∀ terms ∈ move.asked, terms.key = key → terms = agreed) ∨
      Standing key moves (.fresh supply)) : Truthful (run moves (.fresh supply)) key := by
  rcases safe with ⟨agreed, alike⟩ | standing
  · have bears := run_bears_agreed moves alike (@Matched.fresh supply) .fresh
    exact bears.truthful fun first second one two _ _ => one.trans two.symm
  · have bears := run_bears_marked moves standing (@Matched.fresh supply) .fresh
    have sound := (run_matched moves (@Matched.fresh supply)).sound
    exact bears.truthful fun first second one two under same =>
      marked_unique sound one two (under.trans same.symm)

/-- Another amount is asked for under a key whose credit is owed. -/
def sampleContested : List Move :=
  [sampleOpening (sampleOwner 7),
    sampleOpening (sampleOwner 8),
    .confirm sampleSession (sampleDeposit "first"),
    .confirm sampleSession (sampleLarger "first"),
    .credit 0 sampleSession]

/-- Two calls that ask for the same, and two that do not with no confirmation taken back. -/
theorem run_truthful_samples :
    ((run (sampleTurns ++ [.credit 1 sampleSession]) .fresh).receipts.length = 1 ∧
        Truthful (run (sampleTurns ++ [.credit 1 sampleSession]) .fresh) "first") ∧
      ((run sampleContested .fresh).receipts.length = 1 ∧
        Truthful (run sampleContested .fresh) "first") := by
  let agreed : Terms := ⟨"first", sampleWallet, sampleAmount⟩
  exact ⟨⟨by decide +kernel,
      run_truthful .ascending _ "first" (.inl ⟨agreed, by decide +kernel⟩)⟩,
    by decide +kernel, run_truthful .ascending _ "first" (.inr (by decide +kernel))⟩

end Passbook.Interleaving
