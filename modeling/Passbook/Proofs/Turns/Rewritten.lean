/-
**What was read out of date loses nothing that others wrote.**

* `Throng`: deposits on their way, and callers who change accounts or link wallets;
* `Next`: what may happen next, be it a step of a caller, a unit of work of a deposit, or one of
  another operation; `Mingled`: what comes of it in any order and number;
* `Led`: such a step does deeds apart from deposits, or a deposit makes a stride (`Next.led`);
* `Sustained`: what every step keeps (`Sustained.next`);
* `mingled_balanced`: **the totals of accounts are what the lines come to, wallets hold what was
  credited to them and moved since, and a status stays until it is set again**, although accounts
  are changed and wallets are linked by callers who hold nothing between reading and writing;
* `mingled_unreconciled`: balances need not be what the markers of deposits tell.
-/

import Passbook.Proofs.Interleaving.Markers
import Passbook.Proofs.Operation.Closed
import Passbook.Proofs.Reconciliation.Accounts
import Passbook.Proofs.Turns.Rewriting

namespace Passbook.Turns

open Passbook.Interleaving (Bears LeftAlone Matched Move Stride Terms Truthful depositKinds
  deposits_of_happened kinds_of_apart reconciled_of_truthful)
open Passbook.Operation (Call Deed DeedKind Happened statusKinds)
open Passbook.Reconciliation (Agreed Balanced Reconciled agreed_of_deed balanced_of_deed net
  paymentKinds)
open Passbook.Store

/-! ### Callers among deposits -/

/-- Deposits on their way, and callers who change accounts or link wallets. -/
structure Throng where
  scene : Interleaving.Scene
  callers : List Rewriter

namespace Throng

/-- Nothing has happened. -/
def fresh (supply : Supply := .ascending) : Throng := ⟨.fresh supply, []⟩

/-- What is in the books. -/
abbrev books (throng : Throng) : Books := throng.scene.books

/-- A caller comes or takes a step. -/
def turn (throng : Throng) (turn : Turn Rewrite) : Throng :=
  let after := advance rewriting ⟨throng.scene.world, throng.callers⟩ turn
  ⟨{ throng.scene with world := after.world }, after.callers⟩

/-- A unit of work of a deposit is done, or another operation from beginning to end. -/
def move (throng : Throng) (move : Move) : Throng :=
  { throng with scene := Interleaving.advance throng.scene move }

end Throng

/-- The kinds of deeds of an operation apart from deposits. -/
def moveKinds : Move → List DeedKind
  | .other call _ => call.kinds
  | _ => []

/-- What may happen next. Operations apart from deposits do deeds of some kinds only, and deposits
ask for some terms only. -/
inductive Next (kinds : List DeedKind) (asks : Terms → Prop) (throng : Throng) : Throng → Prop
  | turn (turn : Turn Rewrite) (own : turn.isCallers) : Next kinds asks throng (throng.turn turn)
  | move (move : Move) (within : ∀ kind ∈ moveKinds move, kind ∈ kinds)
      (asked : ∀ terms ∈ move.asked, asks terms) : Next kinds asks throng (throng.move move)
  /-- A unit of work of an operation apart from deposits is committed, whatever it looked at before,
  and something of it may be made known. -/
  | unit {session : Session} {kind : DeedKind} {after : World}
      (deed : Deed session kind throng.books after.books) (within : kind ∈ kinds)
      (apart : kind ∉ depositKinds) :
      Next kinds asks throng { throng with scene := { throng.scene with world := after } }

/-- What comes of it, in any order and number. -/
def Mingled (kinds : List DeedKind) (asks : Terms → Prop) : Throng → Throng → Prop :=
  Relation.ReflTransGen (Next kinds asks)

section

variable {kinds : List DeedKind} {asks : Terms → Prop}

theorem mingled_turns (turns : List (Turn Rewrite)) (own : ∀ turn ∈ turns, turn.isCallers)
    (throng : Throng) : Mingled kinds asks throng (turns.foldl Throng.turn throng) := by
  induction turns generalizing throng with
  | nil => exact .refl
  | cons turn rest ih =>
    exact .head (.turn turn (own turn List.mem_cons_self))
      (ih (fun other member => own other (List.mem_cons_of_mem _ member)) _)

theorem mingled_moves (moves : List Move)
    (within : ∀ move ∈ moves, ∀ kind ∈ moveKinds move, kind ∈ kinds)
    (asked : ∀ move ∈ moves, ∀ terms ∈ move.asked, asks terms) (throng : Throng) :
    Mingled kinds asks throng { throng with scene := Interleaving.run moves throng.scene } := by
  induction moves generalizing throng with
  | nil => exact .refl
  | cons move rest ih =>
    exact .head (.move move (within move List.mem_cons_self) (asked move List.mem_cons_self))
      (ih (fun other member => within other (List.mem_cons_of_mem _ member))
        (fun other member => asked other (List.mem_cons_of_mem _ member)) (throng.move move))

end

/-! ### What a step does -/

/-- Deeds apart from deposits were done, or a deposit made a stride. -/
inductive Led (kinds : List DeedKind) (before after : Interleaving.Scene) : Prop
  | apart {its : List DeedKind} (alone : LeftAlone before after)
      (happened : Happened its before.books after.books)
      (within : ∀ kind ∈ its, kind ∈ rewritingKinds ++ kinds)
      (apart : ∀ kind ∈ its, kind ∉ depositKinds)
  | deposit {terms : Terms} {more : List Terms} (credits : after.credits = before.credits ++ more)
      (stride : Stride terms before.books more after.books)

section

variable {kinds : List DeedKind} {asks : Terms → Prop} {throng after : Throng}

/-- **A turn of a caller** changes accounts, opens them or links wallets, and callers have found
valid what they are to add. -/
theorem turn_happened (sound : Sound throng.books)
    (judged : ∀ caller ∈ throng.callers, caller.Judged) (turn : Turn Rewrite)
    (own : turn.isCallers) :
    Happened rewritingKinds throng.books (throng.turn turn).books ∧
      ∀ caller ∈ (throng.turn turn).callers, caller.Judged := by
  cases turn with
  | other call => cases own
  | arrive input =>
    refine ⟨.nothing, fun caller member => ?_⟩
    rcases List.mem_append.mp member with old | new
    · exact judged caller old
    · rw [List.mem_singleton.mp new]
      trivial
  | step place session =>
    unfold Throng.turn
    cases there : throng.callers[place]? with
    | none =>
      rw [advance_of_none session there]
      exact ⟨.nothing, judged⟩
    | some caller =>
      have stepped := rewriter_happened session sound (judged caller (List.mem_of_getElem? there))
      rw [advance_step session there]
      refine ⟨stepped.1, fun other member => ?_⟩
      rcases List.mem_or_eq_of_mem_set member with old | rfl
      · exact judged other old
      · exact stepped.2

/-- **Every step** does deeds apart from deposits, or is a stride of a deposit. -/
theorem Next.led (next : Next kinds asks throng after) (sound : Sound throng.books)
    (judged : ∀ caller ∈ throng.callers, caller.Judged) :
    Led kinds throng.scene after.scene ∧ ∀ caller ∈ after.callers, caller.Judged := by
  cases next with
  | turn turn own =>
    obtain ⟨happened, judged⟩ := turn_happened sound judged turn own
    have apart : ∀ kind ∈ rewritingKinds, kind ∉ depositKinds := by decide
    exact ⟨.apart ⟨deposits_of_happened happened apart, rfl, rfl, rfl⟩ happened
      (fun _ => List.mem_append_left _) apart, judged⟩
  | unit deed within apart =>
    have happened := Happened.one deed (List.mem_singleton_self _)
    have apart : ∀ other ∈ [_], other ∉ depositKinds := List.forall_mem_singleton.mpr apart
    exact ⟨.apart ⟨deposits_of_happened happened apart, rfl, rfl, rfl⟩ happened
      (List.forall_mem_singleton.mpr (List.mem_append_right _ within)) apart, judged⟩
  | move move within asked =>
    refine ⟨?_, judged⟩
    by_cases deposit : move.isDeposit
    · obtain ⟨_, _, credits, stride⟩ := Interleaving.advance_strides throng.scene move sound deposit
      exact .deposit credits stride
    · cases move with
      | other call apart =>
        have happened := call.happened sound
        have apart := kinds_of_apart apart
        exact .apart ⟨deposits_of_happened happened apart, rfl, rfl, rfl⟩ happened
          (fun kind member => List.mem_append_right _ (within kind member)) apart
      | _ => exact absurd rfl deposit

end

/-! ### What every step keeps -/

section

variable {terms : Terms} {more : List Terms} {before after : Books}

/-- Deposits leave accounts and entries alone. -/
theorem agreed_of_stride (stride : Stride terms before more after) (agreed : Agreed before) :
    Agreed after := by
  rw [stride.rest]
  exact ⟨agreed.debits, agreed.credits, agreed.balances, agreed.even⟩

/-- A wallet and its status. -/
def ranked (row : WalletRow) : WalletId × Wallet.WalletStatus := (row.id, row.status)

/-- Deposits leave the statuses of wallets alone. -/
theorem ranked_of_stride (stride : Stride terms before more after) :
    after.wallets.map ranked = before.wallets.map ranked := by
  cases stride with
  | still => rfl
  | confirmed did => rw [did.left]
  | undone _ did => rw [did.left]
  | credited did =>
    rw [did.left]
    exact map_altered ranked fun _ => rfl
  | deposited did =>
    rw [did.left]
    exact map_altered ranked fun _ => rfl

end

/-- What is kept, whatever happens next. -/
structure Sustained (throng : Throng) : Prop where
  matched : Matched throng.scene
  agreed : Agreed throng.books
  balanced : Balanced (throng.scene.credits.map Terms.payment) throng.books
  judged : ∀ caller ∈ throng.callers, caller.Judged

section

variable {kinds : List DeedKind} {asks : Terms → Prop} {throng after : Throng}

theorem Sustained.fresh {supply : Supply} : Sustained (.fresh supply) :=
  ⟨.fresh, .fresh, .fresh, fun _ none => nomatch none⟩

/-- **Every step keeps it.** -/
theorem Sustained.next (sustained : Sustained throng) (next : Next kinds asks throng after) :
    Sustained after := by
  have sound := sustained.matched.sound
  obtain ⟨led, judged⟩ := next.led sound sustained.judged
  cases led with
  | apart alone happened within apart =>
    have pays : ∀ kind ∈ paymentKinds, kind ∈ depositKinds := by decide
    obtain ⟨sound, agreed, balanced⟩ := happened.preserves
      (fun books => Agreed books ∧ Balanced (throng.scene.credits.map Terms.payment) books)
      (fun member sound deed held => ⟨agreed_of_deed deed sound held.1, balanced_of_deed deed sound
        (fun paying => apart _ member (pays _ paying)) held.2⟩)
      sound ⟨sustained.agreed, sustained.balanced⟩
    exact ⟨sustained.matched.leftAlone alone sound, agreed, alone.credits ▸ balanced, judged⟩
  | deposit credits stride =>
    refine ⟨⟨stride.sound sound, ?_⟩, agreed_of_stride stride sustained.agreed, ?_, judged⟩
    · rw [credits, List.map_append]
      exact (sustained.matched.keys.append_right _).trans (stride.completedKeys sound).symm
    · rw [credits, List.map_append]
      exact stride.balanced sound sustained.balanced

/-- **It is kept for good.** -/
theorem Sustained.mingled (sustained : Sustained throng)
    (mingled : Mingled kinds asks throng after) :
    Sustained after := by
  induction mingled with
  | refl => exact sustained
  | tail _ next ih => exact ih.next next

/-- What there is under a key stays on terms that may be asked for. -/
theorem Bears.next {key : String} (bears : Bears asks key throng.scene)
    (sustained : Sustained throng) (next : Next kinds asks throng after) :
    Bears asks key after.scene := by
  have sound := sustained.matched.sound
  cases next with
  | move move within asked =>
    exact Interleaving.Bears.advance bears sound move fun terms wanted _ _ => asked terms wanted
  | turn turn own =>
    obtain ⟨happened, _⟩ := turn_happened sound sustained.judged turn own
    exact bears.leftAlone ⟨deposits_of_happened happened (by decide), rfl, rfl, rfl⟩
  | unit deed within apart =>
    have happened := Happened.one deed (List.mem_singleton_self _)
    exact bears.leftAlone ⟨deposits_of_happened happened (List.forall_mem_singleton.mpr apart),
      rfl, rfl, rfl⟩

theorem bears_of_mingled {key : String} (mingled : Mingled kinds asks throng after)
    (sustained : Sustained throng) (bears : Bears asks key throng.scene) :
    Bears asks key after.scene := by
  induction mingled with
  | refl => exact bears
  | tail earlier next ih => exact Bears.next ih (sustained.mingled earlier) next

/-- A step leaves every wallet its status, if no operation sets one. -/
theorem Next.ranked (next : Next kinds asks throng after) (sustained : Sustained throng)
    (unset : ∀ kind ∈ kinds, kind ∉ statusKinds) :
    throng.books.wallets.map ranked ⊆ after.books.wallets.map Turns.ranked := by
  obtain ⟨led, -⟩ := next.led sustained.matched.sound sustained.judged
  cases led with
  | deposit credits stride =>
    rw [ranked_of_stride stride]
    exact List.Subset.refl _
  | apart alone happened within apart =>
    intro standing held
    obtain ⟨old, member, rfl⟩ := List.mem_map.mp held
    have own : ∀ kind ∈ rewritingKinds, kind ∉ statusKinds := by decide
    obtain ⟨row, present, carried⟩ := Operation.carried_of_happened happened sustained.matched.sound
      (fun kind its => (List.mem_append.mp (within kind its)).elim (own kind) (unset kind)) member
    exact List.mem_map.mpr ⟨row, present, Prod.ext carried.id carried.status⟩

/-- As long as no operation sets a status, every wallet keeps its own. -/
theorem mingled_ranked (mingled : Mingled kinds asks throng after) (sustained : Sustained throng)
    (unset : ∀ kind ∈ kinds, kind ∉ statusKinds) :
    throng.books.wallets.map ranked ⊆ after.books.wallets.map ranked := by
  induction mingled with
  | refl => exact List.Subset.refl _
  | tail earlier next ih =>
    exact List.Subset.trans ih (next.ranked (sustained.mingled earlier) unset)

end

/-! ### What comes of it -/

/-- Deposits under one key ask for the same. -/
def Alike (asks : Terms → Prop) : Prop :=
  ∀ first second, asks first → asks second → first.key = second.key → first = second

/-- **What was read out of date loses nothing that others wrote.** Whatever comes of the steps of
callers, who change accounts and link wallets, of the units of work of deposits and of those of all
other operations, in any order and number:

* the totals of accounts are what the lines of entries that are no drafts come to;
* each wallet holds the credits that were made into it and what transfers and withdrawals left of
  them, and there is one credit under the key of every completed marker;
* so wallets hold what their markers come to, if each marker tells of the credit under its key, as
  all of them do if deposits under one key ask for the same;
* as long as no operation sets a status from then on, every wallet keeps its own, whichever caller
  had read it before it was set. -/
theorem mingled_balanced (supply : Supply) {kinds : List DeedKind} {asks : Terms → Prop}
    {throng : Throng} (mingled : Mingled kinds asks (.fresh supply) throng) :
    Agreed throng.books ∧
      Balanced (throng.scene.credits.map Terms.payment) throng.books ∧
      (throng.scene.credits.map Terms.key).Perm
        (throng.books.completedDeposits.map DepositRow.key) ∧
      ((∀ key, Truthful throng.scene key) → Reconciled throng.books) ∧
      (Alike asks → ∀ key, Truthful throng.scene key) ∧
      ∀ {others asked later}, (∀ kind ∈ others, kind ∉ statusKinds) →
        Mingled others asked throng later →
          throng.books.wallets.map ranked ⊆ later.books.wallets.map ranked := by
  have start : Sustained (.fresh supply) := .fresh
  have sustained := start.mingled mingled
  refine ⟨sustained.agreed, sustained.balanced, sustained.matched.keys,
    reconciled_of_truthful sustained.matched sustained.balanced, fun alike key => ?_,
    fun unset onward => mingled_ranked onward sustained unset⟩
  have bears : Bears asks key throng.scene := bears_of_mingled mingled start .fresh
  exact bears.truthful fun first second one two named other =>
    alike first second one two (named.trans other.symm)

/-- A wallet is opened, and read to be provided with an account. -/
def sampleRead : Throng :=
  [.arrive (.provide Operation.sampleWallet), .step 0 Operation.sampleSession].foldl Throng.turn
    ⟨Interleaving.run [Interleaving.sampleOpening (Operation.sampleOwner 7)] .fresh, []⟩

/-- A hundred are deposited into it, and it is frozen. -/
def sampleFreezing : List Move :=
  [.confirm Operation.sampleSession (Operation.sampleDeposit "first"),
    .credit 0 Operation.sampleSession, Interleaving.sampleStatus .frozen]

/-- What is left then. -/
def sampleFrozen : Throng :=
  { sampleRead with scene := Interleaving.run sampleFreezing sampleRead.scene }

/-- What is left when the wallet is linked after all. -/
def sampleLinked : Throng :=
  (List.replicate 6 (.step 0 Operation.sampleSession)).foldl Throng.turn sampleFrozen

/-- It is linked then, still frozen, and holds the hundred. -/
theorem mingled_balanced_frozen :
    (sampleFrozen.books.wallets.map fun row => row.ledgerAccount.isSome) = [false] ∧
      (sampleLinked.books.wallets.map fun row =>
        (row.ledgerAccount.isSome, row.balance.balance.units)) = [(true, 100)] ∧
      Reconciled sampleLinked.books ∧
      sampleFrozen.books.wallets.map ranked ⊆ sampleLinked.books.wallets.map ranked := by
  let asks : Terms → Prop := (· = ⟨"first", Operation.sampleWallet, Operation.sampleAmount⟩)
  have opened : Mingled [.walletOpened, .statusSet] asks .fresh sampleRead :=
    (mingled_moves [Interleaving.sampleOpening (Operation.sampleOwner 7)] (by decide) (by decide)
      _).trans (mingled_turns _ (by decide) _)
  have frozen : Mingled [.walletOpened, .statusSet] asks .fresh sampleFrozen :=
    opened.trans (mingled_moves sampleFreezing (by decide) (by decide +kernel) _)
  have linked : ∀ kinds, Mingled kinds asks sampleFrozen sampleLinked := fun kinds =>
    mingled_turns _ (by decide) _
  have alike : Alike asks := fun first second one two _ => one.trans two.symm
  obtain ⟨_, _, _, reconciled, truthful, -⟩ :=
    mingled_balanced .ascending (frozen.trans (linked _))
  exact ⟨by decide, by decide, reconciled (truthful alike),
    (mingled_balanced .ascending frozen).2.2.2.2.2 (by decide) (linked [])⟩

/-- A credit that was made on other terms than those of the marker that it completed. -/
def sampleCrossed : Throng := ⟨Interleaving.run Interleaving.sampleCrossing .fresh, []⟩

/-- **Balances need not be what markers come to.** The first wallet holds a hundred that no marker
tells of, and the second nothing of the two hundred that one tells of. -/
theorem mingled_unreconciled :
    (sampleCrossed.books.wallets.map fun row =>
        (row.balance.balance.units, net sampleCrossed.books row.id)) = [(100, 0), (0, 200)] ∧
      ¬∀ (kinds : List DeedKind) (throng : Throng),
        Mingled kinds (fun _ => True) .fresh throng → Reconciled throng.books := by
  have held : (sampleCrossed.books.wallets.map fun row =>
      (row.balance.balance.units, net sampleCrossed.books row.id)) = [(100, 0), (0, 200)] := by
    decide +kernel
  refine ⟨held, fun reconciled => ?_⟩
  have crossed : Mingled [.walletOpened, .statusSet] (fun _ => True) .fresh sampleCrossed :=
    mingled_moves Interleaving.sampleCrossing (by decide +kernel) (fun _ _ _ _ => trivial) .fresh
  have first : ((100, 0) : Int × Int) ∈ sampleCrossed.books.wallets.map fun row =>
      (row.balance.balance.units, net sampleCrossed.books row.id) := by
    rw [held]
    exact List.mem_cons_self
  obtain ⟨row, member, apart⟩ := List.mem_map.mp first
  have same := (reconciled _ _ crossed).balances row member
  rw [(Prod.mk.inj apart).1, (Prod.mk.inj apart).2] at same
  cases same

end Passbook.Turns
