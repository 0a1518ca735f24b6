/-
**What a move does that has to do with deposits.**

* `announce_ends`, `complete_ends`: how the first two units of work of an external deposit end;
* `Stride`: what such a move does to the books under the terms of the deposit at hand, and which
  credits it commits;
* `Does`: the same with what is put on record and with the deposits on their way;
* `Source`: whose terms they are, those that are asked for, or those of a deposit on its way or of a
  marker that stands;
* `advance_acts`: every such move does one of these under such terms, or nothing at all;
* `LeftAlone`, `advance_cases`: any other move leaves the markers, the deposits on their way and
  what is on record alone.
-/

import Passbook.Proofs.Interleaving.Stages
import Passbook.Proofs.Operation.Frame

namespace Passbook.Interleaving

open Passbook.Operation
open Passbook.Payments
open Passbook.Store
open Passbook.Store.Action (Ends Leaves)
open Passbook.Transfer (Receipt TransactionKey)

/-! ### How the units of work end -/

/-- **The first unit of work** leaves a confirmation, or finds one. -/
theorem announce_ends (session : Session) (request : MovementRequest) :
    Ends (announce session request) fun world told after =>
      TransactionKey.read request.key = .ok told.1 ∧
        Leaves (ConfirmBooked session request told.1) (fun _ => []) world told.2 after := by
  refine ((readKey_looks request.key).after fun key => (Ends.verdict _).after fun _ =>
    (setDeadline_looks session request.deadline).after fun _ =>
      (withinDeadline_ends session .deposit request.deadline fun _ => of_confirmDeposit).andThen
        (fun _ world => world) (fun confirmation => (key, confirmation)) fun _ _ => rfl).mono ?_
  rintro world _ _ ⟨key, read, _, _, _, _, confirmation, middle, did, rfl, rfl⟩
  exact ⟨read, did⟩

/-- **The second unit of work** credits the wallet, or finds that done. -/
theorem complete_ends (session : Session) (request : MovementRequest) (key : TransactionKey) :
    Ends (complete session request key) fun world receipt after =>
      ∃ earlier, receipt = ⟨.deposit, key, request.amount, earlier⟩ ∧
        (Sound world.books →
          CreditBooked session request key world.books earlier after.books) := by
  refine ((withinDeadline_ends session .deposit request.deadline of_creditConfirmed).andThen
    (fun earlier world => { world with published := world.published ++
      if earlier then [] else [depositEvent session request key] })
    (fun earlier => ⟨.deposit, key, request.amount, earlier⟩) fun earlier world => ?_).mono ?_
  · cases earlier with
    | true => exact settle_run (replay .deposit key request.amount) world
    | false =>
      exact settle_run (done .deposit key request.amount (depositEvent session request key)) world
  · rintro world _ _ ⟨earlier, middle, did, rfl, rfl⟩
    exact ⟨earlier, rfl, did.changed⟩

/-! ### What a move does -/

/-- What a move does to the books under the terms of a deposit, and the credits that it commits. -/
inductive Stride : Terms → Books → List Terms → Books → Prop
  | still {terms : Terms} {books : Books} : Stride terms books [] books
  | confirmed {session : Session} {request : MovementRequest} {key : TransactionKey}
      {before after : Books} (did : Confirmed session request key before after) :
      Stride (termsOf request key) before [] after
  | credited {session : Session} {request : MovementRequest} {key : TransactionKey}
      {marker : DepositRow} {wallet : WalletRow} {balance : Wallet.WalletBalance}
      {before after : Books}
      (did : Credited session request key marker wallet balance before after) :
      Stride (termsOf request key) before [termsOf request key] after
  | undone {terms : Terms} {key : TransactionKey} {before after : Books} (session : Session)
      (did : Undone key before after) : Stride terms before [] after
  | deposited {session : Session} {request : MovementRequest} {key : TransactionKey}
      {wallet : WalletRow} {balance : Wallet.WalletBalance} {before after : Books}
      (did : Deposited session request key wallet balance before after) :
      Stride (termsOf request key) before [termsOf request key] after

/-- Nothing is written but wallets and the markers of deposits. -/
theorem Stride.rest {terms : Terms} {before after : Books} {more : List Terms}
    (stride : Stride terms before more after) :
    after = { before with wallets := after.wallets, deposits := after.deposits } := by
  cases stride with
  | still => rfl
  | confirmed did => rw [did.left]
  | credited did => rw [did.left]
  | undone _ did => rw [did.left]
  | deposited did => rw [did.left]

/-- The terms of a marker. -/
def markerTerms (marker : DepositRow) : Terms := ⟨marker.key, marker.wallet, marker.amount⟩

/-- A marker of these terms stands. -/
def Marked (books : Books) (terms : Terms) : Prop :=
  ∃ marker ∈ books.deposits, markerTerms marker = terms

/-- The terms of a deposit on its way. -/
def Flight.terms (flight : Flight) : Terms := termsOf flight.request flight.key

/-- What a move does under the terms of a deposit. -/
structure Does (terms : Terms) (more : List Terms) (told : List Receipt) (scene after : Scene) :
    Prop where
  stride : Stride terms scene.books more after.books
  credits : after.credits = scene.credits ++ more
  receipts : after.receipts = scene.receipts ++ told
  flights : ∀ flight ∈ after.flights,
    flight.terms = terms ∨ ∃ old ∈ scene.flights, flight.terms = old.terms
  truth : ∀ receipt ∈ told, receipt.key.text = terms.key ∧ receipt.amount = terms.amount

/-- A move has to do with deposits. -/
def Move.isDeposit : Move → Bool
  | .other _ _ => false
  | _ => true

/-- The terms that a move asks for. -/
def Move.asked : Move → Option Terms
  | .confirm _ request => some ⟨Text.trim request.key, request.wallet, request.amount⟩
  | .deposit _ request => some ⟨Text.trim request.key, request.wallet, request.amount⟩
  | _ => none

/-- Whose terms they are under which a move does something. -/
inductive Source (scene : Scene) (move : Move) (terms : Terms) : Prop
  /-- They are asked for, and a marker of theirs stands then. -/
  | asked (asked : terms ∈ move.asked) (marked : Marked (advance scene move).books terms)
  | flight {flight : Flight} (member : flight ∈ scene.flights) (same : flight.terms = terms)
  | marker (marked : Marked scene.books terms)

/-- A move does something under terms of a known source, or nothing at all. -/
def Acts (scene : Scene) (move : Move) : Prop :=
  advance scene move = scene ∨ ∃ terms more told,
    Source scene move terms ∧ Does terms more told scene (advance scene move)

section

variable {session : Session} {request : MovementRequest} {key : TransactionKey}
  {before after : Books}

/-- The marker of a confirmation stands, be it new or found. -/
theorem marked_of_confirmBooked {confirmation : Confirmation}
    (did : ConfirmBooked session request key before confirmation after) :
    Marked after (termsOf request key) := by
  have borne : ∀ marker : DepositRow, before.deposit? key.text = some marker →
      marker.wallet = request.wallet → marker.amount = request.amount →
        Marked before (termsOf request key) := by
    intro marker found sameWallet sameAmount
    obtain ⟨member, named⟩ := mem_of_deposit? found
    exact ⟨marker, member, by rw [markerTerms, named, sameWallet, sameAmount, termsOf]⟩
  cases did with
  | completed found sameWallet sameAmount _ => exact borne _ found sameWallet sameAmount
  | pending found sameWallet sameAmount _ => exact borne _ found sameWallet sameAmount
  | confirmed did =>
    rw [did.left]
    exact ⟨_, List.mem_append_right _ (List.mem_singleton_self _), rfl⟩

theorem stride_of_confirmBooked {confirmation : Confirmation}
    (did : ConfirmBooked session request key before confirmation after) :
    Stride (termsOf request key) before [] after := by
  cases did with
  | completed _ _ _ _ => exact .still
  | pending _ _ _ _ => exact .still
  | confirmed did => exact .confirmed did

theorem stride_of_creditBooked {earlier : Bool}
    (did : CreditBooked session request key before earlier after) :
    Stride (termsOf request key) before (if earlier then [] else [termsOf request key]) after := by
  cases did with
  | found _ _ => exact .still
  | made did => exact .credited did

/-- A deposit finds a marker under its key, or makes one. -/
theorem depositBooked_cases {booked : Booked}
    (did : DepositBooked session request key before booked after) :
    (∃ marker ∈ before.deposits, marker.key = key.text ∧
        booked = replay .deposit key marker.amount ∧ after = before) ∨
      (booked = done .deposit key request.amount (depositEvent session request key) ∧
        Stride (termsOf request key) before [termsOf request key] after ∧
          Marked after (termsOf request key)) := by
  cases did with
  | found found _ =>
    obtain ⟨member, named⟩ := mem_of_deposit? found
    exact .inl ⟨_, member, named, rfl, rfl⟩
  | made did =>
    refine .inr ⟨rfl, .deposited did, ?_⟩
    rw [did.left]
    exact ⟨_, List.mem_append_right _ (List.mem_singleton_self _), rfl⟩

theorem stride_of_takeBack {terms : Terms} {world : World} (sound : Sound world.books) :
    Stride terms world.books [] (takeBack session key world).books := by
  unfold takeBack
  rcases Ends.leaves session of_rollbackConfirmation world with
    ⟨cause, same⟩ | ⟨count, after, same, did⟩
  · rw [same]
    exact .still
  · rw [same]
    exact .undone session (did.changed sound)

end

/-! ### Moves one by one -/

section

variable {scene after : Scene} {move : Move} {terms : Terms} {more : List Terms}
  {told : List Receipt}

theorem Acts.of_asked (left : advance scene move = after) (asked : terms ∈ move.asked)
    (marked : Marked after.books terms) (did : Does terms more told scene after) :
    Acts scene move := by
  subst left
  exact .inr ⟨terms, more, told, .asked asked marked, did⟩

theorem Acts.of_flight {flight : Flight} (left : advance scene move = after)
    (member : flight ∈ scene.flights) (did : Does flight.terms more told scene after) :
    Acts scene move := by
  subst left
  exact .inr ⟨flight.terms, more, told, .flight member rfl, did⟩

theorem Acts.of_marker {marker : DepositRow} (left : advance scene move = after)
    (member : marker ∈ scene.books.deposits)
    (did : Does (markerTerms marker) more told scene after) : Acts scene move := by
  subst left
  exact .inr ⟨markerTerms marker, more, told, .marker ⟨marker, member, rfl⟩, did⟩

/-- A deposit in its place has been on its way. -/
theorem mem_of_due {place : Nat} {progress : Progress} {flight : Flight}
    (due : scene.due place progress = some flight) : flight ∈ scene.flights :=
  List.mem_of_getElem? (Option.eq_some_of_filter_eq_some due)

/-- A deposit that comes further keeps its terms. -/
theorem terms_of_reach {place : Nat} {flight other : Flight} {progress : Progress}
    (member : other ∈ (scene.reach place flight progress).flights) :
    other.terms = flight.terms ∨ ∃ old ∈ scene.flights, other.terms = old.terms := by
  rcases List.mem_or_eq_of_mem_set member with present | rfl
  · exact .inr ⟨other, present, rfl⟩
  · exact .inl rfl

end

section

variable {scene : Scene} {session : Session} {request : MovementRequest}

/-- What is asked for under a text is asked for under the key that is read from it. -/
theorem asked_of_read {key : TransactionKey} (read : TransactionKey.read request.key = .ok key) :
    (⟨Text.trim request.key, request.wallet, request.amount⟩ : Terms) = termsOf request key := by
  rw [termsOf, (TransactionKey.of_read read).1]

theorem confirm_acts (sound : Sound scene.books) : Acts scene (.confirm session request) := by
  have left : advance scene (.confirm session request) = scene.confirm session request := rfl
  unfold Scene.confirm at left
  rcases announce_ends session request scene.world with
    ⟨cause, same⟩ | ⟨⟨key, confirmation⟩, after, same, read, did⟩
  · rw [same] at left
    exact .inl left
  · have booked := did.changed sound
    have stride := stride_of_confirmBooked booked
    have marked := marked_of_confirmBooked booked
    have asked : termsOf request key ∈ (Move.confirm session request).asked :=
      congrArg some (asked_of_read read)
    rw [same] at left
    cases confirmation with
    | completed amount =>
      refine .of_asked left asked marked ⟨stride, rfl, rfl,
        fun flight member => .inr ⟨flight, member, rfl⟩, fun receipt only => ?_⟩
      rw [List.mem_singleton.mp only]
      generalize after.books = books at booked
      cases booked with
      | completed _ _ sameAmount _ => exact ⟨rfl, sameAmount⟩
    | pending =>
      refine .of_asked left asked marked ⟨stride, (List.append_nil _).symm,
        (List.append_nil _).symm, fun flight member => ?_, fun receipt none => nomatch none⟩
      rcases List.mem_append.mp member with present | added
      · exact .inr ⟨flight, present, rfl⟩
      · rw [List.mem_singleton.mp added]
        exact .inl rfl

theorem credit_acts (sound : Sound scene.books) (place : Nat) :
    Acts scene (.credit place session) := by
  have left : advance scene (.credit place session) = scene.credit place session := rfl
  unfold Scene.credit at left
  cases due : scene.due place .owed with
  | none =>
    rw [due] at left
    exact .inl left
  | some flight =>
    have member := mem_of_due due
    rcases complete_ends session flight.request flight.key scene.world with
      ⟨cause, same⟩ | ⟨_, after, same, earlier, rfl, did⟩
    · simp only [due, same] at left
      exact .of_flight left member ⟨.still, (List.append_nil _).symm, (List.append_nil _).symm,
        fun _ => terms_of_reach, fun receipt none => nomatch none⟩
    · simp only [due, same] at left
      refine .of_flight left member ⟨stride_of_creditBooked (did sound), rfl, rfl,
        fun _ => terms_of_reach, fun receipt only => ?_⟩
      rw [List.mem_singleton.mp only]
      exact ⟨rfl, rfl⟩

theorem undo_acts (sound : Sound scene.books) (place : Nat) :
    Acts scene (.undo place session) := by
  have left : advance scene (.undo place session) = scene.undo place session := rfl
  unfold Scene.undo at left
  cases due : scene.due place .failed with
  | none =>
    rw [due] at left
    exact .inl left
  | some flight =>
    rw [due] at left
    exact .of_flight left (mem_of_due due) ⟨stride_of_takeBack sound, (List.append_nil _).symm,
      (List.append_nil _).symm, fun _ => terms_of_reach, fun receipt none => nomatch none⟩

theorem deposit_acts (sound : Sound scene.books) : Acts scene (.deposit session request) := by
  have left : advance scene (.deposit session request) = scene.deposit session request := rfl
  unfold Scene.deposit at left
  rcases processDeposit_ends session request scene.world with
    ⟨cause, same⟩ | ⟨receipt, after, same, receipted⟩
  · rw [same] at left
    exact .inl left
  · obtain ⟨key, booked, read, rfl, did, _⟩ := receipted.booked
    have old : ∀ terms : Terms, ∀ flight ∈ scene.flights,
        flight.terms = terms ∨ ∃ old ∈ scene.flights, flight.terms = old.terms :=
      fun terms flight member => .inr ⟨flight, member, rfl⟩
    rw [same] at left
    rcases depositBooked_cases (did sound) with
      ⟨marker, member, named, rfl, stays⟩ | ⟨rfl, stride, marked⟩
    · refine .of_marker left member ⟨?_, rfl, rfl, old _, fun receipt only => ?_⟩
      · show Stride _ scene.world.books [] after.books
        rw [stays]
        exact .still
      · rw [List.mem_singleton.mp only]
        exact ⟨named.symm, rfl⟩
    · refine .of_asked left (congrArg some (asked_of_read read)) marked
        ⟨stride, rfl, rfl, old _, fun receipt only => ?_⟩
      rw [List.mem_singleton.mp only]
      exact ⟨rfl, rfl⟩

end

/-- **A move that has to do with deposits** does something under terms of a known source, or nothing
at all. -/
theorem advance_acts (scene : Scene) (move : Move) (sound : Sound scene.books)
    (deposit : move.isDeposit) : Acts scene move := by
  cases move with
  | confirm session request => exact confirm_acts sound
  | credit place session => exact credit_acts sound place
  | undo place session => exact undo_acts sound place
  | deposit session request => exact deposit_acts sound
  | other call apart => cases deposit

/-- Of the books and the credits alone: every such move is a stride, be it one that stands still. -/
theorem advance_strides (scene : Scene) (move : Move) (sound : Sound scene.books)
    (deposit : move.isDeposit) :
    ∃ terms more, (advance scene move).credits = scene.credits ++ more ∧
      Stride terms scene.books more (advance scene move).books := by
  rcases advance_acts scene move sound deposit with same | ⟨terms, more, _, _, did⟩
  · rw [same]
    exact ⟨⟨"", sampleWallet, .zero⟩, [], (List.append_nil _).symm, .still⟩
  · exact ⟨terms, more, did.credits, did.stride⟩

/-! ### Other moves -/

/-- The markers, the deposits on their way and what is on record of them are left alone. -/
structure LeftAlone (scene after : Scene) : Prop where
  markers : after.books.deposits = scene.books.deposits
  flights : after.flights = scene.flights
  credits : after.credits = scene.credits
  receipts : after.receipts = scene.receipts

/-- Deeds apart from deposits leave their markers alone. -/
theorem deposits_of_happened {kinds : List DeedKind} {before after : Books}
    (happened : Happened kinds before after) (apart : ∀ kind ∈ kinds, kind ∉ depositKinds) :
    after.deposits = before.deposits := by
  have writes : ∀ kind : DeedKind, kind ∉ depositKinds →
      Table.processedDeposits ∉ kind.writes := by
    intro kind
    cases kind <;> decide
  exact happened.untouched fun kind member => writes kind (apart kind member)

theorem kinds_of_apart {call : Call} (apart : isApart call) :
    ∀ kind ∈ call.kinds, kind ∉ depositKinds := by
  intro kind member
  simpa using List.all_eq_true.mp apart kind member

/-- **A move does something under terms of a known source, or leaves it all alone.** -/
theorem advance_cases (scene : Scene) (move : Move) (sound : Sound scene.books) :
    LeftAlone scene (advance scene move) ∨ ∃ terms more told,
      Source scene move terms ∧ Does terms more told scene (advance scene move) := by
  by_cases deposit : move.isDeposit = true
  · refine (advance_acts scene move sound deposit).imp (fun same => ?_) id
    rw [same]
    exact ⟨rfl, rfl, rfl, rfl⟩
  · cases move with
    | other call apart =>
      have markers := deposits_of_happened (call.happened sound) (kinds_of_apart apart)
      exact .inl ⟨markers, rfl, rfl, rfl⟩
    | _ => exact absurd rfl deposit

end Passbook.Interleaving
