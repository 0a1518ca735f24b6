/-
**Work that keeps to some of the places.**

* `Confined`: among the rows of its places alone a unit of work does what it does among all rows,
  and it leaves the rows of other places;
* `Confined.bind` and its like: work that is made of such work;
* `confined_insert`, `confined_remove`, `confined_changeOne`: statements on rows of the places;
* `confined_changeWallet` and its like: those on wallets, limits and markers.
-/

import Passbook.Proofs.Store.Place

namespace Passbook.Store

variable {ε ε' α β ρ : Type} {scope : Scope}

/-- Among the rows of its places alone a unit of work does what it does among all rows, and it
leaves the rows of other places. -/
structure Confined (scope : Scope) (work : Work ε α) : Prop where
  within : ∀ {books}, Sound books →
    work (books.within scope) = (work books).map fun (value, after) => (value, after.within scope)
  beyond : ∀ {books value after}, Sound books → work books = .ok (value, after) →
    Sound after ∧ after.within scope.others = books.within scope.others

theorem Work.bind_run (work : Work ε α) (next : α → Work ε β) (books : Books) :
    (work >>= next) books = (work books).bind fun (value, after) => next value after :=
  rfl

namespace Confined

theorem verdict (result : Except ε α) : Confined scope (Work.verdict result) where
  within _ := by cases result <;> rfl
  beyond := fun sound ran => by
    obtain ⟨_, rfl⟩ := Work.verdict_eq_ok.mp ran
    exact ⟨sound, rfl⟩

theorem pure (value : α) : Confined scope (Pure.pure value : Work ε α) := verdict (.ok value)

theorem throw (cause : ε) : Confined scope (MonadExcept.throw cause : Work ε α) :=
  verdict (.error cause)

theorem found (cause : ε) (row : Option α) : Confined scope (Work.found cause row) := by
  cases row with
  | some value => exact pure value
  | none => exact throw cause

theorem mapError {work : Work ε α} (change : ε → ε') (confined : Confined scope work) :
    Confined scope (Work.mapError change work) where
  within := fun {books} sound => by
    unfold Work.mapError
    rw [confined.within sound]
    cases work books <;> rfl
  beyond sound ran := confined.beyond sound (Work.mapError_eq_ok.mp ran)

theorem stored [StorageCause ε] {work : Work StorageFault α} (confined : Confined scope work) :
    Confined scope (Work.stored work : Work ε α) :=
  confined.mapError _

/-- Work that is followed by other work, of which no more has to be known than what is asked of what
was done first. -/
theorem bind {work : Work ε α} {next : α → Work ε β} (first : Confined scope work)
    (rest : ∀ {value before after}, Sound before → work before = .ok (value, after) →
      Confined scope (next value)) : Confined scope (work >>= next) where
  within := fun {books} sound => by
    rw [Work.bind_run, Work.bind_run, first.within sound]
    cases ran : work books with
    | error cause => rfl
    | ok done =>
      obtain ⟨value, after⟩ := done
      exact (rest sound ran).within (first.beyond sound ran).1
  beyond := fun {books result last} sound ran => by
    obtain ⟨value, middle, ran, later⟩ := Work.bind_eq_ok.mp ran
    obtain ⟨sound', same⟩ := first.beyond sound ran
    obtain ⟨sound'', same'⟩ := (rest sound ran).beyond sound' later
    exact ⟨sound'', same'.trans same⟩

/-- Work that first looks at the books, and depends on what is chosen there alone. -/
theorem look {γ : Type} {next : Books → Work ε α} (choose : Books → γ)
    (same : ∀ books : Books, choose (books.within scope) = choose books)
    (depends : ∀ {books books'}, choose books = choose books' → next books = next books')
    (rest : ∀ books, Confined scope (next books)) : Confined scope (get >>= next) where
  within := fun {books} sound => by
    show next (books.within scope) (books.within scope) = (next books books).map _
    rw [depends (same books)]
    exact (rest books).within sound
  beyond := fun {books} _ _ sound ran => (rest books).beyond sound ran

theorem lookUp [StorageCause ε] (sheet : Sheet ρ) {choose : Books → Option ρ}
    (same : ∀ books : Books, choose (books.within scope) = choose books) :
    Confined scope (Work.lookUp sheet choose : Work ε (Option ρ)) where
  within := fun {books} sound => by
    have plain : (books.within scope).strays = [] := sound.plain
    rw [Work.lookUp_of_plain sound.plain, Work.lookUp_of_plain plain, same]
    rfl
  beyond := fun sound ran => by
    obtain ⟨_, rfl⟩ := Work.of_lookUp ran
    exact ⟨sound, rfl⟩

end Confined

/-! ### Rows found within places -/

/-- Among the rows of some places the row that is found is the one found among all, if it has one of
the places. -/
theorem find?_filter_of_imp {rows : List ρ} {kept chosen : ρ → Bool}
    (inside : ∀ row, chosen row = true → kept row = true) :
    (rows.filter kept).find? chosen = rows.find? chosen := by
  rw [List.find?_filter]
  congr 1
  funext row
  cases picked : chosen row with
  | false => simp
  | true => simp [inside row picked]

/-- The same of rows that are chosen. -/
theorem filter_filter_of_imp {rows : List ρ} {kept chosen : ρ → Bool}
    (inside : ∀ row, chosen row = true → kept row = true) :
    (rows.filter kept).filter chosen = rows.filter chosen := by
  rw [List.filter_filter]
  refine List.filter_congr fun row _ => ?_
  cases picked : chosen row with
  | false => rfl
  | true => rw [inside row picked, Bool.and_true]

theorem wallet?_within {id : WalletId} (its : scope (.wallet id) = true) (books : Books) :
    (books.within scope).wallet? id = books.wallet? id := by
  refine find?_filter_of_imp fun row chosen => ?_
  rw [Bool.and_eq_true_iff, beq_iff_eq] at chosen
  rw [chosen.1]
  exact its

theorem limits?_within {wallet : WalletId} (its : scope (.wallet wallet) = true) (books : Books) :
    (books.within scope).limits? wallet = books.limits? wallet := by
  refine find?_filter_of_imp fun row chosen => ?_
  rw [Bool.and_eq_true_iff, beq_iff_eq] at chosen
  rw [chosen.1]
  exact its

theorem transfer?_within {key : String} (its : scope (.transfer key) = true) (books : Books) :
    (books.within scope).transfer? key = books.transfer? key :=
  find?_filter_of_imp fun row chosen => by rw [eq_of_beq chosen]; exact its

theorem deposit?_within {key : String} (its : scope (.deposit key) = true) (books : Books) :
    (books.within scope).deposit? key = books.deposit? key :=
  find?_filter_of_imp fun row chosen => by rw [eq_of_beq chosen]; exact its

theorem withdrawal?_within {key : String} (its : scope (.withdrawal key) = true) (books : Books) :
    (books.within scope).withdrawal? key = books.withdrawal? key :=
  find?_filter_of_imp fun row chosen => by rw [eq_of_beq chosen]; exact its

/-! ### Statements -/

section

variable {sheet : Sheet ρ} {place : ρ → Place} {faults : Faults}

/-- What is beyond the places stays when the rows of other places do. -/
theorem Placed.beyond (placed : Placed sheet place) {books : Books} {rows : List ρ}
    (same : (rows.filter fun row => scope.others (place row)) =
      (sheet.rows books).filter fun row => scope.others (place row)) :
    (sheet.replace books rows).within scope.others = books.within scope.others := by
  rw [placed.replace, same, ← placed.rows, placed.replaceRows]

/-- A row added in one of the places. -/
theorem confined_insert (placed : Placed sheet place) {row : ρ} (its : scope (place row) = true)
    (alike : ∀ {books other}, sheet.clashes books row other = true → place other = place row)
    (sound : ∀ {books after}, Sound books → insert faults sheet row books = .ok ((), after) →
      Sound after) : Confined scope (insert faults sheet row) where
  within := fun {books} sound => by
    have clashing : ((sheet.rows books).filter fun row => scope (place row)).any
        (sheet.clashes books row) = (sheet.rows books).any (sheet.clashes books row) := by
      rw [List.any_filter]
      congr 1
      funext other
      cases clash : sheet.clashes books row other with
      | false => rw [Bool.and_false]
      | true => rw [alike clash, its, Bool.and_true]
    have left : sheet.replace (books.within scope)
        (((sheet.rows books).filter fun row => scope (place row)) ++ [row]) =
          (sheet.replace books (sheet.rows books ++ [row])).within scope := by
      rw [placed.replace, List.filter_append, List.filter_singleton, its, cond_true]
    have plain := (placed.strays books (sheet.rows books ++ [row])).trans sound.plain
    unfold insert
    simp only [placed.rows, placed.clashes, placed.isFit, clashing, left,
      placed.isLinked plain its]
    split
    · rfl
    · split
      · rfl
      · split <;> rfl
  beyond := fun sound' ran => by
    refine ⟨sound sound' ran, ?_⟩
    obtain ⟨_, _, _, _, _, rfl⟩ := insert_eq_ok.mp ran
    refine placed.beyond ?_
    have not : scope.others (place row) = false := by rw [Scope.others, its, Bool.not_true]
    rw [List.filter_append, List.filter_singleton, not, cond_false, List.append_nil]

/-- Rows of the places that nothing refers to, removed. -/
theorem confined_remove (placed : Placed sheet place) {chosen : ρ → Bool}
    (inside : ∀ row, chosen row = true → scope (place row) = true)
    (sound : ∀ {books count after}, Sound books →
      remove faults sheet unreferred chosen books = .ok (count, after) → Sound after) :
    Confined scope (remove faults sheet unreferred chosen) where
  within := fun {books} sound => by
    have left : sheet.replace (books.within scope)
        (((sheet.rows books).filter fun row => scope (place row)).filter fun row => !chosen row) =
          (sheet.replace books ((sheet.rows books).filter fun row => !chosen row)).within scope := by
      rw [placed.replace, List.filter_filter, List.filter_filter]
      simp only [Bool.and_comm]
    have free : (unreferred (books.within scope) : ρ → Bool) = unreferred books := rfl
    unfold remove
    simp only [placed.rows, filter_filter_of_imp inside, left, free]
    split
    · rfl
    · split
      · rfl
      · split <;> rfl
  beyond := fun {books _ _} sound' ran => by
    refine ⟨sound sound' ran, ?_⟩
    obtain ⟨_, ⟨_, rfl⟩ | ⟨_, _, _, rfl⟩⟩ := (remove_eq_ok sound'.plain).mp ran
    · rfl
    · have plain : (sheet.replace books ((sheet.rows books).filter fun row =>
          !chosen row)).strays = [] := (placed.strays _ _).trans sound'.plain
      rw [← plain]
      refine placed.beyond (filter_filter_of_imp fun row its => ?_)
      cases picked : chosen row with
      | false => rfl
      | true =>
        rw [Scope.others, inside row picked] at its
        cases its

section

variable {κ : Type} [BEq κ] [LawfulBEq κ] [DecidableEq κ] {key : ρ → κ} {id : κ} {alter : ρ → ρ}

/-- Among the rows of its place alone the row under a key is changed as among all rows. -/
theorem change_within (placed : Placed sheet place)
    (inside : ∀ row, key row = id → scope (place row) = true)
    (stays : ∀ row, place (alter row) = place row)
    (distinct : ∀ {books}, Sound books →
      allDistinct (sheet.clashes books) (altered key id alter (sheet.rows books)) = true)
    {books : Books} (sound : Sound books) :
    change faults sheet (fun row => key row == id) alter (books.within scope) =
      (change faults sheet (fun row => key row == id) alter books).map
        fun (count, after) => (count, after.within scope) := by
  have chosen : ∀ row, (key row == id) = true → scope (place row) = true :=
    fun row picked => inside row (eq_of_beq picked)
  have remains (row : ρ) : place (if (key row == id) = true then alter row else row) = place row := by
    split
    · exact stays row
    · rfl
  have rows : (((sheet.rows books).filter fun row => scope (place row)).map fun row =>
      if (key row == id) = true then alter row else row) =
        ((sheet.rows books).map fun row =>
          if (key row == id) = true then alter row else row).filter fun row =>
            scope (place row) := by
    rw [List.filter_map]
    congr 2
    funext row
    exact congrArg scope (remains row).symm
  have left := placed.replace books scope ((sheet.rows books).map fun row =>
    if (key row == id) = true then alter row else row)
  have allowed := distinct sound
  have allowedWithin := distinct (sound.within scope)
  rw [← map_eq_altered] at allowed allowedWithin
  rw [placed.clashes, placed.rows, rows] at allowedWithin
  have linked (after : Books) (plain : after.strays = []) :
      (((sheet.rows books).filter fun row => key row == id).all fun row =>
        sheet.isLinked (after.within scope) (alter row)) =
          ((sheet.rows books).filter fun row => key row == id).all fun row =>
            sheet.isLinked after (alter row) := by
    rw [Bool.eq_iff_iff, List.all_eq_true, List.all_eq_true]
    refine forall₂_congr fun row touched => ?_
    have its : scope (place (alter row)) = true := by
      rw [stays]
      exact chosen row (List.mem_filter.mp touched).2
    rw [placed.isLinked plain its]
  unfold change
  simp only [placed.rows, placed.clashes, placed.isFit, filter_filter_of_imp chosen, rows, ← left,
    allowed, allowedWithin, linked _ ((placed.strays books _).trans sound.plain)]
  split
  · rfl
  · split
    · rfl
    · split
      · rfl
      · split <;> rfl

/-- The row under a key in one of the places, changed. -/
theorem confined_changeOne (placed : Placed sheet place)
    (inside : ∀ row, key row = id → scope (place row) = true)
    (stays : ∀ row, place (alter row) = place row)
    (distinct : ∀ {books}, Sound books →
      allDistinct (sheet.clashes books) (altered key id alter (sheet.rows books)) = true)
    (sound : ∀ {books after}, Sound books →
      changeOne faults sheet (fun row => key row == id) alter books = .ok ((), after) →
        Sound after) :
    Confined scope (changeOne faults sheet (fun row => key row == id) alter) where
  within := fun {books} sound => by
    unfold changeOne
    rw [Work.bind_run, Work.bind_run, change_within placed inside stays distinct sound]
    cases change faults sheet (fun row => key row == id) alter books with
    | error fault => rfl
    | ok done =>
      obtain ⟨count, after⟩ := done
      by_cases none : count = 0
      · simp only [Except.map, Except.bind, none, if_true]
        rfl
      · simp only [Except.map, Except.bind, none, if_false]
        rfl
  beyond := fun {books _ _} sound' ran => by
    refine ⟨sound sound' ran, ?_⟩
    obtain ⟨-, rfl⟩ := of_changeOne ran
    refine placed.beyond ?_
    -- beyond the places no row is under the key
    have remains (row : ρ) :
        scope.others (place (if key row = id then alter row else row)) =
          scope.others (place row) := by
      split
      · rw [stays]
      · rfl
    rw [altered, List.filter_map]
    simp only [Function.comp_def, remains]
    refine (List.map_congr_left fun row member => if_neg fun same => ?_).trans (List.map_id _)
    have its := (List.mem_filter.mp member).2
    rw [Scope.others, inside row same] at its
    cases its

end

end

/-! ### The tables -/

section

variable (faults : Faults)

/-- A change of a wallet that stays its owner's. -/
theorem confined_changeWallet {id : WalletId} {alter : WalletRow → WalletRow}
    (its : scope (.wallet id) = true) (sameId : ∀ row, (alter row).id = row.id)
    (sameSlot : ∀ row, (alter row).slot = row.slot) :
    Confined scope (changeOne faults walletSheet (fun row => row.id == id) alter) := by
  refine confined_changeOne placed_wallets (fun row same => same ▸ its)
    (fun row => congrArg Place.wallet (sameId row)) (fun {books} sound => ?_)
    fun {books after} sound ran => ?_
  · refine (walletSheet_allDistinct sound.plain).mpr ⟨?_, ?_⟩
    · rw [map_altered WalletRow.id sameId]
      exact sound.walletIds
    · rw [map_altered WalletRow.slot sameSlot]
      exact sound.slots
  · obtain ⟨⟨old, member, named, fit⟩, rfl⟩ := of_changeOne ran
    refine sound.alterWallets sameId sameSlot fun row present same => ?_
    rw [eq_of_key sound.walletIds present member (same.trans named.symm)]
    exact (walletSheet_isFit sound.plain).mp fit

/-- A change of the limits of a wallet. -/
theorem confined_changeLimits {wallet : WalletId} {alter : LimitsRow → LimitsRow}
    (its : scope (.wallet wallet) = true) (sameWallet : ∀ row, (alter row).wallet = row.wallet) :
    Confined scope (changeOne faults limitsSheet (fun row => row.wallet == wallet) alter) := by
  refine confined_changeOne placed_limits (fun row same => same ▸ its)
    (fun row => congrArg Place.wallet (sameWallet row)) (fun {books} sound => ?_)
    fun {books after} sound ran => ?_
  · refine (limitsSheet_allDistinct sound.plain).mpr ?_
    rw [map_altered LimitsRow.wallet sameWallet]
    exact sound.limitsWallets
  · obtain ⟨-, rfl⟩ := of_changeOne ran
    exact sound.alterLimits sameWallet

/-- A change of the marker of a deposit. -/
theorem confined_changeDeposit {key : String} {alter : DepositRow → DepositRow}
    (its : scope (.deposit key) = true) (sameKey : ∀ row, (alter row).key = row.key) :
    Confined scope (changeOne faults depositSheet (fun row => row.key == key) alter) := by
  refine confined_changeOne placed_deposits (fun row same => same ▸ its)
    (fun row => congrArg Place.deposit (sameKey row)) (fun {books} sound => ?_)
    fun {books after} sound ran => ?_
  · refine depositSheet_allDistinct.mpr ?_
    rw [map_altered DepositRow.key sameKey]
    exact sound.depositKeys
  · obtain ⟨-, rfl⟩ := of_changeOne ran
    exact sound.alterDeposits sameKey

/-- A marker, added under a key that no other marker of its table has. -/
theorem confined_addMarker {sheet : Sheet ρ} {place : String → Place} {key : ρ → String} {row : ρ}
    (placed : Placed sheet fun row => place (key row)) (its : scope (place (key row)) = true)
    (keyed : ∀ {books other}, sheet.clashes books row other = (key row == key other))
    (sound : ∀ {books}, Sound books → (∀ other ∈ sheet.rows books, key other ≠ key row) →
      Sound (sheet.replace books (sheet.rows books ++ [row]))) :
    Confined scope (insert faults sheet row) := by
  refine confined_insert placed its (fun {_ other} clash => ?_) fun {books after} sound' ran => ?_
  · rw [keyed] at clash
    exact congrArg place (eq_of_beq clash).symm
  · obtain ⟨_, _, _, alone, _, rfl⟩ := insert_eq_ok.mp ran
    refine sound sound' fun other member same => ?_
    have clash := alone other member
    rw [keyed, same, beq_self_eq_true] at clash
    cases clash

theorem confined_addTransfer {row : TransferRow} (its : scope (.transfer row.key) = true) :
    Confined scope (insert faults transferSheet row) :=
  confined_addMarker faults placed_transfers its rfl fun sound unused =>
    sound.addTransfer unused

theorem confined_addDeposit {row : DepositRow} (its : scope (.deposit row.key) = true) :
    Confined scope (insert faults depositSheet row) :=
  confined_addMarker faults placed_deposits its rfl fun sound unused =>
    sound.addDeposit unused

theorem confined_addWithdrawal {row : WithdrawalRow} (its : scope (.withdrawal row.key) = true) :
    Confined scope (insert faults withdrawalSheet row) :=
  confined_addMarker faults placed_withdrawals its rfl fun sound unused =>
    sound.addWithdrawal unused

/-- Markers of deposits of a key, removed. -/
theorem confined_removeDeposit {key : String} {chosen : DepositRow → Bool}
    (its : scope (.deposit key) = true) (keyed : ∀ row, chosen row = true → row.key = key) :
    Confined scope (remove faults depositSheet unreferred chosen) := by
  refine confined_remove placed_deposits (fun row picked => keyed row picked ▸ its)
    fun {books count after} sound ran => ?_
  obtain ⟨_, ⟨_, rfl⟩ | ⟨_, _, _, rfl⟩⟩ := (remove_eq_ok sound.plain).mp ran
  · exact sound
  · rw [← sound.plain]
    exact sound.filterDeposits _

end

end Passbook.Store
