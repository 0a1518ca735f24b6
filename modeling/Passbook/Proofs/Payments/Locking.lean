/-
**Wallets are taken in one order.**

* `Uuid.bytes_lt_iff`, `Uuid.text_lt_iff`: identifiers are in the order of their bytes, and of their
  written form, hyphens and all;
* `lockOrder_comm`, `lockOrder_perm`, `lockOrder_ascending`: both wallets of a transfer, the lower
  one first, whichever way round they are named; `lockPair_swap`: and so a transfer the other way
  takes the same two;
* `Taking`: a transfer that has taken some of its wallets; `Taking.awaits_rises`: along a chain of
  transfers that wait for each other the wallets that they wait for rise;
* `lockOrder_global`: the order is one linear order of all wallets, which no transfer leaves, so that
  transfers never wait in a circle.
-/

import Mathlib.Logic.Relation
import Passbook.Payments.Processing
import Passbook.Proofs.Text.Digits

namespace Passbook

/-! ### The order of identifiers -/

namespace Uuid

variable {first second : Uuid}

/-- The sixteen bytes, the highest first. -/
def bytes (uuid : Uuid) : List UInt8 := Text.places 256 UInt8.ofNat 16 uuid.value

/-- Bytes are in the order of their values. -/
theorem rising_ofNat : Text.Rising 256 UInt8.ofNat where
  positive := by decide
  lt_iff value small other small' := by
    rw [UInt8.lt_iff_toNat_lt, UInt8.toNat_ofNat_of_lt' small, UInt8.toNat_ofNat_of_lt' small']
  inj value small other small' same := by
    rw [← UInt8.toNat_ofNat_of_lt' small, same, UInt8.toNat_ofNat_of_lt' small']

/-- **Identifiers are in the order of their bytes.** -/
theorem bytes_lt_iff : first.bytes < second.bytes ↔ first < second :=
  Text.places_lt_iff rising_ofNat first.fits second.fits

/-- Hyphens between groups of the same lengths leave the order as it is. -/
theorem hyphenate_lt_iff {chars chars' : List Char} (same : chars.length = chars'.length) :
    hyphenate chars < hyphenate chars' ↔ chars < chars' := by
  have each : ∀ count : Nat, (chars.take count).length = (chars'.take count).length :=
    fun count => by rw [List.length_take, List.length_take, same]
  have group : ∀ start count : Nat,
      ((chars.drop start).take count).length = ((chars'.drop start).take count).length :=
    fun start count => by simp only [List.length_take, List.length_drop, same]
  have rest : ∀ (text : List Char) (start : Nat),
      (text.drop start).take 4 ++ text.drop (start + 4) = text.drop start := fun text start => by
    rw [← List.drop_drop, List.take_append_drop]
  have whole : ∀ text : List Char, text.take 8 ++ ((text.drop 8).take 4 ++
      ((text.drop 12).take 4 ++ ((text.drop 16).take 4 ++ text.drop 20))) = text := fun text => by
    rw [rest text 16, rest text 12, rest text 8, List.take_append_drop]
  conv_rhs => rw [← whole chars, ← whole chars']
  simp only [hyphenate, Text.append_lt_append_iff (each 8), Text.append_lt_append_iff (group _ 4),
    List.cons_lt_cons_iff, Char.lt_irrefl, false_or, true_and]

/-- **Identifiers are in the order of their written form.** -/
theorem text_lt_iff : first.text < second.text ↔ first < second := by
  have same : first.digits.length = second.digits.length := by
    rw [digits, digits, Text.length_hexadecimal, Text.length_hexadecimal]
  rw [String.lt_iff, text, text, String.toList_ofList, String.toList_ofList,
    hyphenate_lt_iff same]
  exact Text.hexadecimal_lt_iff first.fits second.fits

end Uuid

section Ids

variable {kind : IdKind}

instance : Std.IsLinearOrder (Id kind) where
  le_refl id := Nat.le_refl id.uuid.value
  le_trans _ _ _ lower higher := Nat.le_trans lower higher
  le_antisymm _ _ lower higher := Id.ext (Uuid.ext (Nat.le_antisymm lower higher))
  le_total first second := Nat.le_total first.uuid.value second.uuid.value

instance : Std.LawfulOrderLT (Id kind) where
  lt_iff _ _ := Nat.lt_iff_le_and_not_ge

end Ids

/-! ### Two wallets -/

section Pairs

variable {first second : WalletId}

theorem lockOrder_of_le (lower : first ≤ second) : lockOrder first second = (first, second) :=
  if_pos lower

theorem lockOrder_of_not_le (higher : ¬first ≤ second) : lockOrder first second = (second, first) :=
  if_neg higher

/-- **It does not matter which way round two wallets are named.** -/
theorem lockOrder_comm (first second : WalletId) :
    lockOrder first second = lockOrder second first := by
  by_cases lower : first ≤ second
  · by_cases higher : second ≤ first
    · rw [Std.le_antisymm lower higher]
    · rw [lockOrder_of_le lower, lockOrder_of_not_le higher]
  · have higher : second ≤ first := Std.le_of_not_ge lower
    rw [lockOrder_of_not_le lower, lockOrder_of_le higher]

/-- Both wallets in the order in which they are taken. -/
def lockList (first second : WalletId) : List WalletId :=
  [(lockOrder first second).1, (lockOrder first second).2]

theorem lockOrder_perm (first second : WalletId) : (lockList first second).Perm [first, second] := by
  unfold lockList
  by_cases lower : first ≤ second
  · rw [lockOrder_of_le lower]
  · rw [lockOrder_of_not_le lower]
    exact List.Perm.swap first second []

theorem lockOrder_le (first second : WalletId) :
    (lockOrder first second).1 ≤ (lockOrder first second).2 := by
  by_cases lower : first ≤ second
  · rwa [lockOrder_of_le lower]
  · rw [lockOrder_of_not_le lower]
    exact Std.le_of_not_ge lower

/-- **Two different wallets are taken with the lower one first.** -/
theorem lockList_ascending (apart : first ≠ second) : (lockList first second).Pairwise (· < ·) := by
  have distinct : (lockList first second).Nodup := (lockOrder_perm first second).nodup_iff.mpr
    (List.nodup_cons.mpr ⟨fun same => apart (List.mem_singleton.mp same), List.pairwise_singleton ..⟩)
  have least : (lockOrder first second).1 < (lockOrder first second).2 :=
    Std.lt_of_le_of_ne (lockOrder_le first second) fun same =>
      (List.nodup_cons.mp distinct).1 (List.mem_singleton.mpr same)
  exact List.pairwise_pair.mpr least

/-- A transfer the other way takes the same two rows in the same order. -/
theorem lockPair_swap (apart : first ≠ second) :
    Payments.lockPair second first = Prod.swap <$> Payments.lockPair first second := by
  unfold Payments.lockPair
  rw [lockOrder_comm second first]
  by_cases lower : first ≤ second
  · simp [lockOrder_of_le lower, apart]
  · simp [lockOrder_of_not_le lower, apart.symm]

end Pairs

/-! ### Transfers under way -/

/-- A transfer between two wallets that has taken some of them. -/
structure Taking where
  request : Payments.TransferRequest
  apart : request.source ≠ request.destination
  /-- How many of its wallets it has taken. -/
  taken : Nat

namespace Taking

variable {first second : Taking}

/-- Both wallets, in the order in which it takes them. -/
def needs (transfer : Taking) : List WalletId :=
  lockList transfer.request.source transfer.request.destination

/-- The wallets that nobody else can take now. -/
def holds (transfer : Taking) : List WalletId := transfer.needs.take transfer.taken

/-- The wallet that it has to take next, if it does not have both. -/
def next? (transfer : Taking) : Option WalletId := transfer.needs[transfer.taken]?

/-- It cannot go on before the other one has ended. -/
def Awaits (first second : Taking) : Prop :=
  ∃ wallet, first.next? = some wallet ∧ wallet ∈ second.holds

theorem needs_ascending (transfer : Taking) : transfer.needs.Pairwise (· < ·) :=
  lockList_ascending transfer.apart

/-- The wallet that comes next is higher than the ones that were taken. -/
theorem lt_next {transfer : Taking} {held wallet : WalletId} (member : held ∈ transfer.holds)
    (next : transfer.next? = some wallet) : held < wallet := by
  have split := transfer.needs_ascending
  rw [← List.take_append_drop transfer.taken transfer.needs] at split
  refine (List.pairwise_append.mp split).2.2 held member wallet (List.mem_of_mem_head? ?_)
  rwa [List.head?_drop]

/-- **Along transfers that wait for each other the wallets that they wait for rise.** -/
theorem awaits_rises (chain : Relation.TransGen Awaits first second) {wallet later : WalletId}
    (next : first.next? = some wallet) (next' : second.next? = some later) : wallet < later := by
  induction chain generalizing later with
  | single waits =>
    obtain ⟨awaited, named, held⟩ := waits
    obtain rfl : wallet = awaited := Option.some_inj.mp (next.symm.trans named)
    exact lt_next held next'
  | tail _ waits ih =>
    obtain ⟨between, named, held⟩ := waits
    exact Std.lt_trans (ih named) (lt_next held next')

/-- Nobody waits for itself, be it through others. -/
theorem not_awaits_itself (transfer : Taking) : ¬Relation.TransGen Awaits transfer transfer := by
  intro circle
  obtain ⟨_, ⟨wallet, next, _⟩, _⟩ := Relation.TransGen.head'_iff.mp circle
  exact Std.lt_irrefl (awaits_rises circle next next)

end Taking

/-- **Wallets are taken in one order, that of their written form**: whichever way round two wallets
are named, both are taken, the lower one first; which one is lower is a linear order of all wallets,
told by the bytes and by the written form alike. So whatever transfers are under way, each of them
takes its wallets in ascending order, and they never wait for each other in a circle. -/
theorem lockOrder_global :
    (∀ first second : WalletId, lockOrder first second = lockOrder second first ∧
      [(lockOrder first second).1, (lockOrder first second).2].Perm [first, second] ∧
      (lockOrder first second).1 ≤ (lockOrder first second).2 ∧
      (first < second ↔ first.uuid.bytes < second.uuid.bytes) ∧
      (first < second ↔ first.text < second.text)) ∧
    Std.IsLinearOrder WalletId ∧ Std.LawfulOrderLT WalletId ∧
    (∀ request : Payments.TransferRequest, request.source ≠ request.destination →
      (lockOrder request.source request.destination).1 <
        (lockOrder request.source request.destination).2) ∧
    ∀ transfer : Taking, ¬Relation.TransGen Taking.Awaits transfer transfer := by
  refine ⟨fun first second => ?_, inferInstance, inferInstance, fun request apart => ?_,
    Taking.not_awaits_itself⟩
  · exact ⟨lockOrder_comm first second, lockOrder_perm first second, lockOrder_le first second,
      Uuid.bytes_lt_iff.symm, Uuid.text_lt_iff.symm⟩
  · exact List.pairwise_pair.mp (lockList_ascending apart)

/-- A transfer from a wallet whose identifier starts with a letter to one whose starts with a
digit. -/
def sampleReturn : Payments.TransferRequest where
  source := ⟨⟨0xa0000000000000000000000000000000, by decide⟩⟩
  destination := ⟨⟨0x9fffffff000000000000000000000000, by decide⟩⟩
  amount := .one
  key := "back"
  deadline := none
  initiator := none

/-- It takes the wallet that the money goes to first. -/
theorem lockOrder_global_return :
    sampleReturn.source ≠ sampleReturn.destination ∧
      lockOrder sampleReturn.source sampleReturn.destination =
        (sampleReturn.destination, sampleReturn.source) ∧
      sampleReturn.destination < sampleReturn.source :=
  ⟨by decide, by decide, lockOrder_global.2.2.2.1 sampleReturn (by decide)⟩

end Passbook
