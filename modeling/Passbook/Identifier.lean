/-
**Identifiers.**

An identifier is a number below 2^128. Its written form is 32 lower case hexadecimal digits in
groups of 8, 4, 4, 4 and 12 joined by hyphens. Each kind of thing has identifiers of its own type.

* `Uuid.text`, `Uuid.read?`: the written form and what is read as one (any case, with or without
  hyphens, and the hyphenated form in braces or after a URN name);
* `Supply`: the identifiers that a store hands out, no two of them alike; `Supply.ascending`: those
  that follow one another from a first one on;
* `lockOrder`: the order in which two wallets are taken, the lower identifier first.
-/

import Passbook.Text.Digits

namespace Passbook

/-- An identifier as a number of 128 bits. -/
@[ext]
structure Uuid where
  /-- The number itself. -/
  value : Nat
  /-- It has no more than 128 bits. -/
  fits : value < 340282366920938463463374607431768211456
deriving DecidableEq

namespace Uuid

/-- The identifier of a number, if it fits. -/
def ofNat? (number : Nat) : Option Uuid :=
  if fits : number < 340282366920938463463374607431768211456 then some ⟨number, fits⟩ else none

instance : LE Uuid := ⟨fun first second => first.value ≤ second.value⟩

instance : LT Uuid := ⟨fun first second => first.value < second.value⟩

instance (first second : Uuid) : Decidable (first ≤ second) :=
  inferInstanceAs (Decidable (first.value ≤ second.value))

instance (first second : Uuid) : Decidable (first < second) :=
  inferInstanceAs (Decidable (first.value < second.value))

/-- The 32 digits. -/
def digits (uuid : Uuid) : List Char := Text.hexadecimal 32 uuid.value

/-- Digits in groups of 8, 4, 4, 4 and 12. -/
def hyphenate (chars : List Char) : List Char :=
  chars.take 8 ++ '-' :: ((chars.drop 8).take 4 ++ '-' :: ((chars.drop 12).take 4 ++
    '-' :: ((chars.drop 16).take 4 ++ '-' :: chars.drop 20)))

/-- The written form. -/
def text (uuid : Uuid) : String := String.ofList (hyphenate uuid.digits)

/-- The digits without hyphens. -/
def compactText (uuid : Uuid) : String := String.ofList uuid.digits

/-- Reads 32 digits. -/
def readDigits? (chars : List Char) : Option Uuid :=
  if chars.length = 32 then (Text.readHexadecimal? chars).bind ofNat? else none

/-- Reads the hyphenated form. -/
def readHyphenated? (chars : List Char) : Option Uuid :=
  let bare := chars.take 8 ++ ((chars.drop 9).take 4 ++ ((chars.drop 14).take 4 ++
    ((chars.drop 19).take 4 ++ chars.drop 24)))
  if chars.length = 36 ∧ hyphenate bare = chars then readDigits? bare else none

/-- The URN name that may stand before an identifier. -/
def urnName : List Char := ['u', 'r', 'n', ':', 'u', 'u', 'i', 'd', ':']

/-- Reads any of the accepted forms. The URN name may be in any case. -/
def readChars? (chars : List Char) : Option Uuid :=
  match chars with
  | '{' :: rest =>
    if rest.getLast? = some '}' then readHyphenated? rest.dropLast else none
  | _ =>
    if chars.length = 32 then readDigits? chars
    else if (chars.take urnName.length).map Char.toLower = urnName then
      readHyphenated? (chars.drop urnName.length)
    else readHyphenated? chars

/-- Reads any of the accepted forms. -/
def read? (text : String) : Option Uuid := readChars? text.toList

theorem ofNat?_eq_some {number : Nat} {uuid : Uuid} :
    ofNat? number = some uuid ↔ uuid.value = number := by
  unfold ofNat?
  constructor
  · intro read
    split at read
    · cases read
      rfl
    · cases read
  · rintro rfl
    rw [dif_pos uuid.fits]

theorem ofNat?_eq_none {number : Nat} :
    ofNat? number = none ↔ 340282366920938463463374607431768211456 ≤ number := by
  unfold ofNat?
  split
  · next fits => exact iff_of_false (fun none => nomatch none) (Nat.not_le.mpr fits)
  · next beyond => exact iff_of_true rfl (Nat.not_lt.mp beyond)

/-- A first identifier for a store to hand out. -/
def firstIssued : Nat := 0x019b77742f0070018c3e000000000000

end Uuid

/-- The identifiers that a store hands out, told by how many it handed out before. -/
structure Supply where
  /-- The identifier handed out after so many others, if any is left. -/
  issued? : Nat → Option Uuid
  /-- None is handed out twice. -/
  distinct : ∀ {count later : Nat} {uuid : Uuid},
    issued? count = some uuid → issued? later = some uuid → count = later
  /-- Where none is left, none is left later. -/
  spent : ∀ {count later : Nat}, issued? count = none → count ≤ later → issued? later = none

/-- Identifiers one after another, from a first one on. -/
def Supply.ascending : Supply where
  issued? count := Uuid.ofNat? (Uuid.firstIssued + count)
  distinct issued again := by
    have same := (Uuid.ofNat?_eq_some.mp issued).symm.trans (Uuid.ofNat?_eq_some.mp again)
    exact Nat.add_left_cancel same
  spent none order := by
    rw [Uuid.ofNat?_eq_none] at none ⊢
    exact Nat.le_trans none (Nat.add_le_add_left order _)

/-- The kinds of things that have identifiers. -/
inductive IdKind where
  | user
  | account
  | entry
  | line
  | wallet
deriving DecidableEq

/-- An identifier of one kind of thing. -/
@[ext]
structure Id (kind : IdKind) where
  uuid : Uuid
deriving DecidableEq

namespace Id

variable {kind : IdKind}

instance : LE (Id kind) := ⟨fun first second => first.uuid ≤ second.uuid⟩

instance : LT (Id kind) := ⟨fun first second => first.uuid < second.uuid⟩

instance (first second : Id kind) : Decidable (first ≤ second) :=
  inferInstanceAs (Decidable (first.uuid ≤ second.uuid))

instance (first second : Id kind) : Decidable (first < second) :=
  inferInstanceAs (Decidable (first.uuid < second.uuid))

/-- The written form. -/
def text (id : Id kind) : String := id.uuid.text

end Id

abbrev UserId := Id .user
abbrev AccountId := Id .account
abbrev EntryId := Id .entry
abbrev LineId := Id .line
abbrev WalletId := Id .wallet

/-- Two wallets in the order in which they are taken, whichever way round they are named. -/
def lockOrder (first second : WalletId) : WalletId × WalletId :=
  if first ≤ second then (first, second) else (second, first)

end Passbook
