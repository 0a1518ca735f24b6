/-
**Currencies and money.**

Six currencies are supported. Money is an amount in the minor unit of its currency.

* `Currency.read?`: the currency of a code in any case;
* `Money.add?`, `Money.sub?`: only within one currency and within range;
* `Money.majorText`, `Money.text`: the amount in the major unit, with the currency's places.
-/

import Passbook.Amount
import Passbook.Text.Digits
import Passbook.Text.Letter

namespace Passbook

/-- The supported currencies. -/
inductive Currency where
  | inr
  | usd
  | eur
  | sgd
  | idr
  | jpy
deriving DecidableEq

namespace Currency

/-- All of them. -/
def all : List Currency := [inr, usd, eur, sgd, idr, jpy]

/-- The code of three capitals. -/
def code : Currency → String
  | inr => "INR"
  | usd => "USD"
  | eur => "EUR"
  | sgd => "SGD"
  | idr => "IDR"
  | jpy => "JPY"

/-- The decimal places of the major unit. -/
def places : Currency → Nat
  | jpy => 0
  | _ => 2

/-- The currency of a code in capitals. -/
def ofCode? (text : String) : Option Currency := all.find? fun currency => currency.code == text

/-- The currency of a code in any case. -/
def read? (text : String) : Option Currency := ofCode? (Text.capitals text)

/-- What is said of a code that names none. -/
def unknownMessage (text : String) : String := "Unknown currency: " ++ text

end Currency

/-- An amount of a currency. -/
structure Money where
  amount : Amount
  currency : Currency
deriving DecidableEq

namespace Money

/-- Nothing in a currency. -/
def zero (currency : Currency) : Money := ⟨Amount.zero, currency⟩

/-- Nothing at all. -/
def isZero (money : Money) : Bool := money.amount.units == 0

/-- Less than nothing. -/
def isNegative (money : Money) : Bool := decide (money.amount.units < 0)

/-- The sum of two amounts of one currency, if the range holds it. -/
def add? (first second : Money) : Option Money :=
  if first.currency = second.currency then
    (first.amount.add? second.amount).map fun amount => ⟨amount, first.currency⟩
  else none

/-- The difference of two amounts of one currency, if the range holds it. -/
def sub? (first second : Money) : Option Money :=
  if first.currency = second.currency then
    (first.amount.sub? second.amount).map fun amount => ⟨amount, first.currency⟩
  else none

/-- Minor units as a decimal fraction with so many places. -/
def fraction (places : Nat) (units : Int) : List Char :=
  let sign := if units < 0 then ['-'] else []
  let size := units.natAbs
  if places = 0 then sign ++ Text.digits size
  else sign ++ (Text.digits (size / Text.tenTo places) ++
    '.' :: Text.zeroFill places (Text.digits (size % Text.tenTo places)))

/-- The amount in the major unit. -/
def majorText (money : Money) : String :=
  String.ofList (fraction money.currency.places money.amount.units)

/-- The amount in the major unit and the currency's code. -/
def text (money : Money) : String := money.majorText ++ " " ++ money.currency.code

end Money

end Passbook
