/-
**The kinds and conditions of accounts and journal entries.**

* `AccountType.side`: assets and expenses grow by debits, the other types by credits;
* `AccountType.read?`: a type by its name in any case;
* `EntryStatus.isTerminal`: voided and reversed entries stay as they are.
-/

import Passbook.Named
import Passbook.Text.Letter

namespace Passbook.Ledger

/-- The side on which an account grows. -/
inductive Side where
  | debit
  | credit
deriving DecidableEq

instance : Named Side where
  all := [.debit, .credit]
  name
    | .debit => "debit"
    | .credit => "credit"

/-- The types of accounts. -/
inductive AccountType where
  | asset
  | liability
  | equity
  | revenue
  | expense
deriving DecidableEq

instance : Named AccountType where
  all := [.asset, .liability, .equity, .revenue, .expense]
  name
    | .asset => "asset"
    | .liability => "liability"
    | .equity => "equity"
    | .revenue => "revenue"
    | .expense => "expense"

/-- The side on which accounts of a type grow. -/
def AccountType.side : AccountType → Side
  | .asset => .debit
  | .liability => .credit
  | .equity => .credit
  | .revenue => .credit
  | .expense => .debit

/-- The type of a name in any case. -/
def AccountType.read? (text : String) : Option AccountType := Named.ofName? (Text.smalls text)

/-- Whether an account takes postings. -/
inductive AccountStatus where
  | active
  | inactive
deriving DecidableEq

instance : Named AccountStatus where
  all := [.active, .inactive]
  name
    | .active => "active"
    | .inactive => "inactive"

/-- The types of journal entries. -/
inductive EntryType where
  | standard
  | opening
  | closing
  | adjusting
  | reversing
deriving DecidableEq

instance : Named EntryType where
  all := [.standard, .opening, .closing, .adjusting, .reversing]
  name
    | .standard => "standard"
    | .opening => "opening"
    | .closing => "closing"
    | .adjusting => "adjusting"
    | .reversing => "reversing"

/-- Where an entry stands in its life. -/
inductive EntryStatus where
  | draft
  | posted
  | voided
  | reversed
deriving DecidableEq

instance : Named EntryStatus where
  all := [.draft, .posted, .voided, .reversed]
  name
    | .draft => "draft"
    | .posted => "posted"
    | .voided => "voided"
    | .reversed => "reversed"

/-- No step leads on from the status. -/
def EntryStatus.isTerminal : EntryStatus → Bool
  | .draft => false
  | .posted => false
  | .voided => true
  | .reversed => true

end Passbook.Ledger
