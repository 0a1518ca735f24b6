/-
**Finite choices with names.**

* `Named`: a type whose values are listed, each with a name;
* `Named.ofName?`: the value of exactly that name.
-/

namespace Passbook

/-- A finite choice whose values have names. -/
class Named (α : Type) where
  /-- The values. -/
  all : List α
  /-- The name of a value. -/
  name : α → String

namespace Named

variable {α : Type} [Named α]

/-- The value of a name. -/
def ofName? (text : String) : Option α := all.find? fun value => name value == text

end Named

end Passbook
