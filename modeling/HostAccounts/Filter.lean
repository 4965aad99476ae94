import HostAccounts.Attribute
import HostAccounts.Fault
import HostAccounts.Text.Pieces

/-!
# Filters

Which objects a search is after. Only filters of one comparison can be answered; negations of it
are counted out, and a conjunction or disjunction is turned down. A comparison for equality with the
name of an object, not negated, is answered by looking up that object alone.
-/

set_option autoImplicit false

namespace HostAccounts

/-! ## Comparisons -/

/-- How a field is compared with a text. -/
inductive Comparison where
  | equal
  | startsWith
  | endsWith
  | contains
  deriving DecidableEq, Repr

/-- The comparison holds between a field and the text asked for. -/
def Comparison.holds (k : Comparison) (field asked : String) : Bool :=
  match k with
  | equal => field == asked
  | startsWith => asked.toList.isPrefixOf field.toList
  | endsWith => asked.toList.isSuffixOf field.toList
  | contains => Text.contains field asked

/-! ## Filters -/

/-- A filter as a caller states it. -/
inductive Filter where
  | compare (field : String) (kind : Comparison) (value : String)
  | not (f : Filter)
  | and (f g : Filter)
  | or (f g : Filter)
  deriving DecidableEq, Repr

/-- The one comparison that a search makes with each row. -/
structure Operand where
  field : String
  value : String
  kind : Comparison
  negated : Bool
  deriving DecidableEq, Repr

namespace Operand

/-- The field is the name of the object. -/
def isPrimaryKey (o : Operand) : Bool :=
  Text.sameIgnoringCase o.field AttributeName.name ||
    Text.sameIgnoringCase o.field AttributeName.uid

/-- The value of a field passes. -/
def accepts (o : Operand) (value : String) : Bool :=
  o.kind.holds value o.value != o.negated

/-- The operand asks for one object by its name. -/
def isKeyed (o : Operand) : Bool :=
  o.isPrimaryKey && o.kind == .equal && !o.negated

end Operand

/-- The operand of a filter below a number of negations, of which only the parity counts. -/
def Filter.operandUnder (negated : Bool) : Filter → Except FilterDefect Operand
  | compare field kind value => .ok ⟨field, value, kind, negated⟩
  | not f => f.operandUnder !negated
  | and .. => .error .conjunction
  | or .. => .error .disjunction

/-- The operand of a filter. -/
def Filter.operand (f : Filter) : Except FilterDefect Operand :=
  f.operandUnder false

end HostAccounts
