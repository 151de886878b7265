import Retrieval.Error
import Retrieval.Query.Clause

namespace Retrieval

/-!
# Comparisons

A filter compares the value of a field with a given value.  Each comparison has
a symbol, and the unequal one is also read from a second symbol.
-/

/-- How the value of a field relates to a given value. -/
inductive Comparison where
  | equal
  | greater
  | less
  | greaterOrEqual
  | lessOrEqual
  | unequal
  deriving Repr, DecidableEq

namespace Comparison

/-- The symbol that a comparison is written with. -/
def symbol : Comparison → String
  | .equal => "="
  | .greater => ">"
  | .less => "<"
  | .greaterOrEqual => ">="
  | .lessOrEqual => "<="
  | .unequal => "!="

/-- The comparison of a symbol, if the text is one. -/
def ofSymbol? : String → Option Comparison
  | "=" => some .equal
  | ">" => some .greater
  | "<" => some .less
  | ">=" => some .greaterOrEqual
  | "<=" => some .lessOrEqual
  | "!=" => some .unequal
  | "<>" => some .unequal
  | _ => none

/-- The comparison of a symbol; a text that is none is reported. -/
def ofSymbol (symbol : String) : Except Error Comparison :=
  match ofSymbol? symbol with
  | some comparison => .ok comparison
  | none => .error (.invalidArgument (.unsupportedOperator symbol))

/-- Whether the documents that match the clause of a comparison are kept. -/
def occurrence : Comparison → Occurrence
  | .unequal => .mustNot
  | _ => .must

/-- The clause that a comparison tests; being unequal is being equal left out. -/
def clause (comparison : Comparison) (field : String) (value : Json) : Clause :=
  match comparison with
  | .equal | .unequal => .term field value
  | .greater => .range field (.onlyAbove value)
  | .less => .range field (.onlyBelow value)
  | .greaterOrEqual => .range field (.onlyFrom value)
  | .lessOrEqual => .range field (.onlyUpTo value)

/-- A comparison is read back from its symbol. -/
@[simp] theorem ofSymbol?_symbol (comparison : Comparison) :
    ofSymbol? comparison.symbol = some comparison := by
  cases comparison <;> rfl

end Comparison

end Retrieval
