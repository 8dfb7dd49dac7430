/-!
# Operators

The closed sets of arithmetic and comparison operators. An operator is resolved by a capability of
the type it is applied at; here stand only its names, its symbol and, for comparisons, the answer
for each ordering of the operands.
-/

namespace TypedExpr

/-- Arithmetic operators. -/
inductive ArithmeticOperator where
  | plus
  | minus
  | multiply
  | divide
  | modulo
  | unaryMinus
  | unaryPlus
  deriving DecidableEq, Repr

namespace ArithmeticOperator

def all : List ArithmeticOperator :=
  [.plus, .minus, .multiply, .divide, .modulo, .unaryMinus, .unaryPlus]

/-- Whether the operator takes a single operand. -/
def isUnary : ArithmeticOperator → Bool
  | .unaryMinus | .unaryPlus => true
  | _ => false

def symbol : ArithmeticOperator → String
  | .plus | .unaryPlus => "+"
  | .minus | .unaryMinus => "-"
  | .multiply => "*"
  | .divide => "/"
  | .modulo => "%"

/-- The name that diagnostics show. -/
def name : ArithmeticOperator → String
  | .plus => "PLUS"
  | .minus => "MINUS"
  | .multiply => "MULTIPLY"
  | .divide => "DIVIDE"
  | .modulo => "MODULO"
  | .unaryMinus => "UNARY_MINUS"
  | .unaryPlus => "UNARY_PLUS"

/-- The name in JSON texts. -/
def tag : ArithmeticOperator → String
  | .plus => "Plus"
  | .minus => "Minus"
  | .multiply => "Multiply"
  | .divide => "Divide"
  | .modulo => "Modulo"
  | .unaryMinus => "UnaryMinus"
  | .unaryPlus => "UnaryPlus"

def ofName? (s : String) : Option ArithmeticOperator := all.find? (·.name == s)

def ofTag? (s : String) : Option ArithmeticOperator := all.find? (·.tag == s)

theorem mem_all (op : ArithmeticOperator) : op ∈ all := by
  cases op <;> decide

theorem ofTag?_tag (op : ArithmeticOperator) : ofTag? op.tag = some op := by
  cases op <;> decide

end ArithmeticOperator

/-- Comparison operators. -/
inductive ComparisonOperator where
  | equal
  | notEqual
  | greater
  | greaterOrEqual
  | lower
  | lowerOrEqual
  deriving DecidableEq, Repr

namespace ComparisonOperator

def all : List ComparisonOperator :=
  [.equal, .notEqual, .greater, .greaterOrEqual, .lower, .lowerOrEqual]

/-- The operator with the opposite answer for the same operands. -/
def inverse : ComparisonOperator → ComparisonOperator
  | .equal => .notEqual
  | .notEqual => .equal
  | .greater => .lowerOrEqual
  | .greaterOrEqual => .lower
  | .lower => .greaterOrEqual
  | .lowerOrEqual => .greater

/-- The operator with the same answer once the operands change places. -/
def converse : ComparisonOperator → ComparisonOperator
  | .equal => .equal
  | .notEqual => .notEqual
  | .greater => .lower
  | .greaterOrEqual => .lowerOrEqual
  | .lower => .greater
  | .lowerOrEqual => .greaterOrEqual

/-- Whether the operator can be answered without an order. -/
def isEquality : ComparisonOperator → Bool
  | .equal | .notEqual => true
  | _ => false

/-- The answer of the operator for operands in the given order. -/
def test : ComparisonOperator → Ordering → Bool
  | .equal, o => o == .eq
  | .notEqual, o => o != .eq
  | .greater, o => o == .gt
  | .greaterOrEqual, o => o != .lt
  | .lower, o => o == .lt
  | .lowerOrEqual, o => o != .gt

def symbol : ComparisonOperator → String
  | .equal => "="
  | .notEqual => "!="
  | .greater => ">"
  | .greaterOrEqual => ">="
  | .lower => "<"
  | .lowerOrEqual => "<="

/-- The name that diagnostics show. -/
def name : ComparisonOperator → String
  | .equal => "EQUAL"
  | .notEqual => "NOT_EQUAL"
  | .greater => "GREATER"
  | .greaterOrEqual => "GREATER_OR_EQUAL"
  | .lower => "LOWER"
  | .lowerOrEqual => "LOWER_OR_EQUAL"

/-- The name in JSON texts. -/
def tag : ComparisonOperator → String
  | .equal => "Equal"
  | .notEqual => "NotEqual"
  | .greater => "Greater"
  | .greaterOrEqual => "GreaterOrEqual"
  | .lower => "Lower"
  | .lowerOrEqual => "LowerOrEqual"

def ofName? (s : String) : Option ComparisonOperator := all.find? (·.name == s)

def ofTag? (s : String) : Option ComparisonOperator := all.find? (·.tag == s)

theorem mem_all (op : ComparisonOperator) : op ∈ all := by
  cases op <;> decide

theorem ofTag?_tag (op : ComparisonOperator) : ofTag? op.tag = some op := by
  cases op <;> decide

@[simp]
theorem test_inverse (op : ComparisonOperator) (o : Ordering) :
    op.inverse.test o = !op.test o := by
  cases op <;> cases o <;> rfl

@[simp]
theorem test_converse (op : ComparisonOperator) (o : Ordering) :
    op.converse.test o.swap = op.test o := by
  cases op <;> cases o <;> rfl

@[simp]
theorem converse_converse (op : ComparisonOperator) : op.converse.converse = op := by
  cases op <;> rfl

end ComparisonOperator

end TypedExpr
