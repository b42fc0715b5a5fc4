import Mathlib.Logic.Function.Basic

/-!
# Operator precedence

Expressions of binary operators, written with parentheses.  The operators of a greater
precedence bind tighter, and those of one precedence associate to the left.  A machine
with two stacks reads every expression of the grammar back, so the grammar is not
ambiguous.
-/

namespace X64dbgMcp.Text.Precedence

universe u v w

variable {Operand : Type u} {Op : Type v}

/-- What an expression is written with. -/
inductive Token (Operand : Type u) (Op : Type v) where
  | operand (operand : Operand)
  | op (op : Op)
  | opening
  | closing

/-- An expression of binary operators. -/
inductive Expr (Operand : Type u) (Op : Type v) where
  | leaf (operand : Operand)
  | binary (op : Op) (left right : Expr Operand Op)

/-- The value of an expression whose operands and operators may have none. -/
def Expr.eval {Value : Type w} (operandValue : Operand → Option Value)
    (apply : Op → Value → Value → Option Value) : Expr Operand Op → Option Value
  | .leaf operand => operandValue operand
  | .binary op left right =>
      (left.eval operandValue apply).bind fun leftValue =>
        (right.eval operandValue apply).bind fun rightValue => apply op leftValue rightValue

/-! ## The grammar -/

/-- The tokens of an expression whose own operator, outside parentheses, has this
precedence or a greater one. -/
inductive Derives (precedence : Op → Nat) :
    Nat → List (Token Operand Op) → Expr Operand Op → Prop where
  | operand (level : Nat) (operand : Operand) :
      Derives precedence level [.operand operand] (.leaf operand)
  | parentheses (level : Nat) {tokens : List (Token Operand Op)} {expr : Expr Operand Op}
      (inside : Derives precedence 0 tokens expr) :
      Derives precedence level (.opening :: (tokens ++ [.closing])) expr
  | binary {level : Nat} {op : Op} {leftTokens rightTokens : List (Token Operand Op)}
      {left right : Expr Operand Op} (tight : level ≤ precedence op)
      (leftDerives : Derives precedence (precedence op) leftTokens left)
      (rightDerives : Derives precedence (precedence op + 1) rightTokens right) :
      Derives precedence level (leftTokens ++ .op op :: rightTokens) (.binary op left right)

/-- A tighter expression stands wherever a looser one can. -/
theorem Derives.mono {precedence : Op → Nat} {level : Nat} {tokens : List (Token Operand Op)}
    {expr : Expr Operand Op} (derives : Derives precedence level tokens expr) {weaker : Nat}
    (weak : weaker ≤ level) : Derives precedence weaker tokens expr := by
  cases derives with
  | operand _ operand => exact .operand weaker operand
  | parentheses _ inside => exact .parentheses weaker inside
  | binary tight left right => exact .binary (Nat.le_trans weak tight) left right

/-! ## The machine -/

/-- The operators that wait for an operand, and `none` for an open parenthesis. -/
abbrev Waiting (Op : Type v) := List (Option Op)

/-- Build the waiting operators that bind as tight as `level`. -/
def reduce (precedence : Op → Nat) (level : Nat) :
    List (Expr Operand Op) → Waiting Op → List (Expr Operand Op) × Waiting Op
  | right :: left :: below, some op :: waiting =>
      if level ≤ precedence op then
        reduce precedence level (.binary op left right :: below) waiting
      else (right :: left :: below, some op :: waiting)
  | operands, waiting => (operands, waiting)

/-- Read one token. -/
def step (precedence : Op → Nat) (state : List (Expr Operand Op) × Waiting Op) :
    Token Operand Op → Option (List (Expr Operand Op) × Waiting Op)
  | .operand operand => some (.leaf operand :: state.1, state.2)
  | .opening => some (state.1, none :: state.2)
  | .op op =>
      let reduced := reduce precedence (precedence op) state.1 state.2
      some (reduced.1, some op :: reduced.2)
  | .closing =>
      match reduce precedence 0 state.1 state.2 with
      | (operands, none :: waiting) => some (operands, waiting)
      | _ => none

/-- Read an expression. -/
def parse (precedence : Op → Nat) (tokens : List (Token Operand Op)) :
    Option (Expr Operand Op) := do
  let state ← tokens.foldlM (step precedence) ([], [])
  match reduce precedence 0 state.1 state.2 with
  | ([expr], []) => some expr
  | _ => none

/-! ## The machine reads the grammar -/

/-- The operator on top binds less than `level`. -/
def Looser (precedence : Op → Nat) (level : Nat) : Waiting Op → Prop
  | some op :: _ => precedence op < level
  | _ => True

theorem looser_nil (precedence : Op → Nat) (level : Nat) : Looser precedence level [] :=
  trivial

theorem looser_opening (precedence : Op → Nat) (level : Nat) (waiting : Waiting Op) :
    Looser precedence level (none :: waiting) :=
  trivial

theorem reduce_looser {precedence : Op → Nat} {level : Nat} {waiting : Waiting Op}
    (looser : Looser precedence level waiting) (operands : List (Expr Operand Op)) :
    reduce precedence level operands waiting = (operands, waiting) := by
  unfold reduce
  split
  · rw [if_neg (Nat.not_le.mpr looser)]
  · rfl

/-- What is on the stacks behind an expression reduces as if the expression were an
operand. -/
theorem foldlM_step_of_derives {precedence : Op → Nat} {level : Nat}
    {tokens : List (Token Operand Op)} {expr : Expr Operand Op}
    (derives : Derives precedence level tokens expr) (operands : List (Expr Operand Op))
    {waiting : Waiting Op} (looser : Looser precedence level waiting) :
    ∃ state, tokens.foldlM (step precedence) (operands, waiting) = some state ∧
      ∀ other ≤ level, reduce precedence other state.1 state.2 =
        reduce precedence other (expr :: operands) waiting := by
  induction derives generalizing operands waiting with
  | operand level operand => exact ⟨_, rfl, fun _ _ => rfl⟩
  | @parentheses level tokens expr inside ih =>
      rcases ih operands (looser_opening precedence 0 waiting) with ⟨state, run, reduces⟩
      have closes := reduces 0 (Nat.le_refl 0)
      rw [reduce_looser (looser_opening precedence 0 waiting)] at closes
      refine ⟨(expr :: operands, waiting), ?_, fun _ _ => rfl⟩
      rw [List.foldlM_cons, step, Option.bind_eq_bind, Option.bind_some, List.foldlM_append, run,
        Option.bind_eq_bind, Option.bind_some, List.foldlM_cons, step, closes]
      rfl
  | @binary level op leftTokens rightTokens left right tight _ _ leftIh rightIh =>
      have leftLooser : Looser precedence (precedence op) waiting := by
        rcases waiting with _ | ⟨_ | top, waiting⟩
        · trivial
        · trivial
        · exact Nat.lt_of_lt_of_le looser tight
      rcases leftIh operands leftLooser with ⟨leftState, leftRun, leftReduces⟩
      have leftReduced := leftReduces (precedence op) (Nat.le_refl _)
      rw [reduce_looser leftLooser] at leftReduced
      have rightLooser : Looser precedence (precedence op + 1) (some op :: waiting) :=
        Nat.lt_succ_self _
      rcases rightIh (left :: operands) rightLooser with ⟨state, rightRun, rightReduces⟩
      refine ⟨state, ?_, fun other within => ?_⟩
      · rw [List.foldlM_append, leftRun, Option.bind_eq_bind, Option.bind_some, List.foldlM_cons,
          step, leftReduced]
        exact rightRun
      · rw [rightReduces other (by omega)]
        exact if_pos (Nat.le_trans within tight)

theorem parse_of_derives {precedence : Op → Nat} {tokens : List (Token Operand Op)}
    {expr : Expr Operand Op} (derives : Derives precedence 0 tokens expr) :
    parse precedence tokens = some expr := by
  rcases foldlM_step_of_derives derives [] (looser_nil precedence 0) with ⟨state, run, reduces⟩
  have reduced := reduces 0 (Nat.le_refl 0)
  rw [reduce_looser (looser_nil precedence 0)] at reduced
  rw [parse, run, Option.bind_eq_bind, Option.bind_some, reduced]

/-- Tokens have one reading. -/
theorem Derives.unique {precedence : Op → Nat} {tokens : List (Token Operand Op)}
    {expr other : Expr Operand Op} (derives : Derives precedence 0 tokens expr)
    (again : Derives precedence 0 tokens other) : other = expr := by
  have parses := parse_of_derives derives
  rw [parse_of_derives again, Option.some.injEq] at parses
  exact parses

end X64dbgMcp.Text.Precedence
