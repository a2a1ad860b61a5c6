import FormWizard.Expr.Eval

/-! The value of an expression depends on its scope only through the names that stand in it and the
calls. It depends on the data as a whole only where it names them.
-/

namespace FormWizard.Expr

mutual

/-- A name stands in an expression as the name of a value. -/
def mentions (name : String) : Expr → Bool
  | .literal _ => false
  | .array items => mentionedIn name items
  | .ident other => other == name
  | .member target _ => mentions name target
  | .index target position => mentions name target || mentions name position
  | .call _ args => mentionedIn name args
  | .unary _ operand => mentions name operand
  | .binary _ left right => mentions name left || mentions name right
  | .conditional condition yes no =>
      mentions name condition || mentions name yes || mentions name no

/-- A name stands in one of the expressions of a list. -/
def mentionedIn (name : String) : List Expr → Bool
  | [] => false
  | expr :: rest => mentions name expr || mentionedIn name rest

end

/-- A name other than that of the data is looked up without it. -/
theorem Scope.lookUp_congr_data (scope : Scope) (data : Json) {name : String}
    (other : name ≠ "data")
    : { scope with data := data }.lookUp name = scope.lookUp name := by
  unfold Scope.lookUp
  simp only
  split
  · rfl
  · split
    · exact absurd rfl other
    · rfl
    · rfl

/-- The value of a call does not depend on the data. -/
theorem Scope.call_congr_data (scope : Scope) (data : Json) (name : String) (args : List Json)
    : { scope with data := data }.call name args = scope.call name args :=
  rfl

mutual

/-- An expression has the same value in two scopes that give the same value to every name in it and
to every call, by mutual induction on the expression and the lists of expressions in it.
-/
theorem eval_congr {scope other : Scope}
    (calls : ∀ name args, scope.call name args = other.call name args) (expr : Expr)
    (names : ∀ name, mentions name expr = true → scope.lookUp name = other.lookUp name)
    : eval scope expr = eval other expr := by
  cases expr with
  | literal value => simp only [eval]
  | array items =>
      simp only [mentions] at names
      simp only [eval, evalAll_congr calls items names]
  | ident name =>
      simp only [eval]
      exact names name (by simp [mentions])
  | member target name =>
      simp only [mentions] at names
      simp only [eval, eval_congr calls target names]
  | index target position =>
      simp only [mentions, Bool.or_eq_true] at names
      simp only [eval, eval_congr calls target fun name inside => names name (.inl inside),
        eval_congr calls position fun name inside => names name (.inr inside)]
  | call name args =>
      simp only [mentions] at names
      simp only [eval, evalAll_congr calls args names, calls]
  | unary op operand =>
      simp only [mentions] at names
      simp only [eval, eval_congr calls operand names]
  | binary op left right =>
      simp only [mentions, Bool.or_eq_true] at names
      have onLeft := eval_congr calls left fun name inside => names name (.inl inside)
      have onRight := eval_congr calls right fun name inside => names name (.inr inside)
      cases op <;> simp only [eval, onLeft, onRight]
  | conditional condition yes no =>
      simp only [mentions, Bool.or_eq_true] at names
      simp only [eval,
        eval_congr calls condition fun name inside => names name (.inl (.inl inside)),
        eval_congr calls yes fun name inside => names name (.inl (.inr inside)),
        eval_congr calls no fun name inside => names name (.inr inside)]

theorem evalAll_congr {scope other : Scope}
    (calls : ∀ name args, scope.call name args = other.call name args) (exprs : List Expr)
    (names : ∀ name, mentionedIn name exprs = true → scope.lookUp name = other.lookUp name)
    : evalAll scope exprs = evalAll other exprs := by
  cases exprs with
  | nil => simp only [evalAll]
  | cons expr rest =>
      simp only [mentionedIn, Bool.or_eq_true] at names
      simp only [evalAll, eval_congr calls expr fun name inside => names name (.inl inside),
        evalAll_congr calls rest fun name inside => names name (.inr inside)]

end

/-- An expression that does not name the data has the same value for all data. -/
theorem eval_congr_data (scope : Scope) (data : Json) (expr : Expr)
    (h : mentions "data" expr = false)
    : eval { scope with data := data } expr = eval scope expr := by
  refine eval_congr (scope.call_congr_data data) expr fun name inside => ?_
  refine scope.lookUp_congr_data data ?_
  rintro rfl
  exact Bool.false_ne_true (h.symm.trans inside)

end FormWizard.Expr
