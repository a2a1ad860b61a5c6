import FormWizard.Calendar.Instant
import FormWizard.DataPath.Access
import FormWizard.Json.Printer

/-! What the host supplies for one evaluation: values, the environment, guards for transitions,
the treatment of review steps and the clock.
-/

namespace FormWizard

open Calendar (Instant)

/-- All of a context but the bodies of its guards. Two contexts with the same facts are alike to
every rule.
-/
structure Facts where
  values : Table Json
  environment : Option String
  guardNames : List String
  reviewTerminal : Option Bool
  now : Option Instant
deriving DecidableEq

/-- A host predicate that may veto a transition. It sees the data and the facts. -/
abbrev Guard := Json → Facts → Bool

/-- The context of an evaluation. -/
structure Context where
  /-- The values that references with `@` reach. -/
  values : Table Json := []
  /-- The environment, where it is not the configured one. -/
  environment : Option String := none
  /-- The guards that transitions may name. -/
  guards : Table Guard := []
  /-- Whether review steps end the flow, where the context decides it. -/
  reviewTerminal : Option Bool := none
  /-- The pinned clock. -/
  now : Option Instant := none

namespace Facts

/-- A host value. Dotted keys such as `user.role` lead into nested values; the first segment must
be a key.
-/
def value? (facts : Facts) (key : String) : Option Json :=
  match DataPath.ofText key with
  | .key name :: rest =>
    (Table.find? name facts.values).bind fun value => DataPath.get? value rest
  | _ => none

/-- The time that the clock shows; the given one unless the clock is pinned. -/
def time (facts : Facts) (clock : Instant) : Instant :=
  facts.now.getD clock

/-- The facts as one line of text. -/
def key (facts : Facts) : String :=
  Json.text <| .ofMembers [
    ("values", .object facts.values),
    ("env", facts.environment.elim .null .string),
    ("guards", .array (facts.guardNames.map .string)),
    ("review_terminal", facts.reviewTerminal.elim .null .bool),
    ("now", facts.now.elim .null fun now => .string now.text)]

end Facts

namespace Context

/-- What rules see of a context. -/
def facts (context : Context) : Facts where
  values := context.values
  environment := context.environment
  guardNames := context.guards.keys
  reviewTerminal := context.reviewTerminal
  now := context.now

/-- The context with more values; of two under one key the new one stays. -/
def withValues (values : Table Json) (context : Context) : Context :=
  { context with values := context.values.extend values }

/-- The context with a guard; one of the same name is replaced. -/
def withGuard (name : String) (guard : Guard) (context : Context) : Context :=
  { context with guards := context.guards.insert name guard }

/-- A host value by its dotted key. -/
def value? (context : Context) (key : String) : Option Json :=
  context.facts.value? key

end Context

end FormWizard
