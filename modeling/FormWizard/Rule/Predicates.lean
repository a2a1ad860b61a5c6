import FormWizard.Calendar.Reader
import FormWizard.Rule.Evaluation

/-! Predicates that every rule may call. -/

namespace FormWizard.Rule.Predicates

open Calendar (Instant)

/-- The items of an array under a key of the context. -/
def contextItems (facts : Facts) (key : String) : List Json :=
  ((facts.value? key).bind Json.array?).getD []

/-- The given day, or today if there is none, is neither a Saturday nor a Sunday. -/
def isWeekday : Predicate := fun args _ _ time =>
  match args.head? with
  | none | some .null => .ok (Calendar.isWorkday time.dayNumber)
  | some value =>
    match Instant.ofJson? value with
    | some instant => .ok (Calendar.isWorkday instant.dayNumber)
    | none => .error ("'" ++ value.text ++ "' is not a date")

/-- The user has the given role, alone or among others. -/
def hasRole : Predicate := fun args _ facts _ =>
  match args.head? with
  | some (.string role) =>
    .ok ((contextItems facts "user.roles").contains (.string role)
      || facts.value? "user.role" == some (.string role))
  | _ => .error "has_role expects a role name"

/-- The given step is among the completed ones of the context. -/
def stepCompleted : Predicate := fun args _ facts _ =>
  match args.head? with
  | some (.string step) => .ok ((contextItems facts "completed_steps").contains (.string step))
  | _ => .error "step_completed expects a step id"

/-- The given value is there and is not null, a blank text, or an empty array or object. -/
def isFilled : Predicate := fun args _ _ _ =>
  match args.head? with
  | none | some .null => .ok false
  | some (.string text) => .ok (!(Text.trim text.toList).isEmpty)
  | some (.array items) => .ok (!items.isEmpty)
  | some (.object members) => .ok (!members.isEmpty)
  | some _ => .ok true

/-- The predicates by their names. -/
def builtin : Table Predicate :=
  .ofEntries [("is_weekday", isWeekday), ("has_role", hasRole),
    ("step_completed", stepCompleted), ("is_filled", isFilled)]

end FormWizard.Rule.Predicates
