import FormWizard.Proofs.Computed.Evaluation

/-! A computed value depends on the data only through what the field declares to read. Engines that
are supplied with the same functions, user and time compute the same from data that hold the same
there, whatever else the data hold and whatever the engines remember.
-/

namespace FormWizard.Computed

open Calendar (Instant)

variable {field : Field} {data otherData : Json}

/-- A computed value depends on the functions of the host only through what is found under their
names.
-/
theorem Setting.compute_congr_functions {setting other : Setting}
    (functions
      : ∀ name, Table.find? name setting.functions = Table.find? name other.functions)
    (user : setting.user = other.user) (time : setting.time = other.time)
    : setting.compute field data = other.compute field data := by
  unfold compute
  cases Expr.parse field.expr with
  | error error => rfl
  | ok expr =>
      have value : setting.valueOf field expr data = other.valueOf field expr data := by
        unfold valueOf
        rw [user, time]
        refine congrArg (· >>= _) (Expr.eval_congr (fun name args => ?_) expr fun _ _ => rfl)
        simp only [Expr.Scope.call, functions name]
      simp only [value]

namespace Engine

variable {engine other : Engine} {clock otherClock : Instant}

/-- A computed value depends on its declared sources only. A field whose expression does not name
the data as a whole has the same value, or the same error, on any two data that hold the same in
each of its sources, a missing value counting as null, in any two engines with the same functions,
the same user and the same time.
-/
theorem compute_sees_sources
    (functions : ∀ name, Table.find? name engine.functions = Table.find? name other.functions)
    (user : engine.user = other.user) (time : engine.time clock = other.time otherClock)
    (ignores : field.IgnoresData)
    (same : ∀ source ∈ field.sources, read data source = read otherData source)
    : (engine.compute clock field data).1 = (other.compute otherClock field otherData).1 := by
  calc (engine.compute clock field data).1
      = (engine.setting clock).compute field data := compute_fst clock field data engine
    _ = (engine.setting clock).compute field otherData := Setting.compute_congr _ ignores same
    _ = (other.setting otherClock).compute field otherData :=
      Setting.compute_congr_functions functions user time
    _ = (other.compute otherClock field otherData).1 :=
      (compute_fst otherClock field otherData other).symm

end Engine

/-- What is due for an order with its shipping, to the cent. -/
def due : Field :=
  { path := "due", expr := "discounted(total) + shipping",
    dependsOn := ["order.total", "$['shipping']"], round := some 2 }

/-- A function of the host that leaves every total as it is. -/
def discounted : Expr.HostFunction
  | [total] => .ok total
  | _ => .error "expected a total"

/-- An engine with that function. -/
def discounting : Engine :=
  Engine.registerFunction "discounted" discounted {}

/-- The same engine after it has computed something else for the same target. -/
def engaged : Engine :=
  (discounting.evaluate default { due with expr := "total" } (.object [])).2.2

/-- An order without shipping. -/
def collected : Json :=
  .object [("order", .object [("total", .ofInt 5)])]

/-- An order whose shipping is null, with a note. -/
def noted : Json :=
  .object [("note", .string "gift"), ("order", .object [("total", .ofInt 5)]), ("shipping", .null)]

/-- What is due is the same for both orders. -/
theorem compute_sees_sources_due : (engaged.compute default due noted).1 = .ok (.ofInt 5) := by
  have supplied : engaged.setting default = discounting.setting default :=
    (Engine.sameBase_evaluate default { due with expr := "total" } (.object []) discounting).setting
      default
  have same
      : (engaged.compute default due noted).1 = (discounting.compute default due collected).1 :=
    Engine.compute_sees_sources (fun name => congrArg (Table.find? name ·.functions) supplied)
      (congrArg Setting.user supplied) (congrArg Setting.time supplied) (by decide +kernel)
      (by decide +kernel)
  rw [same]
  decide +kernel

end FormWizard.Computed
