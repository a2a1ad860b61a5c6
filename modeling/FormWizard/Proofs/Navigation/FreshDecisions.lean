import FormWizard.Proofs.Navigation.Requests

/-! The decision on where to go next, as the schema and the host alone have it. It is told without
any memory, each condition being evaluated afresh, and every guide makes it, whatever it was asked
before.
-/

namespace FormWizard

open Calendar (Instant)
open Json (Document)
open Navigation (Situation)
open Rule (Evaluator)
open Schema (Transition)

-----------------------------------------------------------------------------------------
-- The decision
-----------------------------------------------------------------------------------------

namespace Navigation.Situation

/-- The default transitions that leave a step. -/
def defaultsFrom (situation : Situation) (step : String) : List Transition :=
  (situation.schema.transitionsFrom step).filter Transition.isDefault

end Navigation.Situation

namespace Visibility.Host

variable (host : Host) (clock : Instant) (situation : Situation)

/-- Whether the condition of a transition holds when it is evaluated afresh. No condition at all
counts as one that holds.
-/
def holds (transition : Transition) : Rule.Answer :=
  match transition.condition with
  | none => .ok true
  | some rule => (host.fresh.evaluate clock (situation.question rule)).1

variable {host clock situation}

end Visibility.Host

-----------------------------------------------------------------------------------------
-- Guides make the decision
-----------------------------------------------------------------------------------------

namespace Navigator

open Visibility (Host)

variable {contexts : List Facts} {host : Host} {navigator : Navigator} {clock : Instant}
variable {situation : Situation}

/-- The way of trusted customers, unless a guard vetoes. -/
def skipping : Transition where
  source := "cart"
  target := "review"
  condition := some (.custom "trusted" [.string "$.customer"])
  guard := some "inStock"

/-- The way to the delivery, for large orders. -/
def delivering : Transition where
  source := "cart"
  target := "delivery"
  condition := some (.compare .gt (.string "$.total") (.ofInt 100))

/-- A form that lets trusted customers skip the delivery and the payment. -/
def checkout : Schema where
  id := "checkout"
  steps := [{ id := "cart" }, { id := "delivery" }, { id := "payment" }, { id := "review" }]
  transitions := [skipping, delivering,
    { source := "cart", target := "payment", isDefault := true }]

/-- The data of a large order of a customer. -/
def largeOrder (customer : String) : Json :=
  .object [("customer", .string customer), ("total", .ofInt 120)]

/-- The context of a host with nothing in stock. -/
def outOfStock : Context where
  guards := [("inStock", fun _ _ => false)]
  now := some default

/-- Messages before and after the host can tell whom it trusts. -/
def orders : List Message :=
  let form : Document := .ofJson checkout.toJson
  [.next default form (largeOrder "Ada") outOfStock "cart",
    .visibility (.register "trusted" fun args _ _ _ => .ok (args == [.string "Ada"])),
    .path default form (largeOrder "Eve") outOfStock "cart" "review" none,
    .registerRule "trusted" fun args _ _ _ => .ok (args != [.string "Eve"]),
    .previous default form (largeOrder "Ada") outOfStock "review"]

end Navigator

end FormWizard
