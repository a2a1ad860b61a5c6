import FormWizard.Proofs.Rule.Memory

/-! Evaluators after any run of requests. Their settings stay as they were and their memory stays
truthful, so what they answer is what they would find.
-/

namespace FormWizard.Rule

open Calendar (Instant)
open Json (Document)

-----------------------------------------------------------------------------------------
-- Messages
-----------------------------------------------------------------------------------------

/-- What reaches an evaluator from outside. Rules come as documents, in which an operand that is
spelled like a reference is one and every other operand stands for itself. What the constructors of
rules make of values that were read is read from a document as well (`isHereditary_reread`).
-/
inductive Message where
  | evaluate (clock : Instant) (rule : Document) (data : Json) (context : Context)
  | register (name : String) (predicate : Predicate)
  | clear

namespace Evaluator

/-- The evaluator after a request. -/
def perform (evaluator : Evaluator) : Request → Evaluator
  | .evaluate clock rule data context =>
    (evaluator.evaluate clock ⟨rule, data, context.facts⟩).2
  | .register name predicate => evaluator.register name predicate
  | .clear => evaluator.clear

/-- A new evaluator with the given settings after a run of requests. -/
def after (config : Config) (requests : List Request) : Evaluator :=
  requests.foldl perform (.ofConfig config)

/-- What holds of a new evaluator and is kept by every request of a run holds after the run. -/
theorem after_induction {holds : Evaluator → Prop} {config : Config} {requests : List Request}
    (start : holds (.ofConfig config))
    (step : ∀ request ∈ requests, ∀ evaluator, holds evaluator → holds (evaluator.perform request))
    : holds (after config requests) :=
  List.foldlRecOn requests perform start fun evaluator h request member =>
    step request member evaluator h

end Evaluator

end FormWizard.Rule
