import FormWizard.Proofs.Computed.Batches
import FormWizard.Proofs.Computed.Histories
import FormWizard.Proofs.DataPath.InPlace

/-! What an evaluation does to the data. It writes the value of its result at the path of its
result, or it leaves the data alone and reports an error. A computed value that cannot be written is
not replaced by the fallback: that can be written no more than the value.
-/

namespace FormWizard.Computed

open Calendar (Instant)
open DataPath (Misses lookUp? ofText write writeInPlace)

/-- The value stands at the path afterwards, and what stood at paths that miss it still does. -/
structure IsWritten (path : String) (value data after : Json) : Prop where
  here : lookUp? after path = some value
  elsewhere : ∀ other, Misses (ofText path) (ofText other) →
    ∀ kept, lookUp? data other = some kept → lookUp? after other = some kept

theorem isWritten_of_write {path : String} {value data after : Json}
    (h : write data (ofText path) value = .ok after)
    : IsWritten path value data after where
  here := DataPath.get?_put_self (DataPath.put_of_write h)
  elsewhere := by
    intro other apart kept found
    rcases DataPath.get?_put_of_misses (DataPath.put_of_write h) apart with same | ⟨missing, -⟩
    · exact same.trans found
    · cases missing.symm.trans found

/-- Whether something can be written at a path does not depend on what it is. -/
theorem write_error_of_write_error {path : DataPath} {value data : Json}
    {cause : DataPath.WriteError} (h : write data path value = .error cause) (other : Json)
    : ∃ cause, write data path other = .error cause := by
  cases written : write data path other with
  | error cause => exact ⟨cause, rfl⟩
  | ok after =>
      obtain ⟨nonempty, reached⟩ := DataPath.reached_of_write written
      obtain ⟨result, done⟩ := DataPath.put_ok_of_put_ok (DataPath.put_of_write written) value
      cases h.symm.trans (DataPath.write_eq_ok nonempty reached done)

namespace Engine

variable {field : Field} {value data after : Json}

theorem writeAt_of_ok (h : write data field.address value = .ok after)
    : writeAt field.target value data = .ok after := by
  rw [Field.address] at h
  simp only [writeAt, h, Except.mapError]

theorem writeAt_of_error {cause : DataPath.WriteError}
    (h : write data field.address value = .error cause)
    : writeAt field.target value data = .error (.write cause) := by
  rw [Field.address] at h
  simp only [writeAt, h, Except.mapError]

end Engine

-----------------------------------------------------------------------------------------
-- How evaluations end
-----------------------------------------------------------------------------------------

/-- The ends of an evaluation: the result, and the data that are left. -/
inductive Evaluates (setting : Setting) (field : Field) (data : Json) : Result × Json → Prop
  | written {value after : Json} (computed : setting.compute field data = .ok value)
    (done : write data field.address value = .ok after)
    : Evaluates setting field data
        (⟨field.target, value, field.sources, setting.time, none⟩, after)
  /-- The computed value cannot be written, and neither can the fallback. -/
  | unwritable {value : Json} {cause : DataPath.WriteError}
    (computed : setting.compute field data = .ok value)
    (stopped : write data field.address value = .error cause)
    : Evaluates setting field data
        (⟨field.target, field.fallback.getD .null, field.sources, setting.time,
          some (.write cause)⟩, data)
  /-- There is no value, and the fallback is written. -/
  | replaced {error : FieldError} {after : Json} (failed : setting.compute field data = .error error)
    (done : write data field.address (field.fallback.getD .null) = .ok after)
    : Evaluates setting field data
        (⟨field.target, field.fallback.getD .null, field.sources, setting.time, some error⟩, after)
  /-- There is no value, and the fallback cannot be written. -/
  | stuck {error : FieldError} {cause : DataPath.WriteError}
    (failed : setting.compute field data = .error error)
    (stopped : write data field.address (field.fallback.getD .null) = .error cause)
    : Evaluates setting field data
        (⟨field.target, field.fallback.getD .null, field.sources, setting.time, some error⟩, data)

/-- Every evaluation comes to one of these ends. -/
theorem Setting.evaluates (setting : Setting) (field : Field) (data : Json)
    : Evaluates setting field data (setting.evaluate field data) := by
  unfold Setting.evaluate
  cases computed : setting.compute field data with
  | error error =>
      cases done : write data field.address (field.fallback.getD .null) with
      | ok after =>
          simp only [Except.bind, Engine.writeAt_of_ok done]
          exact .replaced computed done
      | error cause =>
          simp only [Except.bind, Engine.writeAt_of_error done]
          exact .stuck computed done
  | ok value =>
      cases done : write data field.address value with
      | ok after =>
          simp only [Except.bind, Except.map, Engine.writeAt_of_ok done]
          exact .written computed done
      | error cause =>
          obtain ⟨_, stopped⟩ := write_error_of_write_error done (field.fallback.getD .null)
          simp only [Except.bind, Except.map, Engine.writeAt_of_error done,
            Engine.writeAt_of_error stopped]
          exact .unwritable computed done

/-- The result and the data tell the same, however the evaluation ends. -/
theorem Evaluates.effects {setting : Setting} {field : Field} {data : Json} {ending : Result × Json}
    (h : Evaluates setting field data ending)
    : (IsWritten ending.1.path ending.1.value data ending.2
        ∨ ending.2 = data ∧ ending.1.error.isSome)
      ∧ (ending.1.error = none → IsWritten ending.1.path ending.1.value data ending.2)
      ∧ (ending.1.error.isSome →
        ending.1.value = field.fallback.getD .null
        ∧ ending.2 = (write data (ofText ending.1.path) ending.1.value).toOption.getD data) := by
  have leaves {value : Json} {outcome : Except DataPath.WriteError Json}
      (written : write data field.address value = outcome)
      : (write data (ofText field.target) value).toOption.getD data
        = outcome.toOption.getD data := by
    rw [← written, Field.address]
  cases h with
  | written computed done =>
      have written := isWritten_of_write done
      refine ⟨.inl written, fun _ => written, fun failed => ?_⟩
      cases failed
  | unwritable computed stopped =>
      obtain ⟨_, stoppedToo⟩ := write_error_of_write_error stopped (field.fallback.getD .null)
      exact ⟨.inr ⟨rfl, rfl⟩, fun none => absurd none (Option.some_ne_none _),
        fun _ => ⟨rfl, (leaves stoppedToo).symm⟩⟩
  | replaced failed done =>
      have written := isWritten_of_write done
      exact ⟨.inl written, fun _ => written, fun _ => ⟨rfl, (leaves done).symm⟩⟩
  | stuck failed stopped =>
      exact ⟨.inr ⟨rfl, rfl⟩, fun none => absurd none (Option.some_ne_none _),
        fun _ => ⟨rfl, (leaves stopped).symm⟩⟩

-----------------------------------------------------------------------------------------
-- What engines do to the data
-----------------------------------------------------------------------------------------

namespace Engine

variable (clock : Instant) (field : Field) (data : Json) (engine : Engine)

/-- What is left of the data if they are changed in place: by writing the computed value, and by
writing the fallback if there is none or that write is stopped.
-/
def leftInPlace : Json :=
  let replaced (data : Json) := (writeInPlace data field.address (field.fallback.getD .null)).2
  match (engine.compute clock field data).1 with
  | .error _ => replaced data
  | .ok value =>
    match writeInPlace data field.address value with
    | (.ok (), left) => left
    | (.error _, left) => replaced left

theorem evaluates
    : Evaluates (engine.setting clock) field data
        ((engine.evaluate clock field data).1, (engine.evaluate clock field data).2.1) := by
  rw [evaluate_eq]
  exact Setting.evaluates _ field data

variable {clock field data engine}

/-- In place the writes of an evaluation leave what it leaves. Witness: cases on how it ends; a write
that is stopped leaves the data as they were to the next one.
-/
theorem leftInPlace_eq {ending : Result × Json} (ordered : data.IsOrdered)
    (h : Evaluates (engine.setting clock) field data ending)
    : engine.leftInPlace clock field data = ending.2 := by
  unfold leftInPlace
  rw [compute_fst]
  cases h with
  | @written value _ computed done =>
      obtain ⟨finished, same⟩ := DataPath.writeInPlace_of_ok done
      simp only [computed]
      revert finished same
      rcases writeInPlace data field.address value with ⟨answer, reached⟩
      intro finished same
      cases finished
      exact same ordered
  | unwritable computed stopped =>
      obtain ⟨_, stoppedToo⟩ := write_error_of_write_error stopped (field.fallback.getD .null)
      simp only [computed, DataPath.writeInPlace_of_error stopped,
        DataPath.writeInPlace_of_error stoppedToo]
  | replaced failed done =>
      simp only [failed, (DataPath.writeInPlace_of_ok done).2 ordered]
  | stuck failed stopped =>
      simp only [failed, DataPath.writeInPlace_of_error stopped]

/-- An evaluation writes its result or nothing. After it the value of the result is read at the path
of the result, and every path that misses that one keeps any value it had; or else the data are as
they were, and the result has an error. Without an error the value was written. With an error the
value is the fallback, and the data are what writing it there leaves of them, if it can be written,
and as they were if not. This is also what is left where the writes change the data in place.
-/
theorem evaluate_writes_or_nothing (clock : Instant) (field : Field) (data : Json)
    (engine : Engine)
    : let result := (engine.evaluate clock field data).1
      let left := (engine.evaluate clock field data).2.1
      (IsWritten result.path result.value data left ∨ left = data ∧ result.error.isSome)
      ∧ (result.error = none → IsWritten result.path result.value data left)
      ∧ (result.error.isSome →
        result.value = field.fallback.getD .null
        ∧ left = (write data (ofText result.path) result.value).toOption.getD data)
      ∧ (data.IsOrdered → left = engine.leftInPlace clock field data) := by
  intro result left
  have ending : Evaluates (engine.setting clock) field data (result, left) :=
    engine.evaluates clock field data
  obtain ⟨wroteOrFailed, wrote, fellBack⟩ := ending.effects
  exact ⟨wroteOrFailed, wrote, fellBack, fun ordered => (leftInPlace_eq ordered ending).symm⟩

/-- A net price inside of the price. -/
def netPrice : Field where
  path := "price.net"
  expr := "price * 2"
  dependsOn := ["price"]
  fallback := some (.ofInt 0)

/-- An order whose price is a number, with no room inside. -/
def flatPrice : Json :=
  .object [("price", .ofInt 5)]

/-- The net price is computed, but neither it nor the fallback can be written. -/
theorem evaluate_writes_or_nothing_blocked
    : (evaluate default netPrice flatPrice {}).1.error
        = some (.write (.conflict "$.price.net" "net"))
      ∧ (evaluate default netPrice flatPrice {}).1.value = .ofInt 0
      ∧ (evaluate default netPrice flatPrice {}).2.1 = flatPrice := by
  have failed : (evaluate default netPrice flatPrice {}).1.error
      = some (.write (.conflict "$.price.net" "net")) := by
    decide +kernel
  have stopped : write flatPrice (ofText (evaluate default netPrice flatPrice {}).1.path)
        (evaluate default netPrice flatPrice {}).1.value
      = .error (.conflict "$.price.net" "net") := by
    decide +kernel
  obtain ⟨-, -, fallback, -⟩ := evaluate_writes_or_nothing default netPrice flatPrice {}
  obtain ⟨value, left⟩ := fallback (by rw [failed]; rfl)
  rw [stopped] at left
  exact ⟨failed, value, left⟩

end Engine

end FormWizard.Computed
