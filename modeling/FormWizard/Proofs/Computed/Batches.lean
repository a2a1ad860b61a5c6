import FormWizard.Proofs.Computed.DependencyOrder
import FormWizard.Proofs.Computed.Evaluation
import FormWizard.Proofs.DataPath.Separation

/-! Evaluating the fields of a batch one after the other, at paths that have nothing to do with
each other. The data that are left explain themselves: every field has been given the value that
it has on the final data, and writing that value once more changes nothing.
-/

namespace FormWizard.Computed

open Calendar (Instant)
open DataPath (ofText Diverge Misses put)

/-- The segments of the place where a field is written. -/
def Field.address (field : Field) : DataPath :=
  ofText field.target

/-- The data with a value for each of the fields written at its target, from the first field to
the last.
-/
def putAll (value : Field → Json) : List Field → Json → Except String Json
  | [], data => .ok data
  | field :: rest, data => do putAll value rest (← put (value field) field.address data)

/-- No two fields of the list are written at places that have to do with each other. -/
def Apart (fields : List Field) : Prop :=
  fields.Pairwise fun field other => Diverge field.address other.address

/-- Once a field of the list is evaluated nothing is written that it reads. -/
def Steady : List Field → Prop
  | [] => True
  | field :: rest =>
      (∀ source ∈ field.sources, ∀ other ∈ field :: rest, Misses other.address (ofText source))
      ∧ Steady rest

-----------------------------------------------------------------------------------------
-- Values at places that are apart
-----------------------------------------------------------------------------------------

theorem putAll_cons_ok_iff {value : Field → Json} {field : Field} {rest : List Field}
    {data final : Json}
    : putAll value (field :: rest) data = .ok final
      ↔ ∃ next, put (value field) field.address data = .ok next
          ∧ putAll value rest next = .ok final := by
  cases h : put (value field) field.address data <;>
    simp [putAll, h, bind, Except.bind]

/-- Values that agree on the fields of the list give the same data. -/
theorem putAll_congr {value other : Field → Json} {fields : List Field}
    (same : ∀ field ∈ fields, value field = other field) (data : Json)
    : putAll value fields data = putAll other fields data := by
  induction fields generalizing data with
  | nil => rfl
  | cons field rest ih =>
      rw [List.forall_mem_cons] at same
      simp only [putAll, same.1]
      exact bind_congr fun next => ih same.2 next

/-- What every write of a value keeps stands at the end. -/
theorem putAll_induction {value : Field → Json} {fields : List Field} {data final : Json}
    {P : Json → Prop} (start : P data)
    (step : ∀ field ∈ fields, ∀ {data next : Json}, P data →
      put (value field) field.address data = .ok next → P next)
    (h : putAll value fields data = .ok final)
    : P final := by
  induction fields generalizing data with
  | nil =>
      obtain rfl : data = final := by simpa [putAll] using h
      exact start
  | cons field rest ih =>
      obtain ⟨next, here, later⟩ := putAll_cons_ok_iff.mp h
      rw [List.forall_mem_cons] at step
      exact ih (step.1 start here) step.2 later

/-- Writes leave what a path reads as it is if they miss it. -/
theorem read_of_put_misses {new data next : Json} {written : DataPath} {path : String}
    (h : put new written data = .ok next) (apart : Misses written (ofText path))
    : read next path = read data path := by
  rcases DataPath.get?_put_of_misses h apart with same | ⟨missing, padded⟩
  · simp [read, same]
  · simp [read, missing, padded]

theorem read_putAll_of_misses {value : Field → Json} {fields : List Field} {data final : Json}
    {path : String} (h : putAll value fields data = .ok final)
    (apart : ∀ field ∈ fields, Misses field.address (ofText path))
    : read final path = read data path :=
  putAll_induction (P := fun next => read next path = read data path) rfl
    (fun field member _ _ kept here =>
      (read_of_put_misses here (apart field member)).trans kept) h

/-- A value that is there already stays there, and can be written again without any change, if
something is written at a place apart from it.
-/
theorem put_settled_of_put {value new data next : Json} {place written : DataPath}
    (settled : put value place data = .ok data) (apart : Diverge place written)
    (h : put new written data = .ok next)
    : put value place next = .ok next := by
  obtain ⟨other, exchanged, again⟩ := DataPath.put_comm apart settled h
  rw [h] at exchanged
  cases exchanged
  exact again

theorem put_settled_of_putAll {value : Field → Json} {fields : List Field}
    {new data final : Json} {place : DataPath} (settled : put new place data = .ok data)
    (apart : ∀ field ∈ fields, Diverge place field.address)
    (h : putAll value fields data = .ok final)
    : put new place final = .ok final :=
  putAll_induction (P := fun data => put new place data = .ok data) settled
    (fun field member _ _ settled here =>
      put_settled_of_put settled (apart field member) here) h

/-- After writing values for fields that are apart, each of them can be written again without any
change.
-/
theorem put_settled_of_mem {value : Field → Json} {fields : List Field} {data final : Json}
    (apart : Apart fields) (h : putAll value fields data = .ok final) {field : Field}
    (member : field ∈ fields)
    : put (value field) field.address final = .ok final := by
  induction fields generalizing data with
  | nil => cases member
  | cons head rest ih =>
      obtain ⟨next, here, later⟩ := putAll_cons_ok_iff.mp h
      obtain ⟨first, others⟩ := List.pairwise_cons.mp apart
      rcases List.mem_cons.mp member with rfl | below
      · exact put_settled_of_putAll (DataPath.put_put_self here here) first later
      · exact ih others later below

/-- What was written for a field is read at its target. -/
theorem read_target_of_mem {value : Field → Json} {fields : List Field} {data final : Json}
    (apart : Apart fields) (h : putAll value fields data = .ok final) {field : Field}
    (member : field ∈ fields)
    : read final field.target = value field := by
  have written := DataPath.get?_put_self (put_settled_of_mem apart h member)
  rw [Field.address] at written
  simp [read, written]

/-- The order in which values are written at places apart makes no difference. -/
theorem putAll_perm {value : Field → Json} {fields shuffled : List Field} {data final : Json}
    (perm : fields.Perm shuffled) (apart : Apart fields)
    (h : putAll value fields data = .ok final)
    : putAll value shuffled data = .ok final := by
  induction perm generalizing data with
  | nil => exact h
  | cons field _ ih =>
      obtain ⟨next, here, later⟩ := putAll_cons_ok_iff.mp h
      exact putAll_cons_ok_iff.mpr ⟨next, here, ih (List.pairwise_cons.mp apart).2 later⟩
  | swap first second rest =>
      obtain ⟨middle, here, later⟩ := putAll_cons_ok_iff.mp h
      obtain ⟨next, there, last⟩ := putAll_cons_ok_iff.mp later
      have between : Diverge second.address first.address :=
        (List.pairwise_cons.mp apart).1 first List.mem_cons_self
      obtain ⟨other, exchanged, again⟩ := DataPath.put_comm between here there
      exact putAll_cons_ok_iff.mpr
        ⟨other, exchanged, putAll_cons_ok_iff.mpr ⟨next, again, last⟩⟩
  | trans left _ ihl ihr =>
      exact ihr ((left.pairwise_iff Diverge.symm).mp apart) (ihl apart h)

/-- Fields whose values are there already may be left out. -/
theorem putAll_filter {value : Field → Json} {fields : List Field} {data final : Json}
    (apart : Apart fields) (due : Field → Bool)
    (settled : ∀ field ∈ fields, due field = false
      → put (value field) field.address data = .ok data)
    (h : putAll value fields data = .ok final)
    : putAll value (fields.filter due) data = .ok final := by
  induction fields generalizing data with
  | nil => exact h
  | cons field rest ih =>
      obtain ⟨next, here, later⟩ := putAll_cons_ok_iff.mp h
      obtain ⟨first, others⟩ := List.pairwise_cons.mp apart
      rw [List.forall_mem_cons] at settled
      cases isDue : due field with
      | true =>
          rw [List.filter_cons_of_pos isDue]
          refine putAll_cons_ok_iff.mpr ⟨next, here, ih others ?_ later⟩
          intro other member past
          exact put_settled_of_put (settled.2 other member past) (first other member).symm here
      | false =>
          rw [settled.1 isDue] at here
          cases here
          rw [List.filter_cons_of_neg (by simp [isDue])]
          exact ih others settled.2 later

-----------------------------------------------------------------------------------------
-- Evaluating in order
-----------------------------------------------------------------------------------------

/-- A run over fields explains itself: with the values that the fields have on the final data
written one after the other, the first data become the final ones, and the results say so.
-/
structure Explained (setting : Setting) (fields : List Field) (data : Json)
    (results : List Result) (final : Json)
    : Prop where
  written : putAll (fun field => setting.value field final) fields data = .ok final
  results : results = fields.map fun field => setting.result field final

namespace Engine

theorem sameBase_evaluateInOrder (clock : Instant) (data : Json) (engine : Engine)
    (fields : List Field)
    : SameBase (evaluateInOrder clock data engine fields).2.2 engine := by
  induction fields generalizing data engine with
  | nil => exact .refl engine
  | cons field rest ih => exact (ih _ _).trans (sameBase_evaluate clock field data engine)

/-- What is written at a target is put there. -/
theorem put_of_writeAt {target : String} {value data after : Json}
    (h : writeAt target value data = .ok after)
    : put value (ofText target) data = .ok after := by
  refine DataPath.put_of_write ?_
  unfold writeAt at h
  cases result : DataPath.write data (ofText target) value with
  | error error => simp [result, Except.mapError] at h
  | ok written => simpa [result, Except.mapError] using h

/-- A run whose writes succeed explains itself. Witness: induction on the fields; what the first
one reads is not written any more, so its value on the final data is the one it was given.
-/
theorem explained_evaluateInOrder {clock : Instant} {data : Json} {engine : Engine}
    {fields : List Field} (h : WritesSucceed clock data engine fields) (steady : Steady fields)
    (ignores : ∀ field ∈ fields, field.IgnoresData)
    : Explained (engine.setting clock) fields data
        (evaluateInOrder clock data engine fields).1
        (evaluateInOrder clock data engine fields).2.1 := by
  induction fields generalizing data engine with
  | nil => exact ⟨rfl, rfl⟩
  | cons field rest ih =>
      obtain ⟨⟨after, write⟩, later⟩ := h
      obtain ⟨result, same⟩ := evaluate_of_write write
      rw [List.forall_mem_cons] at ignores
      have below := ih later steady.2 ignores.2
      rw [(sameBase_evaluate clock field data engine).setting clock] at below
      simp only [evaluateInOrder]
      generalize evaluate clock field data engine = here at *
      obtain ⟨first, next, engine'⟩ := here
      simp only at result same below ⊢
      subst result same
      have written := put_of_writeAt write
      rw [toWrite_eq] at written
      have settled (source : String) (member : source ∈ field.sources)
          : read (evaluateInOrder clock next engine' rest).2.1 source = read data source := by
        obtain ⟨first, others⟩ := List.forall_mem_cons.mp (steady.1 source member)
        rw [read_putAll_of_misses below.written others, read_of_put_misses written first]
      rw [← Setting.value_congr _ ignores.1 settled] at written
      exact {
        written := putAll_cons_ok_iff.mpr ⟨next, written, below.written⟩
        results := by
          rw [List.map_cons, Setting.result_congr _ ignores.1 settled, below.results]
      }

end Engine

end FormWizard.Computed
