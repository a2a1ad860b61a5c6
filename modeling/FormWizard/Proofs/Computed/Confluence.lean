import FormWizard.Proofs.Computed.Regularity

/-! The order in which the fields of a batch are listed makes no difference to what they are
computed to, and computing them once more changes nothing.
-/

namespace FormWizard.Computed

open Calendar (Instant)

variable {setting : Setting} {fields ordered : List Field} {edits : List String}
  {data final : Json} {results : List Result}

/-- Runs of a regular batch that start from the same data, with the fields in any two orders,
leave the same data and have the same results.
-/
theorem Explained.confluent {reordered : List Field} {other : Json} {others : List Result}
    (regular : Regular fields edits) (isOrder : IsDependencyOrder fields ordered)
    (perm : ordered.Perm reordered) (run : Explained setting ordered data results final)
    (rerun : Explained setting reordered data others other)
    : final = other ∧ results.Perm others := by
  have sub : ordered ⊆ fields := fun field => (regular.mem_ordered_iff isOrder).mp
  have apart := regular.apart sub isOrder.once
  have agree := run.sources_agree regular isOrder rerun perm.subset
    ((perm.pairwise_iff DataPath.Diverge.symm).mp apart)
    fun field member source read outside => by
      have elsewhere : source ∉ reordered.map Field.target := by
        rwa [(perm.map Field.target).mem_iff] at outside
      have reorderedSub : reordered ⊆ fields := fun _ inRerun => sub (perm.mem_iff.mpr inRerun)
      rw [run.read_source regular sub (sub member) read outside,
        rerun.read_source regular reorderedSub (sub member) read elsewhere]
  have sameValue (field : Field) (member : field ∈ reordered)
      : setting.value field final = setting.value field other :=
    setting.value_congr (regular.ignores field (sub (perm.mem_iff.mpr member)))
      (agree field (perm.mem_iff.mpr member))
  have same : final = other := by
    have written := putAll_perm perm apart run.written
    rw [putAll_congr sameValue, rerun.written] at written
    exact (Except.ok.inj written).symm
  refine ⟨same, ?_⟩
  rw [run.results, rerun.results, same]
  exact perm.map _

/-- Running a regular batch on the data that a run has left changes nothing. -/
theorem Explained.fixpoint {last : Json} {repeated : List Result}
    (regular : Regular fields edits) (isOrder : IsDependencyOrder fields ordered)
    (run : Explained setting ordered data results final)
    (again : Explained setting ordered final repeated last)
    : last = final ∧ repeated = results := by
  have sub : ordered ⊆ fields := fun field => (regular.mem_ordered_iff isOrder).mp
  have apart := regular.apart sub isOrder.once
  have agree := run.sources_agree regular isOrder again (List.Subset.refl ordered) apart
    fun field member source read outside =>
      (again.read_source regular sub (sub member) read outside).symm
  have sameValue (field : Field) (member : field ∈ ordered)
      : setting.value field last = setting.value field final :=
    (setting.value_congr (regular.ignores field (sub member)) (agree field member)).symm
  have settled (field : Field) (member : field ∈ ordered) (_ : false = false)
      : DataPath.put (setting.value field last) field.address final = .ok final := by
    rw [sameValue field member]
    exact put_settled_of_mem apart run.written member
  have nothing := putAll_filter apart (fun _ => false) settled again.written
  have same : last = final := by simpa [putAll] using nothing.symm
  exact ⟨same, by rw [again.results, run.results, same]⟩

/-- A regular batch is confluent and reaches a fixpoint. However its fields are listed and whatever
the engines remember: either every run fails with a cycle and leaves the data alone, or all runs
end with the same data and the same results, one for each target; and a further run on those data
has these results again and leaves the data as they are.
-/
theorem outcome_confluent {fields shuffled : List Field} (perm : fields.Perm shuffled)
    (regular : Regular fields []) (data : Json) (engine other again : Engine)
    (clock otherClock laterClock : Instant)
    (supplied : other.setting otherClock = engine.setting clock)
    (suppliedAgain : again.setting laterClock = engine.setting clock)
    (writes : engine.AllWritesSucceed clock fields data)
    (otherWrites : other.AllWritesSucceed otherClock shuffled data)
    (writesAgain : again.AllWritesSucceed laterClock fields
      (engine.outcome clock fields data).2)
    : (∃ error otherError,
        engine.outcome clock fields data = (.error error, data)
        ∧ other.outcome otherClock shuffled data = (.error otherError, data))
      ∨ ∃ results others final,
          engine.outcome clock fields data = (.ok results, final)
          ∧ other.outcome otherClock shuffled data = (.ok others, final)
          ∧ results.Perm others
          ∧ (results.map Result.path).Perm (fields.map Field.target)
          ∧ again.outcome laterClock fields final = (.ok results, final) := by
  have shuffledRegular : Regular shuffled [] :=
    regular.sublist ((perm.map Field.target).nodup_iff.mp regular.distinct) perm.symm.subset
  cases ordering : order fields with
  | error error =>
      cases reordering : order shuffled with
      | error otherError =>
          exact .inl ⟨error, otherError, Engine.outcome_of_order_error ordering,
            Engine.outcome_of_order_error reordering⟩
      | ok reordered =>
          have acyclic := (isDependencyOrder_of_order reordering).acyclic
          have cycle := transGen_of_order_error ordering
          exact (shuffledRegular.acyclic_of_subset regular perm.subset acyclic _ cycle).elim
  | ok ordered =>
      have isOrder := isDependencyOrder_of_order ordering
      obtain ⟨reordered, reordering⟩ := (regular.acyclic_of_subset shuffledRegular
        perm.symm.subset isOrder.acyclic).order_ok
      obtain ⟨results, final, after, run, explained, -⟩ :=
        regular.evaluateAll_of_order writes ordering
      obtain ⟨others, otherFinal, _, rerun, reexplained, -⟩ :=
        shuffledRegular.evaluateAll_of_order otherWrites reordering
      have run : engine.outcome clock fields data = (.ok results, final) := by
        simp [Engine.outcome, run]
      have rerun : other.outcome otherClock shuffled data = (.ok others, otherFinal) := by
        simp [Engine.outcome, rerun]
      rw [run] at writesAgain
      obtain ⟨repeated, last, _, further, unchanged, -⟩ :=
        regular.evaluateAll_of_order writesAgain ordering
      have repetition : again.outcome laterClock fields final = (.ok repeated, last) := by
        simp [Engine.outcome, further]
      have shuffle : ordered.Perm reordered :=
        (regular.perm_of_order isOrder).trans
          (perm.trans (shuffledRegular.perm_of_order
            (isDependencyOrder_of_order reordering)).symm)
      rw [supplied] at reexplained
      rw [suppliedAgain] at unchanged
      obtain ⟨rfl, same⟩ := explained.confluent regular isOrder shuffle reexplained
      obtain ⟨rfl, rfl⟩ := explained.fixpoint regular isOrder unchanged
      refine .inr ⟨repeated, others, last, run, rerun, same, ?_, repetition⟩
      rw [explained.results, List.map_map]
      exact (regular.perm_of_order isOrder).map Field.target

/-- The invoice is the same when its fields are listed the other way round. -/
theorem outcome_invoice_reverse
    : (Engine.outcome default invoice purchase {}).2
      = (Engine.outcome default invoice.reverse purchase {}).2 := by
  have runs := outcome_confluent invoice.reverse_perm.symm (by decide +kernel) purchase {} {} {}
    default default default rfl rfl (by decide +kernel) (by decide +kernel) (by decide +kernel)
  rcases runs with ⟨_, _, run, rerun⟩ | ⟨_, _, _, run, rerun, -⟩
  all_goals rw [run, rerun]

end FormWizard.Computed
