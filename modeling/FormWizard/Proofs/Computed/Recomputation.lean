import FormWizard.Proofs.Computed.Registrations

/-! Evaluating what lies downstream of an edit leaves what evaluating everything again leaves. A
field that is not downstream keeps the value that it has been given before the edit, and so
nothing is lost when it is left out.
-/

namespace FormWizard.Computed

open Calendar (Instant)
open DataPath (ofText normalize)

/-- A part of a batch that holds with a path, and with each of its fields, all fields of the batch
that depend on them.
-/
structure IsDownstream (fields : List Field) (changed : String) (part : List Field) : Prop where
  once : (part.map Field.target).Nodup
  sub : part ⊆ fields
  closed : ∀ field ∈ fields, ∀ source ∈ field.sources,
    source = normalize changed ∨ source ∈ part.map Field.target → field ∈ part

-----------------------------------------------------------------------------------------
-- What an engine takes to lie downstream
-----------------------------------------------------------------------------------------

/-- After the registration of a regular batch, what the engine finds downstream of a path is
downstream in the batch. The path must not itself be a target.
-/
theorem Regular.isDownstream {fields : List Field} {edits : List String}
    (regular : Regular fields edits) {start engine : Engine} (noEdges : start.edges = [])
    (noFields : start.fields = []) (base : engine.SameBase (start.registerAll fields))
    {changed : String} (foreign : normalize changed ∉ fields.map Field.target)
    : IsDownstream fields changed (engine.downstream changed) := by
  have known : engine.Knows fields := by
    have start : start.Knows [] := Engine.knows_new.congr noEdges noFields
    exact (start.registerAll fields).of_sameBase base
  have targets := known.targets_downstream changed
  have member (field : Field)
      : field ∈ engine.downstream changed
        ↔ field ∈ fields ∧ field.target ∈ engine.affected changed := by
    rw [known.mem_downstream_iff, and_comm]
    refine and_congr_left fun _ => ⟨fun counts => (declared?_spec counts).1, ?_⟩
    exact regular.declared?_of_mem
  exact {
    once := targets ▸ (Graph.explored_explore engine.edges _ _).once
    sub := fun field inPart => ((member field).mp inPart).1
    closed := by
      intro field inFields source read reached
      rw [targets] at reached
      refine (member field).mpr ⟨inFields, ?_⟩
      have edge := (known.edges source field.target).mpr ⟨field, inFields, rfl, read⟩
      refine (Graph.mem_affected_of_edge reached edge).resolve_left fun same => foreign ?_
      exact same ▸ List.mem_map_of_mem inFields
  }

-----------------------------------------------------------------------------------------
-- Three runs
-----------------------------------------------------------------------------------------

section Runs

variable {setting : Setting} {fields ordered part partOrdered : List Field} {changed : String}
  {data new first edited final partFinal : Json} {results partResults fullResults : List Result}

/-- A field that is not downstream of an edit reads the same after a new run as before the edit.
-/
theorem Explained.sources_agree_of_notMem (regular : Regular fields [changed])
    (isOrder : IsDependencyOrder fields ordered) (down : IsDownstream fields changed part)
    (run : Explained setting ordered data results first)
    (edit : DataPath.put new (ofText changed) first = .ok edited)
    (fully : Explained setting ordered edited fullResults final)
    : ∀ field ∈ ordered, field ∉ part → ∀ source ∈ field.sources,
        read first source = read final source := by
  have sub : ordered ⊆ fields := fun field => (regular.mem_ordered_iff isOrder).mp
  have apart := regular.apart sub isOrder.once
  refine isOrder.sources_agree (fun field member => regular.ignores field (sub member)) setting
    (· ∉ part) first final fun field member outside source inSources => ?_
  have closed := down.closed field (sub member) source inSources
  by_cases computed : source ∈ ordered.map Field.target
  · obtain ⟨other, inOrder, rfl⟩ := List.mem_map.mp computed
    refine .inr ⟨other, inOrder, fun inPart => outside ?_, rfl,
      run.read_target apart inOrder, fully.read_target apart inOrder⟩
    exact closed (.inr (List.mem_map_of_mem inPart))
  · have different : normalize changed ≠ source := fun same => outside (closed (.inl same.symm))
    obtain ⟨path, mentioned, rfl⟩ := List.mem_map.mp inSources
    have inTidy : path ∈ [changed] ++ fields.flatMap Field.paths :=
      Regular.mem_paths (sub member) (List.mem_cons_of_mem _ mentioned)
    have missed := regular.tidy.misses (by simp) inTidy different
    rw [regular.tidy.ofText_normalize (by simp)] at missed
    rw [fully.read_source regular sub (sub member) inSources computed,
      read_of_put_misses edit missed]
    exact .inl rfl

/-- After an edit, a run over the fields downstream of it leaves the same data as one over all
fields, with some of its results.
-/
theorem Explained.part_agrees (regular : Regular fields [changed])
    (foreign : normalize changed ∉ fields.map Field.target)
    (isOrder : IsDependencyOrder fields ordered) (down : IsDownstream fields changed part)
    (isPartOrder : IsDependencyOrder part partOrdered)
    (run : Explained setting ordered data results first)
    (edit : DataPath.put new (ofText changed) first = .ok edited)
    (partly : Explained setting partOrdered edited partResults partFinal)
    (fully : Explained setting ordered edited fullResults final)
    : partFinal = final ∧ partResults ⊆ fullResults := by
  have sub : ordered ⊆ fields := fun field => (regular.mem_ordered_iff isOrder).mp
  have apart := regular.apart sub isOrder.once
  have partRegular : Regular part [changed] := regular.sublist down.once down.sub
  have partMem (field : Field) : field ∈ partOrdered ↔ field ∈ part :=
    partRegular.mem_ordered_iff isPartOrder
  have partSub : partOrdered ⊆ ordered := fun field inPart =>
    (regular.mem_ordered_iff isOrder).mpr (down.sub ((partMem field).mp inPart))
  have agree := run.sources_agree_of_notMem regular isOrder down edit fully
  -- What is not downstream has kept its value, so the run over all fields may leave it out.
  have settled (field : Field) (member : field ∈ ordered) (outside : decide (field ∈ part) = false)
      : DataPath.put (setting.value field final) field.address edited = .ok edited := by
    rw [← setting.value_congr (regular.ignores field (sub member))
      (agree field member (of_decide_eq_false outside))]
    refine put_settled_of_put (put_settled_of_mem apart run.written member) ?_ edit
    have away : DataPath.Diverge (ofText (normalize field.path)) (ofText (normalize changed)) :=
      regular.tidy.diverge (Regular.mem_paths (sub member) List.mem_cons_self) (by simp)
        fun same => foreign (same ▸ List.mem_map_of_mem (sub member))
    have spelled : ofText (normalize changed) = ofText changed :=
      regular.tidy.ofText_normalize (by simp)
    rwa [spelled] at away
  have written := putAll_filter apart (fun field => decide (field ∈ part)) settled fully.written
  have perm : (ordered.filter fun field => decide (field ∈ part)).Perm partOrdered := by
    refine (List.perm_ext_iff_of_nodup (isOrder.once.of_map.filter _)
      isPartOrder.once.of_map).mpr fun field => ?_
    rw [List.mem_filter, decide_eq_true_iff, partMem]
    exact and_iff_right_of_imp fun inPart => partSub ((partMem field).mpr inPart)
  replace written := putAll_perm perm (apart.filter _) written
  have partAgree := partly.sources_agree partRegular isPartOrder fully partSub apart
    fun field member source inSources outside => by
      have missed (other : Field) (inPart : other ∈ partOrdered)
          : DataPath.Misses other.address (ofText source) :=
        regular.misses (sub (partSub inPart)) (sub (partSub member)) inSources
          fun same => outside (same ▸ List.mem_map_of_mem inPart)
      rw [read_putAll_of_misses partly.written missed, read_putAll_of_misses written missed]
  have sameValue (field : Field) (member : field ∈ partOrdered)
      : setting.value field partFinal = setting.value field final :=
    setting.value_congr (regular.ignores field (sub (partSub member))) (partAgree field member)
  have same : partFinal = final := by
    rw [← putAll_congr sameValue, partly.written] at written
    exact Except.ok.inj written
  refine ⟨same, ?_⟩
  rw [partly.results, fully.results, same]
  exact List.map_subset _ partSub

end Runs

/-- Recomputing what lies downstream of an edit agrees with recomputing everything. After a run
that has ended well over a regular batch, on an engine that knew no field before, and an edit at a
path that is not a target: evaluating the affected fields there, and evaluating the batch anywhere,
both end well and leave the same data, and a field that both evaluate has the same result.
-/
theorem evaluateAffected_agrees {fields : List Field} {changed : String}
    {data new first edited : Json} {start engine : Engine} {results : List Result}
    (other : Engine) (clock laterClock otherClock : Instant)
    (regular : Regular fields [changed]) (foreign : normalize changed ∉ fields.map Field.target)
    (noEdges : start.edges = []) (noFields : start.fields = [])
    (run : start.evaluateAll clock fields data = (.ok results, first, engine))
    (edit : DataPath.write first (ofText changed) new = .ok edited)
    (supplied : start.setting laterClock = start.setting clock)
    (otherSupplied : other.setting otherClock = start.setting clock)
    (writes : start.AllWritesSucceed clock fields data)
    (partWrites : engine.AllWritesSucceed laterClock (engine.downstream changed) edited)
    (fullWrites : other.AllWritesSucceed otherClock fields edited)
    : ∃ part full final,
        (engine.evaluateAffected laterClock changed edited).1 = .ok part
        ∧ (engine.evaluateAffected laterClock changed edited).2.1 = final
        ∧ other.outcome otherClock fields edited = (.ok full, final)
        ∧ ∀ result ∈ part, ∀ another ∈ full, result.path = another.path → result = another := by
  cases ordering : order fields with
  | error error => simp [Engine.evaluateAll, ordering] at run
  | ok ordered =>
      have isOrder := isDependencyOrder_of_order ordering
      obtain ⟨_, _, _, sameRun, explained, base⟩ := regular.evaluateAll_of_order writes ordering
      rw [run] at sameRun
      cases sameRun
      have down := regular.isDownstream noEdges noFields base foreign
      have partRegular : Regular (engine.downstream changed) [changed] :=
        regular.sublist down.once down.sub
      obtain ⟨partOrdered, partOrdering⟩ :=
        (regular.acyclic_of_subset partRegular down.sub isOrder.acyclic).order_ok
      obtain ⟨part, partFinal, _, partRun, partly, -⟩ :=
        partRegular.evaluateAll_of_order partWrites partOrdering
      obtain ⟨full, final, _, fullRun, fully, -⟩ :=
        regular.evaluateAll_of_order fullWrites ordering
      rw [base.setting, Engine.setting_registerAll, supplied] at partly
      rw [otherSupplied] at fully
      obtain ⟨rfl, sub⟩ := explained.part_agrees regular foreign isOrder down
        (isDependencyOrder_of_order partOrdering) (DataPath.put_of_write edit) partly fully
      refine ⟨part, full, partFinal, by rw [Engine.evaluateAffected, partRun],
        by rw [Engine.evaluateAffected, partRun], by simp [Engine.outcome, fullRun], ?_⟩
      have once : (full.map Result.path).Nodup := by
        rw [fully.results, List.map_map]
        exact isOrder.once
      exact fun result inPart another inFull => List.inj_on_of_nodup_map once (sub inPart) inFull

/-- The engine that has made out the invoice of the purchase. -/
def invoicer : Engine :=
  (Engine.evaluateAll default invoice purchase {}).2.2

/-- The invoiced purchase, after the shipping costs have been raised from 4 to 5. -/
def reshipped : Json :=
  .object
    [("invoice", .object [("due", .ofInt 10), ("total", .ofInt 6)]), ("price", .ofInt 3),
      ("quantity", .ofInt 2), ("shipping", .ofInt 5)]

/-- The engine then leaves the invoice that would be made out anew. -/
theorem evaluateAffected_invoice_shipping
    : (invoicer.evaluateAffected default "shipping" reshipped).2.1
      = (Engine.outcome default invoice reshipped {}).2 := by
  obtain ⟨results, finished⟩
      : ∃ results, (Engine.evaluateAll default invoice purchase {}).1 = .ok results := by
    cases finished : (Engine.evaluateAll default invoice purchase {}).1 with
    | ok results => exact ⟨results, rfl⟩
    | error error =>
        have ok : (Engine.evaluateAll default invoice purchase {}).1.isOk := by decide +kernel
        simp [finished, Except.isOk, Except.toBool] at ok
  have edit : DataPath.write (Engine.evaluateAll default invoice purchase {}).2.1
      (ofText "shipping") (.ofInt 5) = .ok reshipped := by
    decide +kernel
  obtain ⟨_, _, _, -, partFinal, fullRun, -⟩ := evaluateAffected_agrees {} default default default
    (by decide +kernel) (by decide +kernel) rfl rfl (Prod.ext finished rfl) edit rfl rfl
    (by decide +kernel) (by decide +kernel) (by decide +kernel)
  rw [fullRun]
  exact partFinal

end FormWizard.Computed
