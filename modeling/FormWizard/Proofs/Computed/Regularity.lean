import FormWizard.Proofs.Computed.Batches
import Mathlib.Data.List.Perm.Basic

/-! Batches whose fields read and write at paths that have nothing to do with each other unless
they are spelled alike. The run of such a batch explains itself, and two of its runs agree on a
field as soon as they agree on what lies outside of the batch.
-/

namespace FormWizard.Computed

open Calendar (Instant)
open DataPath (ofText Diverge Misses Tidy normalize)

/-- The paths that a field mentions, as they are written. -/
def Field.paths (field : Field) : List String :=
  field.path :: field.dependsOn

/-- Distinct targets, tidy paths, also together with those at which the data may be edited, and
expressions that read the data through the sources of their fields alone.
-/
structure Regular (fields : List Field) (edits : List String) : Prop where
  distinct : (fields.map Field.target).Nodup
  tidy : Tidy (edits ++ fields.flatMap Field.paths)
  ignores : ∀ field ∈ fields, field.IgnoresData

instance (fields : List Field) (edits : List String) : Decidable (Regular fields edits) :=
  decidable_of_iff
    ((fields.map Field.target).Nodup ∧ Tidy (edits ++ fields.flatMap Field.paths)
      ∧ ∀ field ∈ fields, field.IgnoresData)
    ⟨fun ⟨distinct, tidy, ignores⟩ => ⟨distinct, tidy, ignores⟩,
      fun h => ⟨h.distinct, h.tidy, h.ignores⟩⟩

/-- An invoice: the amount due is listed before the total that it is computed from. -/
def invoice : List Field :=
  [{ path := "invoice.due", expr := "total + shipping",
     dependsOn := ["invoice.total", "shipping"] },
   { path := "invoice.total", expr := "price * quantity", dependsOn := ["price", "quantity"] }]

/-- An order to be invoiced. -/
def purchase : Json :=
  .object [("price", .ofInt 3), ("quantity", .ofInt 2), ("shipping", .ofInt 4)]

example : Regular invoice ["shipping"] := by decide +kernel

-----------------------------------------------------------------------------------------
-- Orders of a batch
-----------------------------------------------------------------------------------------

/-- What holds of a field once it holds of the fields of the batch that it reads holds of all
fields. Witness: induction on the part of the order that has been gone through.
-/
theorem IsDependencyOrder.induction {fields ordered : List Field}
    (h : IsDependencyOrder fields ordered) {holds : Field → Prop}
    (step : ∀ field ∈ ordered,
      (∀ other ∈ ordered, other.target ∈ field.sources → holds other) → holds field)
    : ∀ field ∈ ordered, holds field := by
  have front (done rest : List Field) (split : ordered = done ++ rest)
      : ∀ field ∈ done, holds field := by
    induction done using List.reverseRecOn generalizing rest with
    | nil => simp
    | append_singleton done last ih =>
        have earlier := ih (last :: rest) (by simp [split])
        have member : last ∈ ordered := by simp [split]
        refine List.forall_mem_append.mpr ⟨earlier, List.forall_mem_singleton.mpr ?_⟩
        refine step last member fun other inOrder read => ?_
        have reads : Reads fields last.target other.target :=
          ⟨(h.complete _).mp (List.mem_map_of_mem inOrder), last, h.declared last member, read⟩
        obtain ⟨same, inFront, named⟩ := List.mem_map.mp
          (h.sourcesFirst done last rest (by simp [split]) _ reads)
        have sameField : same = other := List.inj_on_of_nodup_map h.once
          (by simp [split, inFront]) inOrder named
        exact sameField ▸ earlier same inFront
  exact front ordered [] (by simp)

namespace Regular

variable {fields ordered : List Field} {edits : List String}

theorem mem_paths {field : Field} (member : field ∈ fields) {path : String}
    (mentioned : path ∈ field.paths)
    : path ∈ edits ++ fields.flatMap Field.paths :=
  List.mem_append_right _ (List.mem_flatMap.mpr ⟨field, member, mentioned⟩)

theorem sublist {fewer : List Field} (h : Regular fields edits)
    (distinct : (fewer.map Field.target).Nodup) (sub : fewer ⊆ fields)
    : Regular fewer edits where
  distinct := distinct
  tidy := by
    refine h.tidy.mono fun path member => ?_
    rcases List.mem_append.mp member with edited | named
    · exact List.mem_append_left _ edited
    · obtain ⟨field, inFewer, mentioned⟩ := List.mem_flatMap.mp named
      exact mem_paths (sub inFewer) mentioned
  ignores := fun field member => h.ignores field (sub member)

/-- The field that counts for the target of a field is that field. -/
theorem declared?_of_mem (h : Regular fields edits) {field : Field} (member : field ∈ fields)
    : declared? fields field.target = some field :=
  Computed.declared?_of_mem h.distinct member

/-- Every field of the batch counts, so dependencies can be read off the fields. -/
theorem reads_iff (h : Regular fields edits) {target source : String}
    : Reads fields target source
      ↔ source ∈ fields.map Field.target
        ∧ ∃ field ∈ fields, field.target = target ∧ source ∈ field.sources := by
  refine and_congr_right fun _ => ⟨?_, ?_⟩
  · rintro ⟨field, counts, read⟩
    obtain ⟨member, named⟩ := declared?_spec counts
    exact ⟨field, member, named, read⟩
  · rintro ⟨field, member, rfl, read⟩
    exact ⟨field, h.declared?_of_mem member, read⟩

/-- There is no cycle among fewer fields of a batch that has none. -/
theorem acyclic_of_subset {fewer : List Field} (h : Regular fields edits)
    (fewerRegular : Regular fewer edits) (sub : fewer ⊆ fields) (acyclic : Acyclic fields)
    : Acyclic fewer := by
  refine fun target cycle => acyclic target
    (Relation.TransGen.mono (fun reader source reads => ?_) _ _ cycle)
  obtain ⟨computed, field, member, named, read⟩ := fewerRegular.reads_iff.mp reads
  exact h.reads_iff.mpr ⟨List.map_subset _ sub computed, field, sub member, named, read⟩

/-- An order of the batch holds exactly its fields. -/
theorem mem_ordered_iff (h : Regular fields edits) (order : IsDependencyOrder fields ordered)
    {field : Field}
    : field ∈ ordered ↔ field ∈ fields := by
  constructor
  · exact fun member => (declared?_spec (order.declared field member)).1
  · intro member
    obtain ⟨same, inOrder, named⟩ := List.mem_map.mp
      ((order.complete field.target).mpr (List.mem_map_of_mem member))
    have counts := order.declared same inOrder
    rw [named, h.declared?_of_mem member] at counts
    cases counts
    exact inOrder

/-- An order of the batch is a permutation of it. -/
theorem perm_of_order (h : Regular fields edits) (order : IsDependencyOrder fields ordered)
    : ordered.Perm fields :=
  (List.perm_ext_iff_of_nodup order.once.of_map h.distinct.of_map).mpr
    fun _ => h.mem_ordered_iff order

/-- Fields with different targets are written at places apart. -/
theorem diverge (h : Regular fields edits) {field other : Field} (member : field ∈ fields)
    (another : other ∈ fields) (different : field.target ≠ other.target)
    : Diverge field.address other.address :=
  h.tidy.diverge (mem_paths member List.mem_cons_self) (mem_paths another List.mem_cons_self)
    different

/-- Writing a field leaves alone what is read at a source with another spelling. -/
theorem misses (h : Regular fields edits) {field reader : Field} {source : String}
    (member : field ∈ fields) (another : reader ∈ fields) (read : source ∈ reader.sources)
    (different : field.target ≠ source)
    : Misses field.address (ofText source) := by
  obtain ⟨path, mentioned, rfl⟩ := List.mem_map.mp read
  exact h.tidy.misses (mem_paths member List.mem_cons_self)
    (mem_paths another (List.mem_cons_of_mem _ mentioned)) different

/-- Fields of a list in which no target is named twice are written at places apart. -/
theorem apart (h : Regular fields edits) {some : List Field} (sub : some ⊆ fields)
    (once : (some.map Field.target).Nodup)
    : Apart some := by
  refine (List.pairwise_map.mp once).imp_of_mem fun member another different => ?_
  exact h.diverge (sub member) (sub another) different

/-- In an order of the batch nothing is written any more that a field has read. Witness: induction
on the rest of the order; what is written there and read would have to stand before its reader.
-/
theorem steady (h : Regular fields edits) (order : IsDependencyOrder fields ordered)
    : Steady ordered := by
  have later (done rest : List Field) (split : ordered = done ++ rest) : Steady rest := by
    induction rest generalizing done with
    | nil => trivial
    | cons field rest ih =>
        refine ⟨fun source read other member => ?_, ih (done ++ [field]) (by simp [split])⟩
        have inOrder : field ∈ ordered := by simp [split]
        have alsoInOrder : other ∈ ordered := by rw [split]; exact List.mem_append_right _ member
        refine h.misses ((h.mem_ordered_iff order).mp alsoInOrder)
          ((h.mem_ordered_iff order).mp inOrder) read ?_
        rintro rfl
        have reads : Reads fields field.target other.target :=
          ⟨(order.complete _).mp (List.mem_map_of_mem alsoInOrder), field,
            order.declared field inOrder, read⟩
        have before := order.sourcesFirst done field rest split _ reads
        have once := order.once
        rw [split, List.map_append, List.nodup_append] at once
        exact once.2.2 _ before _ (List.mem_map_of_mem member) rfl
  exact later [] ordered rfl

end Regular

-----------------------------------------------------------------------------------------
-- Runs of a batch
-----------------------------------------------------------------------------------------

namespace Engine

/-- Registering fields changes nothing of what the host supplies. -/
theorem setting_registerAll (clock : Instant) (fields : List Field) (engine : Engine)
    : (engine.registerAll fields).setting clock = engine.setting clock := by
  induction fields generalizing engine with
  | nil => rfl
  | cons field rest ih => exact ih (engine.register field)

/-- Every write succeeds that evaluating a batch performs. -/
def AllWritesSucceed (clock : Instant) (fields : List Field) (data : Json) (engine : Engine)
    : Prop :=
  ∀ ordered, order fields = .ok ordered
    → WritesSucceed clock data (engine.registerAll fields) ordered

instance (clock : Instant) (fields : List Field) (data : Json) (engine : Engine)
    : Decidable (engine.AllWritesSucceed clock fields data) :=
  match h : order fields with
  | .error _ => isTrue fun ordered ordering => by simp [h] at ordering
  | .ok ordered => decidable_of_iff
      (WritesSucceed clock data (engine.registerAll fields) ordered)
      (by simp [AllWritesSucceed, h])

/-- What a run over a batch answers, and the data that it leaves. -/
def outcome (clock : Instant) (fields : List Field) (data : Json) (engine : Engine)
    : Except CircularDependency (List Result) × Json :=
  let (answer, final, _) := evaluateAll clock fields data engine
  (answer, final)

/-- Where the batch cannot be ordered nothing is evaluated. -/
theorem outcome_of_order_error {clock : Instant} {fields : List Field} {data : Json}
    {engine : Engine} {error : CircularDependency} (h : order fields = .error error)
    : engine.outcome clock fields data = (.error error, data) := by
  simp [outcome, evaluateAll, h]

end Engine

/-- The run of a regular batch in its order explains itself. -/
theorem Regular.evaluateAll_of_order {fields ordered : List Field} {edits : List String}
    (h : Regular fields edits) {clock : Instant} {data : Json} {engine : Engine}
    (writes : engine.AllWritesSucceed clock fields data) (ordering : order fields = .ok ordered)
    : ∃ results final after,
        engine.evaluateAll clock fields data = (.ok results, final, after)
        ∧ Explained (engine.setting clock) ordered data results final
        ∧ after.SameBase (engine.registerAll fields) := by
  have isOrder := isDependencyOrder_of_order ordering
  have explained := Engine.explained_evaluateInOrder (writes ordered ordering) (h.steady isOrder)
    fun field member => h.ignores field ((h.mem_ordered_iff isOrder).mp member)
  rw [Engine.setting_registerAll] at explained
  refine ⟨_, _, _, ?_, explained, Engine.sameBase_evaluateInOrder clock data _ ordered⟩
  simp [Engine.evaluateAll, ordering]

variable {setting : Setting} {fields part : List Field} {data final : Json}
  {results : List Result}

/-- A field that the run evaluates has its value at its target afterwards. -/
theorem Explained.read_target (run : Explained setting part data results final)
    (apart : Apart part) {field : Field} (member : field ∈ part)
    : read final field.target = setting.value field final :=
  read_target_of_mem apart run.written member

/-- A source that the run does not compute holds afterwards what it held before. -/
theorem Explained.read_source (run : Explained setting part data results final)
    {edits : List String} (h : Regular fields edits) (sub : part ⊆ fields) {reader : Field}
    (member : reader ∈ fields) {source : String} (read : source ∈ reader.sources)
    (foreign : source ∉ part.map Field.target)
    : Computed.read final source = Computed.read data source := by
  refine read_putAll_of_misses run.written fun field inPart => ?_
  refine h.misses (sub inPart) member read fun same => foreign ?_
  exact same ▸ List.mem_map_of_mem inPart

/-- Two data hold the same in the sources of all fields that are due if they do so in the sources
outside of the batch, and hold the values of the fields in the others.
-/
theorem IsDependencyOrder.sources_agree {ordered : List Field}
    (h : IsDependencyOrder fields ordered) (ignores : ∀ field ∈ ordered, field.IgnoresData)
    (setting : Setting) (due : Field → Prop) (left right : Json)
    (step : ∀ field ∈ ordered, due field → ∀ source ∈ field.sources,
      read left source = read right source
      ∨ ∃ other ∈ ordered, due other ∧ other.target = source
          ∧ read left source = setting.value other left
          ∧ read right source = setting.value other right)
    : ∀ field ∈ ordered, due field → ∀ source ∈ field.sources,
        read left source = read right source := by
  refine h.induction fun field member below isDue source inSources => ?_
  rcases step field member isDue source inSources with same | ⟨other, inOrder, alsoDue, rfl, l, r⟩
  · exact same
  · have agree := below other inOrder inSources alsoDue
    rw [l, r, setting.value_congr (ignores other inOrder) agree]

/-- Two runs over an order of the batch, the second perhaps with other fields as well, leave the
same in the sources of its fields if they do so in those that it does not compute.
-/
theorem Explained.sources_agree {ordered more : List Field} {edits : List String}
    {other left right : Json} {others : List Result} (regular : Regular fields edits)
    (isOrder : IsDependencyOrder fields ordered)
    (run : Explained setting ordered data results left)
    (wider : Explained setting more other others right) (sub : ordered ⊆ more)
    (apart : Apart more)
    (outside : ∀ field ∈ ordered, ∀ source ∈ field.sources,
      source ∉ ordered.map Field.target → read left source = read right source)
    : ∀ field ∈ ordered, ∀ source ∈ field.sources, read left source = read right source := by
  have inFields : ordered ⊆ fields := fun field => (regular.mem_ordered_iff isOrder).mp
  have agree := isOrder.sources_agree
    (fun field member => regular.ignores field (inFields member)) setting (fun _ => True) left
    right fun field member _ source inSources => by
      by_cases computed : source ∈ ordered.map Field.target
      · obtain ⟨computing, inOrder, rfl⟩ := List.mem_map.mp computed
        exact .inr ⟨computing, inOrder, trivial, rfl,
          run.read_target (regular.apart inFields isOrder.once) inOrder,
          wider.read_target apart (sub inOrder)⟩
      · exact .inl (outside field member source inSources computed)
  exact fun field member => agree field member trivial

end FormWizard.Computed
