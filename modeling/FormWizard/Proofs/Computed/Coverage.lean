import FormWizard.Proofs.Computed.Downstream
import FormWizard.Proofs.Computed.Evaluation
import FormWizard.Proofs.DataPath.Writes

/-! Which registered fields a change of the data can reach. The search downstream of a path covers
every field that reads that very path, or a target that was found. It compares spellings, so a field
that reads a part of what has changed, or a value that the change is a part of, need not be found.
-/

namespace FormWizard.Computed

open Calendar (Instant)
open DataPath

/-- One of two paths leads to the other. -/
def Overlap (path other : DataPath) : Prop :=
  path <+: other ∨ other <+: path

instance (path other : DataPath) : Decidable (Overlap path other) :=
  inferInstanceAs (Decidable (path <+: other ∨ other <+: path))

/-- The data differ at the path or below it at most. -/
def AgreeBeside (path : DataPath) (data other : Json) : Prop :=
  ∀ text, Diverge path (ofText text) → lookUp? data text = lookUp? other text

variable {fields : List Field} {field : Field} {engine : Engine} {data other : Json}
variable {changed source : String} {path : DataPath}

/-- A write at a path of keys is seen in no path that parts from it. Witness: induction on where the
paths part; a place that is missing in front of the write hides everything from the read.
-/
theorem get?_put_of_diverge {new value result : Json} {written read : DataPath}
    (apart : Diverge written read) (keys : ∀ segment ∈ written, ∃ name, segment = .key name)
    (h : put new written value = .ok result)
    : get? result read = get? value read := by
  induction apart generalizing value result with
  | @here left right different front back =>
      obtain ⟨name, rfl⟩ := keys left List.mem_cons_self
      rw [get?, get?, child?_put_key_of_ne h different]
  | @deeper segment front back apart ih =>
      obtain ⟨name, rfl⟩ := keys segment List.mem_cons_self
      obtain ⟨members, inner, opened, below, rfl⟩ := put_key_ok_iff.mp h
      have kept := ih (fun segment member => keys segment (List.mem_cons_of_mem _ member)) below
      simp only [get?, child?_key_of_membersOf opened, child?_object_key,
        Table.find?_insert_self, Option.bind_some, kept]
      cases Table.find? name members with
      | some old => rfl
      | none =>
          have nonempty : back ≠ [] := by rintro rfl; cases apart
          rw [Option.getD_none, get?_null nonempty]
          rfl

/-- Data that agree beside a path hold the same in every source that does not overlap with it. -/
theorem AgreeBeside.read_eq (h : AgreeBeside path data other)
    (apart : ¬Overlap path (ofText source))
    : read data source = read other source := by
  rw [Overlap, not_or] at apart
  have same : lookUp? data source = lookUp? other source :=
    h source (DataPath.diverge_of_not_prefix apart.1 apart.2)
  exact congrArg (Option.getD · .null) same

namespace Engine

/-- What a field reads of the changed path or of an affected target affects the field. -/
theorem target_mem_affected (member : field ∈ fields) (reads : source ∈ field.sources)
    (reached : source = normalize changed ∨ source ∈ (engine.registerAll fields).affected changed)
    (new : field.target ≠ normalize changed)
    : field.target ∈ (engine.registerAll fields).affected changed := by
  have edge : ⟨source, field.target⟩ ∈ (engine.registerAll fields).edges :=
    mem_edges_registerAll_iff.mpr (.inl ⟨field, member, rfl, reads⟩)
  exact (Graph.mem_affected_of_edge reached edge).resolve_left new

/-- What the expression of a field comes to, before it is rounded. -/
def expressed (clock : Instant) (field : Field) (data : Json) (engine : Engine)
    : Except FieldError Json :=
  (engine.compute clock { field with round := none } data).1

/-- A field whose expression comes to something else reads something that has changed. -/
theorem exists_read_ne (ignores : field.IgnoresData) {clock : Instant}
    (differ : engine.expressed clock field data ≠ engine.expressed clock field other)
    : ∃ source ∈ field.sources, read data source ≠ read other source := by
  by_contra none
  have same : ∀ source ∈ field.sources, read data source = read other source :=
    fun source reads => by_contra fun differ => none ⟨source, reads, differ⟩
  have unnamed : ({ field with round := Option.none } : Field).IgnoresData := ignores
  refine differ ?_
  rw [expressed, expressed, compute_fst, compute_fst, Setting.compute_congr _ unnamed same]

/-- A registered field whose expression comes to something else when the data change at a path or
below it is affected, unless none of its sources is the path or an affected target, and the change
is seen in one that contains the path or lies within it.
-/
theorem affected_or_overlap (start : Engine) (member : field ∈ fields)
    (ignores : field.IgnoresData) (agree : AgreeBeside (ofText changed) data other)
    {clock : Instant}
    (differ
      : (start.registerAll fields).expressed clock field data
        ≠ (start.registerAll fields).expressed clock field other)
    (new : field.target ≠ normalize changed)
    : field.target ∈ (start.registerAll fields).affected changed
      ∨ (∀ source ∈ field.sources,
          source ≠ normalize changed ∧ source ∉ (start.registerAll fields).affected changed)
        ∧ ∃ source ∈ field.sources,
            Overlap (ofText changed) (ofText source) ∧ read data source ≠ read other source := by
  by_cases reached : field.target ∈ (start.registerAll fields).affected changed
  · exact .inl reached
  · refine .inr ⟨fun source reads => ?_, ?_⟩
    · rw [← not_or]
      exact fun found => reached (target_mem_affected member reads found new)
    · obtain ⟨source, reads, seen⟩ := exists_read_ne ignores differ
      refine ⟨source, reads, ?_, seen⟩
      by_contra apart
      exact seen (agree.read_eq apart)

end Engine

/-- Two fields that read the total of an order: one by its path, the other as a part of the order.
-/
def charges : List Field :=
  [{ path := "due", expr := "total + shipping", dependsOn := ["order.total", "shipping"] },
    { path := "tax", expr := "order.total", dependsOn := ["order"] }]

/-- An order with the given total. -/
def ordered (total : Int) : Json :=
  .object [("order", .object [("total", .ofInt total)]), ("shipping", .ofInt 4)]

theorem agreeBeside_ordered (first second : Int)
    : AgreeBeside (ofText "order.total") (ordered first) (ordered second) := by
  have path : ofText "order.total" = [.key "order", .key "total"] := by decide
  have edit : put (.ofInt second) [.key "order", .key "total"] (ordered first)
      = .ok (ordered second) := rfl
  intro text apart
  rw [path] at apart
  exact (get?_put_of_diverge apart (by simp) edit).symm

/-- The field that reads the total by its path is affected by a change of it. -/
theorem affected_charges_due
    : "$.due" ∈ (Engine.registerAll charges {}).affected "order.total" := by
  have member : charges[0] ∈ charges := by decide
  have differ
      : (Engine.registerAll charges {}).expressed default charges[0] (ordered 1)
        ≠ (Engine.registerAll charges {}).expressed default charges[0] (ordered 2) := by
    decide +kernel
  have named : normalize "order.total" ∈ charges[0].sources := by decide
  rcases Engine.affected_or_overlap {} member (by decide +kernel) (agreeBeside_ordered 1 2) differ
    (by decide) with found | ⟨unnamed, -⟩
  · exact found
  · exact absurd rfl (unnamed _ named).1

/-- The field that reads the total as a part of the order is not, though its value changes. -/
theorem not_affected_charges_tax
    : (∀ field ∈ charges, field.IgnoresData)
      ∧ AgreeBeside (ofText "order.total") (ordered 1) (ordered 2)
      ∧ charges[1] ∈ charges
      ∧ (Engine.registerAll charges {}).expressed default charges[1] (ordered 1)
        ≠ (Engine.registerAll charges {}).expressed default charges[1] (ordered 2)
      ∧ charges[1].target ≠ normalize "order.total"
      ∧ charges[1].target ∉ (Engine.registerAll charges {}).affected "order.total" := by
  refine ⟨by decide +kernel, agreeBeside_ordered 1 2, by decide, by decide +kernel, by decide, ?_⟩
  decide +kernel

end FormWizard.Computed
