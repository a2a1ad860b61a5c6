import FormWizard.Computed.Field

/-! The order in which the fields of a batch are evaluated: every field after the fields of the
batch that it reads. The search goes depth first and keeps its own stack.
-/

namespace FormWizard.Computed

/-- Fields that read each other in a cycle, named by the target of one of them. -/
structure CircularDependency where
  target : String
deriving DecidableEq, Repr

/-- The wording of the error. -/
def CircularDependency.message (error : CircularDependency) : String :=
  "circular dependency detected at computed field '" ++ error.target ++ "'"

/-- The fields of a batch by their targets; of two with one target the later one. -/
def batch (fields : List Field) : Table Field :=
  Table.ofEntries (fields.map fun field => (field.target, field))

namespace Search

/-- A field that has been entered, with the sources that are still to be followed. -/
structure Frame where
  target : String
  field : Field
  pending : List String

/-- The frame of a field that is entered. -/
def Frame.enter (target : String) (field : Field) : Frame :=
  ⟨target, field, field.sources⟩

/-- The fields that are being visited, innermost first, the targets of all fields that have been
entered, and the finished fields, last one first.
-/
structure State where
  stack : List Frame
  entered : List String
  finished : List Field

/-- The steps that the fields of a batch still take which have not been entered: one to enter,
one to finish, and one for each source.
-/
def unentered (entered : List String) : Table Field → Nat
  | [] => 0
  | (target, field) :: rest =>
    (if target ∈ entered then 0 else field.sources.length + 2) + unentered entered rest

/-- The steps that the fields on the stack still take. -/
def onStack (stack : List Frame) : Nat :=
  stack.foldr (fun frame steps => frame.pending.length + 1 + steps) 0

/-- Entering a field leaves no more steps to the fields that have not been entered. -/
theorem unentered_cons_le (target : String) (entered : List String) (fields : Table Field)
    : unentered (target :: entered) fields ≤ unentered entered fields := by
  induction fields with
  | nil => exact Nat.le_refl _
  | cons entry rest ih =>
    obtain ⟨name, field⟩ := entry
    simp only [unentered, List.mem_cons]
    by_cases known : name ∈ entered
    · simpa [known] using ih
    · by_cases same : name = target
      · simp only [same, true_or, if_true]
        omega
      · simpa [known, same] using ih

/-- Entering a field of the batch takes its steps from those that have not been entered. -/
theorem unentered_cons_of_find? {target : String} {field : Field} {entered : List String}
    {fields : Table Field} (found : Table.find? target fields = some field)
    (new : target ∉ entered)
    : unentered (target :: entered) fields + (field.sources.length + 2)
        ≤ unentered entered fields := by
  induction fields with
  | nil => simp [Table.find?] at found
  | cons entry rest ih =>
    obtain ⟨name, other⟩ := entry
    by_cases same : target = name
    · subst same
      obtain rfl : other = field := by simpa [Table.find?] using found
      have := unentered_cons_le target entered rest
      simp only [unentered, List.mem_cons, true_or, if_true, new, if_false]
      omega
    · have inRest : Table.find? target rest = some field := by
        simpa [Table.find?, same] using found
      have := ih inRest
      by_cases known : name ∈ entered
      · simpa [unentered, List.mem_cons, known] using this
      · simp only [unentered, List.mem_cons, known, Ne.symm same, or_false, if_false]
        omega

/-- Follows the sources of the fields on the stack until all of them are finished. A source that
is on the stack itself closes a cycle.
-/
def run (fields : Table Field) (state : State) : Except CircularDependency State :=
  match _stack : state.stack with
  | [] => .ok state
  | frame :: rest =>
    match _pending : frame.pending with
    | [] => run fields ⟨rest, state.entered, frame.field :: state.finished⟩
    | source :: pending =>
      let here : Frame := { frame with pending := pending }
      match _found : Table.find? source fields with
      | none => run fields ⟨here :: rest, state.entered, state.finished⟩
      | some field =>
        if _known : source ∈ state.entered then
          if source ∈ state.stack.map Frame.target then .error ⟨source⟩
          else run fields ⟨here :: rest, state.entered, state.finished⟩
        else
          run fields
            ⟨.enter source field :: here :: rest, source :: state.entered, state.finished⟩
termination_by unentered state.entered fields + onStack state.stack
decreasing_by
  · simp only [_stack, onStack, List.foldr_cons]
    omega
  · simp only [_stack, _pending, onStack, List.foldr_cons, List.length_cons]
    omega
  · simp only [_stack, _pending, onStack, List.foldr_cons, List.length_cons]
    omega
  · have := unentered_cons_of_find? _found _known
    simp only [_stack, _pending, onStack, List.foldr_cons, List.length_cons,
      Frame.enter]
    omega

/-- Visits the fields of a list that have not been entered, from the first to the last. -/
def visitAll (fields : Table Field) : List Field → State → Except CircularDependency State
  | [], state => .ok state
  | field :: rest, state =>
    if field.target ∈ state.entered then visitAll fields rest state
    else
      match Table.find? field.target fields with
      | none => visitAll fields rest state
      | some root => do
        let state ← run fields
          ⟨[.enter field.target root], field.target :: state.entered, state.finished⟩
        visitAll fields rest state

end Search

/-- The fields of a batch, one for each target, every field after those that it reads. -/
def order (fields : List Field) : Except CircularDependency (List Field) := do
  let state ← Search.visitAll (batch fields) fields ⟨[], [], []⟩
  return state.finished.reverse

end FormWizard.Computed
