import FormWizard.Computed.Order
import Mathlib.Data.List.Chain
import Mathlib.Data.List.Nodup
import Mathlib.Logic.Relation

/-! The depth-first search orders a batch exactly when no field of it reads itself, and then every
field comes after the fields of the batch that it reads. The search is followed step by step: what
is on its stack is a path of the dependency graph, and what is finished is closed under reading.
-/

namespace FormWizard.Computed

open Relation (TransGen)

/-- The field that counts for a target, the last one declared. -/
def declared? (fields : List Field) (target : String) : Option Field :=
  fields.reverse.find? (·.target = target)

/-- In a batch, the field of the first target depends on the second one, which the batch computes
as well.
-/
def Reads (fields : List Field) (target source : String) : Prop :=
  source ∈ fields.map Field.target
  ∧ ∃ field, declared? fields target = some field ∧ source ∈ field.sources

/-- No field of a batch depends on itself, directly or through others. -/
def Acyclic (fields : List Field) : Prop :=
  ∀ target, ¬TransGen (Reads fields) target target

/-- In a list, every field stands after all fields of the batch that it depends on. -/
def SourcesFirst (fields ordered : List Field) : Prop :=
  ∀ front field back,
    ordered = front ++ field :: back
    → ∀ source, Reads fields field.target source → source ∈ front.map Field.target

/-- A list holds each target of a batch once, by the field that counts for it, after the fields
of the batch which that field depends on.
-/
structure IsDependencyOrder (fields ordered : List Field) : Prop where
  once : (ordered.map Field.target).Nodup
  complete : ∀ target, target ∈ ordered.map Field.target ↔ target ∈ fields.map Field.target
  declared : ∀ field ∈ ordered, declared? fields field.target = some field
  sourcesFirst : SourcesFirst fields ordered

-----------------------------------------------------------------------------------------
-- The fields that count
-----------------------------------------------------------------------------------------

/-- The table of a batch finds the last declared field of a target. -/
theorem find?_batch (fields : List Field) (target : String)
    : Table.find? target (batch fields) = declared? fields target := by
  rw [batch, Table.find?_ofEntries, ← List.map_reverse, List.find?_map]
  simp [declared?, Function.comp_def]

/-- What counts for a target is a field of the batch with that target. -/
theorem declared?_spec {fields : List Field} {target : String} {field : Field}
    (h : declared? fields target = some field)
    : field ∈ fields ∧ field.target = target := by
  have named := List.find?_some h
  have member := List.mem_of_find?_eq_some h
  exact ⟨List.mem_reverse.mp member, by simpa using named⟩

/-- Exactly the targets of a batch have a field that counts. -/
theorem isSome_declared?_iff {fields : List Field} {target : String}
    : (declared? fields target).isSome ↔ target ∈ fields.map Field.target := by
  simp [declared?, List.find?_isSome]

/-- Of fields with different targets every one counts. -/
theorem declared?_of_mem {fields : List Field} (distinct : (fields.map Field.target).Nodup)
    {field : Field} (member : field ∈ fields)
    : declared? fields field.target = some field := by
  obtain ⟨counts, found⟩ := Option.isSome_iff_exists.mp
    (isSome_declared?_iff.mpr (List.mem_map_of_mem member))
  obtain ⟨inFields, named⟩ := declared?_spec found
  rw [found, List.inj_on_of_nodup_map distinct inFields member named]

/-- Every dependency leads from a target of the batch to one. -/
theorem Reads.source_mem {fields : List Field} {target source : String}
    (h : Reads fields target source)
    : target ∈ fields.map Field.target := by
  obtain ⟨_, field, counts, _⟩ := h
  exact isSome_declared?_iff.mp (by simp [counts])

-----------------------------------------------------------------------------------------
-- Lists with sources first
-----------------------------------------------------------------------------------------

theorem sourcesFirst_nil (fields : List Field) : SourcesFirst fields [] := by
  intro front field back split
  simp at split

/-- A field may be added at the end once all that it depends on is there. -/
theorem SourcesFirst.concat {fields ordered : List Field} {last : Field}
    (h : SourcesFirst fields ordered)
    (known : ∀ source, Reads fields last.target source → source ∈ ordered.map Field.target)
    : SourcesFirst fields (ordered ++ [last]) := by
  intro front field back split source reads
  rcases List.eq_nil_or_concat back with rfl | ⟨inner, final, rfl⟩
  · obtain ⟨rfl, same⟩ := List.append_inj' split rfl
    obtain rfl : last = field := by simpa using same
    exact known source reads
  · have split : ordered ++ [last] = (front ++ field :: inner) ++ [final] := by
      simpa using split
    obtain ⟨rfl, _⟩ := List.append_inj' split rfl
    exact h front field inner rfl source reads

/-- Along dependencies one only moves towards the front of such a list. Witness: induction on the
path, splitting the front at its last stop.
-/
theorem SourcesFirst.transGen_mem_front {fields front back : List Field} {field : Field}
    {target : String} (h : SourcesFirst fields (front ++ field :: back))
    (path : TransGen (Reads fields) field.target target)
    : target ∈ front.map Field.target := by
  induction path with
  | single reads => exact h front field back rfl _ reads
  | tail _ reads ih =>
      obtain ⟨middle, member, rfl⟩ := List.mem_map.mp ih
      obtain ⟨first, second, rfl⟩ := List.append_of_mem member
      have earlier := h first middle (second ++ field :: back) (by simp) _ reads
      simp only [List.map_append, List.mem_append]
      exact Or.inl earlier

/-- A batch that can be ordered has no cycle: a cycle would have to stand before itself. -/
theorem IsDependencyOrder.acyclic {fields ordered : List Field}
    (h : IsDependencyOrder fields ordered)
    : Acyclic fields := by
  intro target cycle
  obtain ⟨source, reads, _⟩ := Relation.TransGen.head'_iff.mp cycle
  have member := (h.complete target).mpr reads.source_mem
  obtain ⟨field, inOrder, rfl⟩ := List.mem_map.mp member
  obtain ⟨front, back, rfl⟩ := List.append_of_mem inOrder
  have earlier := h.sourcesFirst.transGen_mem_front cycle
  have once := h.once
  rw [List.map_append, List.nodup_append] at once
  exact once.2.2 _ earlier _ (by simp) rfl

namespace Search

-----------------------------------------------------------------------------------------
-- What the search keeps
-----------------------------------------------------------------------------------------

/-- For every frame, the sources that it has followed are known if the batch computes them: they
are finished, or they are being visited further inside.
-/
def Followed (fields : List Field) : (known : List String) → List Frame → Prop
  | _, [] => True
  | known, frame :: outer =>
      (∃ front, frame.field.sources = front ++ frame.pending
        ∧ ∀ source ∈ front, source ∈ fields.map Field.target → source ∈ known)
      ∧ Followed fields (frame.target :: known) outer

theorem Followed.mono {fields : List Field} {known more : List String} {stack : List Frame}
    (h : Followed fields known stack) (sub : known ⊆ more)
    : Followed fields more stack := by
  induction stack generalizing known more with
  | nil => trivial
  | cons frame outer ih =>
      obtain ⟨⟨front, split, followed⟩, rest⟩ := h
      refine ⟨⟨front, split, fun source member computed => ?_⟩, ih rest ?_⟩
      · exact sub (followed source member computed)
      · exact List.cons_subset_cons _ sub

/-- The targets that a state has entered: those being visited and those finished. -/
def State.reached (state : State) : List String :=
  state.stack.map Frame.target ++ state.finished.map Field.target

/-- What holds before and after every step of the search. -/
structure Sound (fields : List Field) (state : State) : Prop where
  visiting : ∀ frame ∈ state.stack, declared? fields frame.target = some frame.field
  finished : ∀ field ∈ state.finished, declared? fields field.target = some field
  once : state.reached.Nodup
  entered : ∀ target, target ∈ state.entered ↔ target ∈ state.reached
  path : state.stack.IsChain fun inner outer => Reads fields outer.target inner.target
  followed : Followed fields (state.finished.map Field.target) state.stack
  sourcesFirst : SourcesFirst fields state.finished.reverse

/-- A frame that has been entered lies on a dependency path to every frame further inside. -/
theorem Sound.transGen_of_mem {fields : List Field} {inner : Frame} {outer : List Frame}
    {entered : List String} {finished : List Field}
    (h : Sound fields ⟨inner :: outer, entered, finished⟩) {frame : Frame}
    (member : frame ∈ outer)
    : TransGen (Reads fields) frame.target inner.target := by
  have paths : (inner :: outer).IsChain fun inner outer =>
      TransGen (Reads fields) outer.target inner.target :=
    h.path.imp fun _ _ reads => .single reads
  have : IsTrans Frame fun inner outer => TransGen (Reads fields) outer.target inner.target :=
    ⟨fun _ _ _ near far => far.trans near⟩
  exact (List.pairwise_cons.mp paths.pairwise).1 frame member

/-- The source that the innermost frame follows next is one that its field depends on. -/
theorem Sound.reads_pending {fields : List Field} {frame : Frame} {outer : List Frame}
    {entered : List String} {finished : List Field} {source : String} {pending : List String}
    (h : Sound fields ⟨frame :: outer, entered, finished⟩)
    (next : frame.pending = source :: pending) (computed : source ∈ fields.map Field.target)
    : Reads fields frame.target source := by
  obtain ⟨⟨front, split, -⟩, -⟩ := h.followed
  refine ⟨computed, frame.field, h.visiting frame (by simp), ?_⟩
  simp [split, next]

/-- Following a source leaves the path on the stack as it is. -/
theorem Sound.path_follow {fields : List Field} {frame : Frame} {outer : List Frame}
    {entered : List String} {finished : List Field}
    (h : Sound fields ⟨frame :: outer, entered, finished⟩) (pending : List String)
    : ({ frame with pending := pending } :: outer).IsChain
        fun inner outer => Reads fields outer.target inner.target := by
  cases outer with
  | nil => exact .singleton _
  | cons below _ =>
      have path := h.path
      simp only [List.isChain_cons_cons] at path ⊢
      exact path

/-- A source that is being visited when it is followed closes a cycle. Witness: the path of the
stack from its frame to the innermost one, and the dependency just followed.
-/
theorem Sound.cycle {fields : List Field} {frame : Frame} {outer : List Frame}
    {entered : List String} {finished : List Field} {source : String} {pending : List String}
    (h : Sound fields ⟨frame :: outer, entered, finished⟩)
    (next : frame.pending = source :: pending)
    (visited : source ∈ (frame :: outer).map Frame.target)
    : TransGen (Reads fields) source source := by
  obtain ⟨same, member, rfl⟩ := List.mem_map.mp visited
  have computed : same.target ∈ fields.map Field.target :=
    isSome_declared?_iff.mp (by simp [h.visiting same member])
  have last := h.reads_pending next computed
  rcases List.mem_cons.mp member with rfl | below
  · exact .single last
  · exact (h.transGen_of_mem below).tail last

/-- A field all of whose sources have been followed may be finished. -/
theorem Sound.finish {fields : List Field} {frame : Frame} {outer : List Frame}
    {entered : List String} {finished : List Field}
    (h : Sound fields ⟨frame :: outer, entered, finished⟩) (done : frame.pending = [])
    : Sound fields ⟨outer, entered, frame.field :: finished⟩ := by
  have counts := h.visiting frame (by simp)
  have named : frame.field.target = frame.target := (declared?_spec counts).2
  obtain ⟨⟨front, split, known⟩, rest⟩ := h.followed
  have reordered : (State.mk outer entered (frame.field :: finished)).reached.Perm
      (State.mk (frame :: outer) entered finished).reached := by
    simp only [State.reached, List.map_cons, named, List.cons_append]
    exact List.perm_middle
  exact {
    visiting := fun other member => h.visiting other (List.mem_cons_of_mem _ member)
    finished := by
      intro field member
      rcases List.mem_cons.mp member with rfl | earlier
      · simpa only [named] using counts
      · exact h.finished field earlier
    once := reordered.nodup_iff.mpr h.once
    entered := fun target => (h.entered target).trans reordered.mem_iff.symm
    path := h.path.tail
    followed := by simpa only [List.map_cons, named] using rest
    sourcesFirst := by
      rw [List.reverse_cons]
      refine h.sourcesFirst.concat fun source ⟨computed, field, found, member⟩ => ?_
      rw [named, counts] at found
      cases found
      rw [split, done, List.append_nil] at member
      simpa using known source member computed
  }

/-- A source may be passed over that the batch does not compute or that is finished. -/
theorem Sound.skip {fields : List Field} {frame : Frame} {outer : List Frame}
    {entered : List String} {finished : List Field} {source : String} {pending : List String}
    (h : Sound fields ⟨frame :: outer, entered, finished⟩)
    (next : frame.pending = source :: pending)
    (settled : source ∈ fields.map Field.target → source ∈ finished.map Field.target)
    : Sound fields ⟨{ frame with pending := pending } :: outer, entered, finished⟩ := by
  obtain ⟨⟨front, split, known⟩, rest⟩ := h.followed
  exact {
    visiting := by
      intro other member
      rcases List.mem_cons.mp member with rfl | below
      · exact h.visiting frame (by simp)
      · exact h.visiting other (List.mem_cons_of_mem _ below)
    finished := h.finished
    once := h.once
    entered := h.entered
    path := h.path_follow pending
    followed := by
      refine ⟨⟨front ++ [source], by simp [split, next], ?_⟩, rest⟩
      intro followed member computed
      rcases List.mem_append.mp member with earlier | now
      · exact known followed earlier computed
      · obtain rfl := List.mem_singleton.mp now
        exact settled computed
    sourcesFirst := h.sourcesFirst
  }

/-- A source may be entered that the batch computes and that has not been entered yet. -/
theorem Sound.enter {fields : List Field} {frame : Frame} {outer : List Frame}
    {entered : List String} {finished : List Field} {source : String} {pending : List String}
    {field : Field} (h : Sound fields ⟨frame :: outer, entered, finished⟩)
    (next : frame.pending = source :: pending) (found : declared? fields source = some field)
    (new : source ∉ entered)
    : Sound fields
        ⟨.enter source field :: { frame with pending := pending } :: outer, source :: entered,
          finished⟩ := by
  have computed : source ∈ fields.map Field.target :=
    isSome_declared?_iff.mp (by simp [found])
  obtain ⟨⟨front, split, known⟩, rest⟩ := h.followed
  have fresh : source ∉ (State.mk (frame :: outer) entered finished).reached :=
    fun old => new ((h.entered source).mpr old)
  exact {
    visiting := by
      intro other member
      rcases List.mem_cons.mp member with rfl | below
      · exact found
      rcases List.mem_cons.mp below with rfl | below
      · exact h.visiting frame (by simp)
      · exact h.visiting other (List.mem_cons_of_mem _ below)
    finished := h.finished
    once := List.nodup_cons.mpr ⟨fresh, h.once⟩
    entered := by
      intro target
      simp only [List.mem_cons, h.entered target]
      simp [State.reached, Frame.enter]
    path := List.isChain_cons_cons.mpr
      ⟨h.reads_pending next computed, h.path_follow pending⟩
    followed := by
      refine ⟨⟨[], rfl, by simp⟩, ⟨front ++ [source], by simp [split, next], ?_⟩, ?_⟩
      · intro followed member visited
        rcases List.mem_append.mp member with earlier | now
        · exact List.mem_cons_of_mem _ (known followed earlier visited)
        · obtain rfl := List.mem_singleton.mp now
          exact List.mem_cons_self
      · exact rest.mono (List.cons_subset_cons _ (List.subset_cons_self _ _))
    sourcesFirst := h.sourcesFirst
  }

-----------------------------------------------------------------------------------------
-- Whole searches
-----------------------------------------------------------------------------------------

/-- A search may end with an error only at a target that depends on itself, and otherwise with a
state of which the given one holds.
-/
def Ends (fields : List Field) (good : State → Prop)
    : Except CircularDependency State → Prop
  | .ok state => good state
  | .error error => TransGen (Reads fields) error.target error.target

theorem Ends.mono {fields : List Field} {good better : State → Prop}
    {result : Except CircularDependency State} (h : Ends fields good result)
    (sub : ∀ state, good state → better state)
    : Ends fields better result := by
  cases result with
  | error error => exact h
  | ok state => exact sub state h

theorem Ends.bind {fields : List Field} {good better : State → Prop}
    {result : Except CircularDependency State} (h : Ends fields good result)
    {next : State → Except CircularDependency State}
    (step : ∀ state, good state → Ends fields better (next state))
    : Ends fields better (result >>= next) := by
  cases result with
  | error error => exact h
  | ok state => exact step state h

/-- The search from a stack empties it and forgets nothing that was entered. Witness: induction
on the run, one kept step at a time.
-/
theorem run_sound {fields : List Field} {state : State} (h : Sound fields state)
    : Ends fields
        (fun final => Sound fields final ∧ final.stack = [] ∧ state.entered ⊆ final.entered)
        (run (batch fields) state) := by
  fun_induction run (batch fields) state with
  | case1 state empty => exact ⟨h, empty, List.Subset.refl _⟩
  | case2 state frame outer stacked done ih =>
      obtain ⟨stack, entered, finished⟩ := state
      subst stacked
      exact ih (h.finish done)
  | case3 state frame outer stacked source pending next here found ih =>
      obtain ⟨stack, entered, finished⟩ := state
      subst stacked
      refine ih (h.skip next fun computed => ?_)
      rw [find?_batch] at found
      simpa [found] using isSome_declared?_iff.mpr computed
  | case4 state frame outer stacked source pending next here field found known visited =>
      obtain ⟨stack, entered, finished⟩ := state
      subst stacked
      replace visited : source ∈ (frame :: outer).map Frame.target := by simpa using visited
      rw [if_pos visited]
      exact h.cycle next visited
  | case5 state frame outer stacked source pending next here field found known left ih =>
      obtain ⟨stack, entered, finished⟩ := state
      subst stacked
      replace left : source ∉ (frame :: outer).map Frame.target := by simpa using left
      rw [if_neg left]
      refine ih (h.skip next fun _ => ?_)
      exact (List.mem_append.mp ((h.entered source).mp known)).resolve_left left
  | case6 state frame outer stacked source pending next here field found new ih =>
      obtain ⟨stack, entered, finished⟩ := state
      subst stacked
      rw [find?_batch] at found
      exact (ih (h.enter next found new)).mono fun final ⟨sound, empty, kept⟩ =>
        ⟨sound, empty, fun _ old => kept (List.mem_cons_of_mem _ old)⟩

/-- A search may start at a field that has not been entered. -/
theorem Sound.start {fields : List Field} {entered : List String} {finished : List Field}
    {target : String} {field : Field} (h : Sound fields ⟨[], entered, finished⟩)
    (found : declared? fields target = some field) (new : target ∉ entered)
    : Sound fields ⟨[.enter target field], target :: entered, finished⟩ where
  visiting := by
    intro frame member
    obtain rfl := List.mem_singleton.mp member
    exact found
  finished := h.finished
  once := List.nodup_cons.mpr ⟨fun old => new ((h.entered target).mpr old), h.once⟩
  entered := by
    intro other
    simp only [List.mem_cons, h.entered other]
    simp [State.reached, Frame.enter]
  path := .singleton _
  followed := ⟨⟨[], rfl, by simp⟩, trivial⟩
  sourcesFirst := h.sourcesFirst

/-- Going through a list of fields enters them all and leaves an empty stack. Witness: induction
on the list; every search starts from an empty stack and empties its own.
-/
theorem visitAll_sound {fields : List Field} (rest : List Field) {state : State}
    (h : Sound fields state) (idle : state.stack = []) (sub : rest ⊆ fields)
    : Ends fields
        (fun final =>
          Sound fields final ∧ final.stack = [] ∧ state.entered ⊆ final.entered
          ∧ ∀ field ∈ rest, field.target ∈ final.entered)
        (visitAll (batch fields) rest state) := by
  induction rest generalizing state with
  | nil => exact ⟨h, idle, List.Subset.refl _, by simp⟩
  | cons field rest ih =>
      have member : field ∈ fields := sub List.mem_cons_self
      replace sub : rest ⊆ fields := fun _ later => sub (List.mem_cons_of_mem _ later)
      by_cases known : field.target ∈ state.entered
      · rw [visitAll, if_pos known]
        exact (ih h idle sub).mono fun final ⟨sound, empty, kept, all⟩ =>
          ⟨sound, empty, kept, List.forall_mem_cons.mpr ⟨kept known, all⟩⟩
      · obtain ⟨root, found⟩ := Option.isSome_iff_exists.mp
          (isSome_declared?_iff.mpr (List.mem_map_of_mem member))
        obtain ⟨stack, entered, finished⟩ := state
        subst idle
        simp only [visitAll, if_neg known, find?_batch, found]
        refine (run_sound (h.start found known)).bind fun middle ⟨sound, empty, kept⟩ => ?_
        refine (ih sound empty sub).mono fun final ⟨sound, empty, further, all⟩ => ?_
        refine ⟨sound, empty, ?_, List.forall_mem_cons.mpr ⟨?_, all⟩⟩
        · exact fun _ old => further (kept (List.mem_cons_of_mem _ old))
        · exact further (kept List.mem_cons_self)

end Search

-----------------------------------------------------------------------------------------
-- The order of a batch
-----------------------------------------------------------------------------------------

theorem Search.sound_initial (fields : List Field) : Search.Sound fields ⟨[], [], []⟩ where
  visiting := by simp
  finished := by simp
  once := .nil
  entered := by simp [Search.State.reached]
  path := .nil
  followed := trivial
  sourcesFirst := sourcesFirst_nil fields

/-- What the search finishes is an order of the batch. -/
theorem isDependencyOrder_of_order {fields ordered : List Field} (h : order fields = .ok ordered)
    : IsDependencyOrder fields ordered := by
  have ends := Search.visitAll_sound fields (Search.sound_initial fields) rfl
    (List.Subset.refl fields)
  unfold order at h
  cases visited : Search.visitAll (batch fields) fields ⟨[], [], []⟩ with
  | error error => simp [visited, bind, Except.bind] at h
  | ok final =>
      obtain ⟨stack, entered, finished⟩ := final
      rw [visited] at ends
      obtain ⟨sound, rfl, -, all⟩ := ends
      obtain rfl : finished.reverse = ordered := by
        simpa [visited, bind, Except.bind, pure, Except.pure] using h
      have reached (target : String)
          : target ∈ entered ↔ target ∈ finished.map Field.target := by
        simpa [Search.State.reached] using sound.entered target
      exact {
        once := by
          rw [List.map_reverse, List.nodup_reverse]
          simpa [Search.State.reached] using sound.once
        complete := by
          intro target
          rw [List.map_reverse, List.mem_reverse]
          constructor
          · intro done
            obtain ⟨field, member, rfl⟩ := List.mem_map.mp done
            exact isSome_declared?_iff.mp (by rw [sound.finished field member]; rfl)
          · intro computed
            obtain ⟨field, member, rfl⟩ := List.mem_map.mp computed
            exact (reached _).mp (all field member)
        declared := fun field member => sound.finished field (List.mem_reverse.mp member)
        sourcesFirst := sound.sourcesFirst
      }

/-- The search fails only at a target that depends on itself. -/
theorem transGen_of_order_error {fields : List Field} {error : CircularDependency}
    (h : order fields = .error error)
    : TransGen (Reads fields) error.target error.target := by
  have ends := Search.visitAll_sound fields (Search.sound_initial fields) rfl
    (List.Subset.refl fields)
  unfold order at h
  cases visited : Search.visitAll (batch fields) fields ⟨[], [], []⟩ with
  | error found =>
      rw [visited] at ends
      obtain rfl : found = error := by simpa [visited, bind, Except.bind] using h
      exact ends
  | ok final => simp [visited, bind, Except.bind, pure, Except.pure] at h

/-- A batch can be ordered if no field depends on itself. -/
theorem Acyclic.order_ok {fields : List Field} (h : Acyclic fields)
    : ∃ ordered, order fields = .ok ordered := by
  cases result : order fields with
  | ok ordered => exact ⟨ordered, rfl⟩
  | error error => exact (h _ (transGen_of_order_error result)).elim

/-- The order of a batch exists exactly when no field of it depends on itself. Then it holds the
last declared field of every target, once, after all fields of the batch that it depends on; and
otherwise the error names a target of the batch that depends on itself.
-/
theorem order_exact (fields : List Field)
    : ((∃ ordered, order fields = .ok ordered) ↔ Acyclic fields)
      ∧ match order fields with
        | .ok ordered => IsDependencyOrder fields ordered
        | .error error =>
            error.target ∈ fields.map Field.target
            ∧ TransGen (Reads fields) error.target error.target := by
  refine ⟨⟨?_, Acyclic.order_ok⟩, ?_⟩
  · rintro ⟨ordered, ordering⟩
    exact (isDependencyOrder_of_order ordering).acyclic
  · cases result : order fields with
    | ok ordered => exact isDependencyOrder_of_order result
    | error error =>
        have cycle := transGen_of_order_error result
        obtain ⟨source, reads, _⟩ := Relation.TransGen.head'_iff.mp cycle
        exact ⟨reads.source_mem, cycle⟩

end FormWizard.Computed
