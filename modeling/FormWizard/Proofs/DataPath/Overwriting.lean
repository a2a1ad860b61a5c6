import FormWizard.Proofs.DataPath.Limits

/-! Writing where something can be read. A reader takes a key that spells an index for that index, a
write does not: so what can be read can be written, unless a key of the path names an item of an
array.
-/

namespace FormWizard.DataPath

/-- Some key of the path is followed where the segments before it lead to an array. -/
def NamesItem (data : Json) (path : DataPath) : Prop :=
  ∃ front name rest items,
    path = front ++ .key name :: rest ∧ get? data front = some (.array items)

theorem not_namesItem_nil (value : Json) : ¬NamesItem value [] := by
  rintro ⟨front, name, rest, items, split, -⟩
  simp at split

/-- Where the first segment leads somewhere, a path names an item with it or behind it. -/
theorem namesItem_cons_iff {value inner : Json} {segment : Segment} {rest : DataPath}
    (child : child? value segment = some inner)
    : NamesItem value (segment :: rest)
      ↔ (∃ name items, segment = .key name ∧ value = .array items) ∨ NamesItem inner rest := by
  constructor
  · rintro ⟨front, name, back, items, split, found⟩
    cases front with
    | nil =>
        obtain ⟨rfl, rfl⟩ := List.cons.inj split
        exact .inl ⟨name, items, rfl, Option.some.inj found⟩
    | cons first front =>
        obtain ⟨rfl, rfl⟩ := List.cons.inj split
        rw [get?, child, Option.bind_some] at found
        exact .inr ⟨front, name, back, items, rfl, found⟩
  · rintro (⟨name, items, rfl, rfl⟩ | ⟨front, name, back, items, rfl, found⟩)
    · exact ⟨[], name, rest, items, rfl, rfl⟩
    · refine ⟨segment :: front, name, back, items, rfl, ?_⟩
      rw [get?, child, Option.bind_some, found]

/-- No write goes through a key that names an item. -/
theorem NamesItem.blocked {data : Json} {path : DataPath} (h : NamesItem data path)
    : Blocked data path := by
  obtain ⟨front, name, rest, items, rfl, found⟩ := h
  exact ⟨front, .key name, rest, .array items, rfl, found, by simp, by simp⟩

/-- A path that leads somewhere leads through arrays that are long enough. -/
theorem not_overreaches_of_get? {data old : Json} {path : DataPath}
    (found : get? data path = some old)
    : ¬Overreaches data path := by
  rintro ⟨front, position, rest, rfl, far⟩
  rw [get?_append] at found
  obtain ⟨value, front, found⟩ := Option.bind_eq_some_iff.mp found
  obtain ⟨inner, child, -⟩ := Option.bind_eq_some_iff.mp found
  cases value with
  | array items =>
      obtain ⟨inside, -⟩ := List.getElem?_eq_some_iff.mp child
      rw [lengthAt, front, maxGrowth] at far
      dsimp only at far
      omega
  | null | bool _ | number _ | string _ | object _ => cases child

/-- Where a segment leads somewhere and names no item, a write goes on there. -/
theorem put_cons_of_child? {value inner : Json} {segment : Segment}
    (child : child? value segment = some inner)
    (unnamed : ¬∃ name items, segment = .key name ∧ value = .array items) (new : Json)
    (rest : DataPath)
    : ∃ changed : Json → Json,
        put new (segment :: rest) value = (put new rest inner).map changed := by
  cases segment with
  | key name =>
      cases value with
      | object members =>
          have member : Table.find? name members = some inner := child
          refine ⟨fun inner => .object (Table.insert name inner members), ?_⟩
          rw [@put_key (.object members) members rfl, member, Option.getD_some]
      | array items => exact (unnamed ⟨name, items, rfl, rfl⟩).elim
      | null | bool _ | number _ | string _ => cases child
  | index position =>
      cases value with
      | array items =>
          have item : items[position]? = some inner := child
          refine ⟨fun inner => .array (setItem items position inner), ?_⟩
          rw [@put_index (.array items) items rfl, item, Option.getD_some]
      | null | bool _ | number _ | string _ | object _ => cases child

/-- Along a path that leads somewhere a value is put, unless a key names an item. -/
theorem put_ok_of_get? {value old : Json} {path : DataPath} (found : get? value path = some old)
    (unnamed : ¬NamesItem value path) (new : Json)
    : ∃ result, put new path value = .ok result := by
  induction path generalizing value with
  | nil => exact ⟨new, rfl⟩
  | cons segment rest ih =>
      obtain ⟨inner, child, below⟩ := Option.bind_eq_some_iff.mp found
      rw [namesItem_cons_iff child, not_or] at unnamed
      obtain ⟨changed, step⟩ := put_cons_of_child? child unnamed.1 new rest
      obtain ⟨result, done⟩ := ih below unnamed.2
      exact ⟨changed result, by rw [step, done]; rfl⟩

/-- A write is stopped by the first key that names an item. Witness: induction on the path. -/
theorem put_error_of_namesItem {value old : Json} {path : DataPath}
    (found : get? value path = some old) (named : NamesItem value path) (new : Json)
    : ∃ front name rest items, path = front ++ .key name :: rest
        ∧ get? value front = some (.array items) ∧ ¬NamesItem value front
        ∧ put new path value = .error name := by
  induction path generalizing value with
  | nil => exact (not_namesItem_nil value named).elim
  | cons segment rest ih =>
      obtain ⟨inner, child, below⟩ := Option.bind_eq_some_iff.mp found
      by_cases here : ∃ name items, segment = .key name ∧ value = .array items
      · obtain ⟨name, items, rfl, rfl⟩ := here
        exact ⟨[], name, rest, items, rfl, rfl, not_namesItem_nil _, rfl⟩
      · have later := ((namesItem_cons_iff child).mp named).resolve_left here
        obtain ⟨changed, step⟩ := put_cons_of_child? child here new rest
        obtain ⟨front, name, back, items, rfl, leads, first, failed⟩ := ih below later
        refine ⟨segment :: front, name, back, items, rfl, ?_, ?_, ?_⟩
        · rw [get?, child, Option.bind_some, leads]
        · rw [namesItem_cons_iff child, not_or]
          exact ⟨here, first⟩
        · rw [step, failed]
          rfl

/-- Where something is read, a value can be written and is read afterwards, exactly if no key of the
path names an item of an array. Otherwise the write fails at the first key that does.
-/
theorem write_where_read {data old : Json} {path : String} (found : lookUp? data path = some old)
    (nonempty : ofText path ≠ []) (new : Json)
    : (¬NamesItem data (ofText path) →
        ∃ result, write data (ofText path) new = .ok result ∧ lookUp? result path = some new)
      ∧ (NamesItem data (ofText path) →
        ∃ front name rest items, ofText path = front ++ .key name :: rest
          ∧ get? data front = some (.array items) ∧ ¬NamesItem data front
          ∧ write data (ofText path) new = .error (.conflict (normalize path) name)) := by
  have reached : overreach? (some data) (ofText path) = none :=
    overreach?_eq_none_iff.mpr (not_overreaches_of_get? found)
  constructor
  · intro unnamed
    obtain ⟨result, done⟩ := put_ok_of_get? found unnamed new
    exact ⟨result, write_eq_ok nonempty reached done, get?_put_self done⟩
  · intro named
    obtain ⟨front, name, rest, items, split, leads, first, failed⟩ :=
      put_error_of_namesItem found named new
    refine ⟨front, name, rest, items, split, leads, first, ?_⟩
    rw [write_of_reached nonempty reached, failed]
    rfl

/-- An order with one line, which has a quantity. -/
def singleLine (quantity : Int) : Json :=
  .object [("lines", .array [.object [("qty", .ofInt quantity)]])]

/-- By its index the line is read and written, by a key that spells it only read. -/
theorem write_where_read_lines
    : lookUp? (singleLine 1) "$.lines[0].qty" = some (.ofInt 1)
      ∧ (∃ result, write (singleLine 1) (ofText "$.lines[0].qty") (.ofInt 2) = .ok result
        ∧ lookUp? result "$.lines[0].qty" = some (.ofInt 2))
      ∧ lookUp? (singleLine 1) "$.lines.0.qty" = some (.ofInt 1)
      ∧ ∃ name, write (singleLine 1) (ofText "$.lines.0.qty") (.ofInt 2)
        = .error (.conflict (normalize "$.lines.0.qty") name) := by
  have byIndex : lookUp? (singleLine 1) "$.lines[0].qty" = some (.ofInt 1) := by decide
  have byKey : lookUp? (singleLine 1) "$.lines.0.qty" = some (.ofInt 1) := by decide
  have segments : ofText "$.lines[0].qty" = [.key "lines", .index 0, .key "qty"] := by decide
  have unnamed : ¬NamesItem (singleLine 1) (ofText "$.lines[0].qty") := by
    intro named
    obtain ⟨segment, stopped⟩ := (@put_error_iff .null _ _).mpr named.blocked
    rw [segments] at stopped
    cases stopped
  have named : NamesItem (singleLine 1) (ofText "$.lines.0.qty") :=
    ⟨[.key "lines"], "0", [.key "qty"], _, by decide, rfl⟩
  obtain ⟨front, name, rest, items, -, -, -, failed⟩ :=
    (write_where_read byKey (by decide) (.ofInt 2)).2 named
  exact ⟨byIndex, (write_where_read byIndex (by decide) (.ofInt 2)).1 unnamed, byKey, name, failed⟩

/-- The first item of an array is read by a key, and cannot be written by it. -/
theorem not_write_where_read_items
    : lookUp? (.object [("items", .array [.ofInt 1])]) "$.items.0" = some (.ofInt 1)
      ∧ ofText "$.items.0" ≠ []
      ∧ write (.object [("items", .array [.ofInt 1])]) (ofText "$.items.0") (.ofInt 2)
        = .error (.conflict "$.items.0" "0") := by
  decide

end FormWizard.DataPath
