import FormWizard.Proofs.DataPath.InPlace

/-! When a write fails, and how far it lets arrays grow. Whether it fails can be told from the data
beforehand, by following the segments of the path as a reader does.
-/

namespace FormWizard.DataPath

-----------------------------------------------------------------------------------------
-- Paths that reach too far
-----------------------------------------------------------------------------------------

/-- The length of the array at a path, where there is one. -/
def lengthAt (data : Json) (path : DataPath) : Nat :=
  match get? data path with
  | some (.array items) => items.length
  | _ => 0

/-- Some index of the path lies too far past the end of the array that the segments before it lead
to.
-/
def Overreaches (data : Json) (path : DataPath) : Prop :=
  ∃ front position rest,
    path = front ++ .index position :: rest ∧ maxGrowth ≤ position - lengthAt data front

/-- What a segment leads to; where it leads nowhere, the null that a write puts there. -/
def entered (value : Json) (segment : Segment) : Json :=
  (child? value segment).getD .null

theorem lengthAt_null (path : DataPath) : lengthAt .null path = 0 := by
  cases path with
  | nil => rfl
  | cons segment rest => rw [lengthAt, get?_null (by simp)]

theorem lengthAt_cons (value : Json) (segment : Segment) (rest : DataPath)
    : lengthAt value (segment :: rest) = lengthAt (entered value segment) rest := by
  rw [entered]
  cases found : child? value segment with
  | none => rw [Option.getD_none, lengthAt_null, lengthAt, get?, found]; rfl
  | some inner => rw [Option.getD_some, lengthAt, get?, found]; rfl

theorem not_overreaches_nil (value : Json) : ¬Overreaches value [] := by
  rintro ⟨front, position, rest, split, -⟩
  simp at split

/-- A path reaches too far with its first segment or with a later one. -/
theorem overreaches_cons_iff {value : Json} {segment : Segment} {rest : DataPath}
    : Overreaches value (segment :: rest)
      ↔ (∃ position, segment = .index position ∧ maxGrowth ≤ position - lengthAt value [])
        ∨ Overreaches (entered value segment) rest := by
  constructor
  · rintro ⟨front, position, back, split, far⟩
    cases front with
    | nil =>
        obtain ⟨rfl, rfl⟩ := List.cons.inj split
        exact .inl ⟨position, rfl, far⟩
    | cons first front =>
        obtain ⟨rfl, rfl⟩ := List.cons.inj split
        exact .inr ⟨front, position, back, rfl, lengthAt_cons value segment front ▸ far⟩
  · rintro (⟨position, rfl, far⟩ | ⟨front, position, back, rfl, far⟩)
    · exact ⟨[], position, rest, rfl, far⟩
    · exact ⟨segment :: front, position, back, rfl, (lengthAt_cons value segment front).symm ▸ far⟩

/-- A place that is missing counts as a null. -/
theorem overreach?_none (path : DataPath)
    : overreach? none path = overreach? (some .null) path := by
  cases path with
  | nil => rfl
  | cons segment rest => cases segment <;> rfl

theorem overreach?_child? (value : Json) (segment : Segment) (rest : DataPath)
    : overreach? (child? value segment) rest = overreach? (some (entered value segment)) rest := by
  rw [entered]
  cases child? value segment with
  | none => exact overreach?_none rest
  | some inner => rfl

theorem overreach?_key (value : Json) (name : String) (rest : DataPath)
    : overreach? (some value) (.key name :: rest)
      = overreach? (some (entered value (.key name))) rest :=
  overreach?_child? value (.key name) rest

theorem overreach?_index (value : Json) (position : Nat) (rest : DataPath)
    : overreach? (some value) (.index position :: rest)
      = if maxGrowth ≤ position - lengthAt value [] then some (position, lengthAt value [])
        else overreach? (some (entered value (.index position))) rest := by
  have length : ((value.array?).getD []).length = lengthAt value [] := by cases value <;> rfl
  rw [overreach?, Option.bind_some, Option.bind_some, length, overreach?_child?]

/-- The search for an index that lies too far out finds one where there is one. -/
theorem overreach?_eq_none_iff {value : Json} {path : DataPath}
    : overreach? (some value) path = none ↔ ¬Overreaches value path := by
  induction path generalizing value with
  | nil => simp [overreach?, not_overreaches_nil]
  | cons segment rest ih =>
      rw [overreaches_cons_iff]
      cases segment with
      | key name => simp [overreach?_key, ih]
      | index position =>
          rw [overreach?_index]
          split
          · rename_i far
            simp [far]
          · rename_i near
            simp [near, ih]

-----------------------------------------------------------------------------------------
-- Paths that are blocked
-----------------------------------------------------------------------------------------

/-- The value is neither null nor the container that the segment needs. -/
def Blocks (value : Json) : Segment → Prop
  | .key _ => value ≠ .null ∧ ∀ members, value ≠ .object members
  | .index _ => value ≠ .null ∧ ∀ items, value ≠ .array items

/-- Following the path leads to a value that blocks the next segment. -/
def Blocked (data : Json) (path : DataPath) : Prop :=
  ∃ front segment rest value,
    path = front ++ segment :: rest ∧ get? data front = some value ∧ Blocks value segment

theorem blocks_key_iff {value : Json} {name : String}
    : Blocks value (.key name) ↔ membersOf value = none := by
  cases value <;> simp [Blocks, membersOf]

theorem blocks_index_iff {value : Json} {position : Nat}
    : Blocks value (.index position) ↔ itemsOf value = none := by
  cases value <;> simp [Blocks, itemsOf]

theorem not_blocked_nil (value : Json) : ¬Blocked value [] := by
  rintro ⟨front, segment, rest, _, split, -⟩
  simp at split

/-- Nothing blocks a path inside of a null. -/
theorem not_blocked_null (path : DataPath) : ¬Blocked .null path := by
  rintro ⟨front, segment, rest, value, -, found, blocks⟩
  cases front with
  | nil =>
      cases found
      cases segment <;> exact blocks.1 rfl
  | cons first front =>
      rw [get?_null (by simp)] at found
      cases found

/-- A path is blocked at its first segment or at a later one. -/
theorem blocked_cons_iff {value : Json} {segment : Segment} {rest : DataPath}
    : Blocked value (segment :: rest)
      ↔ Blocks value segment ∨ Blocked (entered value segment) rest := by
  rw [entered]
  constructor
  · rintro ⟨front, step, back, blocking, split, found, blocks⟩
    cases front with
    | nil =>
        obtain ⟨rfl, rfl⟩ := List.cons.inj split
        cases found
        exact .inl blocks
    | cons first front =>
        obtain ⟨rfl, rfl⟩ := List.cons.inj split
        obtain ⟨inner, child, below⟩ := Option.bind_eq_some_iff.mp found
        rw [child]
        exact .inr ⟨front, step, back, blocking, rfl, below, blocks⟩
  · rintro (blocks | blocked)
    · exact ⟨[], segment, rest, value, rfl, rfl, blocks⟩
    · cases child : child? value segment with
      | none =>
          rw [child] at blocked
          exact (not_blocked_null rest blocked).elim
      | some inner =>
          rw [child] at blocked
          obtain ⟨front, step, back, blocking, rfl, found, blocks⟩ := blocked
          exact ⟨segment :: front, step, back, blocking, rfl,
            Option.bind_eq_some_iff.mpr ⟨inner, child, found⟩, blocks⟩

theorem map_error_iff {α β ε : Type} {outcome : Except ε α} {f : α → β}
    : (∃ error, outcome.map f = .error error) ↔ ∃ error, outcome = .error error := by
  cases outcome <;> simp [Except.map]

/-- A value cannot be put at a path exactly if the path is blocked. -/
theorem put_error_iff {new value : Json} {path : DataPath}
    : (∃ segment, put new path value = .error segment) ↔ Blocked value path := by
  induction path generalizing value with
  | nil => simp [put, not_blocked_nil]
  | cons segment rest ih =>
      rw [blocked_cons_iff, ← ih]
      cases segment with
      | key name =>
          rw [blocks_key_iff]
          cases opened : membersOf value with
          | none => simp [put_key_of_none opened]
          | some members =>
              rw [put_key opened, map_error_iff, entered, child?_key_of_membersOf opened]
              simp
      | index position =>
          rw [blocks_index_iff]
          cases opened : itemsOf value with
          | none => simp [put_index_of_none opened]
          | some items =>
              rw [put_index opened, map_error_iff, entered, child?_index_of_itemsOf opened]
              simp

-----------------------------------------------------------------------------------------
-- Arrays that grow
-----------------------------------------------------------------------------------------

/-- The part of a value at an address. Here keys lead into objects only and indexes into arrays
only, so every part has one address.
-/
def part? (value : Json) : DataPath → Option Json
  | [] => some value
  | .key name :: rest => (value.object?.bind (Table.find? name)).bind fun inner => part? inner rest
  | .index position :: rest =>
    (value.array?.bind fun items => items[position]?).bind fun inner => part? inner rest

/-- The array at an address. -/
def arrayAt? (value : Json) (address : DataPath) : Option (List Json) :=
  (part? value address).bind Json.array?

/-- An array that was there is still there and has lost no item, and one that is there has at most
as many new items as a write may add; all of them are new if there was no array before.
-/
structure Grown (before after : Option (List Json)) : Prop where
  kept : ∀ items, before = some items → ∃ grown, after = some grown ∧ items.length ≤ grown.length
  bounded : ∀ grown, after = some grown → grown.length ≤ (before.getD []).length + maxGrowth

theorem Grown.refl (array? : Option (List Json)) : Grown array? array? where
  kept := fun items found => ⟨items, found, Nat.le_refl _⟩
  bounded := fun grown found => by
    rw [found]
    exact Nat.le_add_right _ _

theorem length_setItem (items : List Json) (position : Nat) (new : Json)
    : (setItem items position new).length = max items.length (position + 1) := by
  rw [setItem, List.length_set, List.length_append, List.length_replicate]
  omega

theorem arrayAt?_null (address : DataPath) : arrayAt? .null address = none := by
  cases address with
  | nil => rfl
  | cons segment rest => cases segment <;> rfl

theorem arrayAt?_getD (inner : Option Json) (address : DataPath)
    : arrayAt? (inner.getD .null) address = inner.bind fun value => arrayAt? value address := by
  cases inner with
  | none => exact arrayAt?_null address
  | some value => rfl

theorem arrayAt?_key {value : Json} {members : Table Json} (h : membersOf value = some members)
    (name : String) (rest : DataPath)
    : arrayAt? value (.key name :: rest)
      = (Table.find? name members).bind fun inner => arrayAt? inner rest := by
  cases value <;> cases h
  · rfl
  · exact Option.bind_assoc _ _ _

theorem arrayAt?_index {value : Json} {items : List Json} (h : itemsOf value = some items)
    (position : Nat) (rest : DataPath)
    : arrayAt? value (.index position :: rest)
      = (items[position]?).bind fun inner => arrayAt? inner rest := by
  cases value <;> cases h
  · rfl
  · exact Option.bind_assoc _ _ _

/-- Setting an item that does not lie too far out lets its array grow, or makes one. -/
theorem grown_setItem {value : Json} {items : List Json} (h : itemsOf value = some items)
    {position : Nat} (near : position - lengthAt value [] < maxGrowth) (new : Json)
    : Grown (arrayAt? value []) (some (setItem items position new)) := by
  have length := length_setItem items position new
  cases value with
  | null =>
      cases h
      refine ⟨fun _ found => (by cases found), fun grown found => ?_⟩
      obtain rfl := Option.some.inj found
      change position - 0 < maxGrowth at near
      change _ ≤ 0 + maxGrowth
      rw [length, List.length_nil]
      omega
  | array _ =>
      cases h
      change position - items.length < maxGrowth at near
      refine ⟨fun old found => ?_, fun grown found => ?_⟩
      · obtain rfl : items = old := Option.some.inj found
        exact ⟨_, rfl, by omega⟩
      · obtain rfl := Option.some.inj found
        change _ ≤ items.length + maxGrowth
        omega
  | bool _ | number _ | string _ | object _ => cases h

/-- Putting a value at a path that does not reach too far lets the arrays outside of that value
grow by no more than a write may add. Witness: induction on the path; only the arrays that it
leads through are touched, and the length of each is the one that was looked at beforehand.
-/
theorem grown_of_put {new value result : Json} {path address : DataPath}
    (h : put new path value = .ok result) (reached : ¬Overreaches value path)
    (outside : ¬path <+: address)
    : Grown (arrayAt? value address) (arrayAt? result address) := by
  induction path generalizing value result address with
  | nil => exact (outside List.nil_prefix).elim
  | cons segment rest ih =>
      rw [overreaches_cons_iff, not_or] at reached
      obtain ⟨near, reached⟩ := reached
      cases segment with
      | key name =>
          obtain ⟨members, inner, opened, below, rfl⟩ := put_key_ok_iff.mp h
          rw [entered, child?_key_of_membersOf opened] at reached
          cases address with
          | nil => cases value <;> cases opened <;> exact .refl none
          | cons step back =>
              cases step with
              | index position => cases value <;> cases opened <;> exact .refl none
              | key other =>
                  rw [arrayAt?_key opened, arrayAt?_key rfl]
                  by_cases same : other = name
                  · subst same
                    rw [Table.find?_insert_self, ← arrayAt?_getD]
                    exact ih below reached (by simpa using outside)
                  · rw [Table.find?_insert_of_ne same]
                    exact .refl _
      | index position =>
          obtain ⟨items, inner, opened, below, rfl⟩ := put_index_ok_iff.mp h
          rw [entered, child?_index_of_itemsOf opened] at reached
          cases address with
          | nil =>
              exact grown_setItem opened
                (Nat.lt_of_not_le fun far => near ⟨position, rfl, far⟩) inner
          | cons step back =>
              cases step with
              | key name => cases value <;> cases opened <;> exact .refl none
              | index other =>
                  rw [arrayAt?_index opened, arrayAt?_index rfl]
                  by_cases same : other = position
                  · subst same
                    rw [getElem?_setItem, if_pos rfl, ← arrayAt?_getD]
                    exact ih below reached (by simpa using outside)
                  -- A null that pads the array holds no array.
                  · rw [getElem?_setItem, if_neg same]
                    split
                    · rw [Option.bind_some, arrayAt?_getD]
                      exact .refl _
                    · exact .refl _

-----------------------------------------------------------------------------------------
-- Writes
-----------------------------------------------------------------------------------------

theorem write_error_empty_iff {data new : Json} {path : DataPath}
    : write data path new = .error .empty ↔ path = [] := by
  constructor
  · intro h
    by_contra nonempty
    cases reached : overreach? (some data) path with
    | some found => simp [write_of_overreach reached] at h
    | none =>
        rw [write_of_reached nonempty reached] at h
        cases done : put new path data <;> simp [done, Except.mapError] at h
  · rintro rfl
    rfl

theorem write_error_indexOutOfRange_iff {data new : Json} {path : DataPath}
    : (∃ index length, write data path new = .error (.indexOutOfRange (text path) index length))
      ↔ Overreaches data path := by
  cases reached : overreach? (some data) path with
  | some found =>
      have far : Overreaches data path := by
        by_contra near
        rw [overreach?_eq_none_iff.mpr near] at reached
        cases reached
      exact iff_of_true ⟨_, _, write_of_overreach reached new⟩ far
  | none =>
      refine iff_of_false ?_ (overreach?_eq_none_iff.mp reached)
      rintro ⟨index, length, h⟩
      by_cases nonempty : path = []
      · subst nonempty
        cases h
      · rw [write_of_reached nonempty reached] at h
        cases done : put new path data <;> simp [done, Except.mapError] at h

theorem write_error_conflict_iff {data new : Json} {path : DataPath} (nonempty : path ≠ [])
    (near : ¬Overreaches data path)
    : (∃ segment, write data path new = .error (.conflict (text path) segment))
      ↔ Blocked data path := by
  rw [write_of_reached nonempty (overreach?_eq_none_iff.mpr near), ← @put_error_iff new]
  cases put new path data <;> simp [Except.mapError]

/-- A write is all or nothing, and bounded. In place it leaves the data as they were if it fails,
and otherwise what it gives. Which of these comes true can be told from the path and the data: it
fails without a path, else if an index of the path lies too far out, else if the path is blocked,
and else it succeeds. Arrays outside of the written value then grow by no more than a write may
add, and those that were not there before have no more items than that.
-/
theorem write_all_or_nothing (data : Json) (path : DataPath) (new : Json)
    : (∀ error, write data path new = .error error →
        writeInPlace data path new = (.error error, data))
      ∧ (∀ result, write data path new = .ok result →
        (writeInPlace data path new).1 = .ok ()
        ∧ (data.IsOrdered → (writeInPlace data path new).2 = result)
        ∧ ∀ address, ¬path <+: address →
          Grown (arrayAt? data address) (arrayAt? result address))
      ∧ (write data path new = .error .empty ↔ path = [])
      ∧ (path ≠ [] →
        ((∃ index length,
            write data path new = .error (.indexOutOfRange (text path) index length))
          ↔ Overreaches data path)
        ∧ (¬Overreaches data path →
          ((∃ segment, write data path new = .error (.conflict (text path) segment))
            ↔ Blocked data path)
          ∧ (¬Blocked data path → ∃ result, write data path new = .ok result))) := by
  refine ⟨fun error failed => writeInPlace_of_error failed, ?_, write_error_empty_iff, ?_⟩
  · intro result written
    obtain ⟨done, after⟩ := writeInPlace_of_ok written
    have near := overreach?_eq_none_iff.mp (reached_of_write written).2
    exact ⟨done, after, fun address => grown_of_put (put_of_write written) near⟩
  · intro nonempty
    refine ⟨write_error_indexOutOfRange_iff, fun near => ?_⟩
    refine ⟨write_error_conflict_iff nonempty near, fun free => ?_⟩
    cases done : put new path data with
    | ok result =>
        exact ⟨result, write_eq_ok nonempty (overreach?_eq_none_iff.mpr near) done⟩
    | error segment => exact (free (put_error_iff.mp ⟨segment, done⟩)).elim

/-- Of two writes into one array the first pads it, and the second is stopped by its only item. -/
theorem write_all_or_nothing_lines
    : let order : Json := .object [("lines", .array [.ofInt 1])]
      let third : DataPath := [.key "lines", .index 2, .key "qty"]
      let filled : Json :=
        .object [("lines", .array [.ofInt 1, .null, .object [("qty", .ofInt 3)]])]
      order.IsOrdered
      ∧ write order third (.ofInt 3) = .ok filled
      ∧ (writeInPlace order third (.ofInt 3)).2 = filled
      ∧ Grown (arrayAt? order [.key "lines"]) (arrayAt? filled [.key "lines"])
      ∧ ¬Overreaches order third
      ∧ ¬Blocked order third
      ∧ (∃ result, write order third (.ofInt 4) = .ok result)
      ∧ writeInPlace order [.key "lines", .index 0, .key "qty"] (.ofInt 3)
        = (.error (.conflict "$.lines[0].qty" "qty"), order) := by
  intro order third filled
  have ordered : order.IsOrdered :=
    .object (List.pairwise_singleton _ _) (by
      simpa using .array (by simpa using .number (.whole 1)))
  have written : write order third (.ofInt 3) = .ok filled := rfl
  have near : ¬Overreaches order third := overreach?_eq_none_iff.mp rfl
  have free : ¬Blocked order third := fun blocked => by
    obtain ⟨segment, stopped⟩ := (@put_error_iff .null _ _).mpr blocked
    cases stopped
  have outcome := (write_all_or_nothing order third (.ofInt 3)).2.1 filled written
  have conditions := (write_all_or_nothing order third (.ofInt 4)).2.2.2 (by simp [third])
  refine ⟨ordered, written, outcome.2.1 ordered, outcome.2.2 _ (by decide), near, free,
    (conditions.2 near).2 free, ?_⟩
  exact (write_all_or_nothing order _ (.ofInt 3)).1 _ rfl

end FormWizard.DataPath
