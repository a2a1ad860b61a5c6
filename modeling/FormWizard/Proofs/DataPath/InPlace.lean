import FormWizard.DataPath.InPlace
import FormWizard.Proofs.DataPath.Lens

/-! Writing in place comes to the same as writing. Once a null has been opened or a place has been
made nothing can stop the write any more, so a write that fails has changed nothing.
-/

namespace FormWizard

namespace Table

variable {α : Type}

/-- Putting back the value that is found changes nothing. -/
theorem replace_of_find? {key : String} {value : α} {table : Table α}
    (h : find? key table = some value)
    : replace key value table = table := by
  induction table with
  | nil => rfl
  | cons entry rest ih =>
      obtain ⟨name, old⟩ := entry
      rw [find?] at h
      split at h
      · rename_i same
        cases h
        rw [replace, if_pos same]
      · rename_i different
        rw [replace, if_neg different, ih h]

/-- Of two values under one key, the first one put there and the second one in its place, the first
leaves no trace.
-/
theorem replace_insert_self (key : String) (first second : α) (table : Table α)
    : replace key second (insert key first table) = insert key second table := by
  induction table with
  | nil => simp [insert, replace]
  | cons entry rest ih =>
      obtain ⟨name, old⟩ := entry
      by_cases same : key = name
      · simp [insert, replace, same]
      · by_cases before : key < name <;> simp [insert, replace, same, before, ih]

/-- In a table in order, a value put under a key that is there takes the place of the old one. -/
theorem replace_eq_insert {key : String} {old : α} {table : Table α}
    (sorted : table.keys.Pairwise (· < ·)) (h : find? key table = some old) (value : α)
    : replace key value table = insert key value table := by
  induction table with
  | nil => cases h
  | cons entry rest ih =>
      obtain ⟨name, other⟩ := entry
      obtain ⟨before, sortedRest⟩ := List.pairwise_cons.mp sorted
      by_cases same : key = name
      · simp [replace, insert, same]
      · rw [find?, if_neg same] at h
        have listed : key ∈ keys rest := List.mem_map_of_mem (mem_of_find? h)
        have behind : ¬key < name := not_lt_of_gt (before key listed)
        rw [replace, insert, if_neg same, if_neg same, if_neg behind, ih sortedRest h]

end Table

/-- All objects in the value list their members by key, each key once, as objects that are built by
insertion do.
-/
inductive Json.IsOrdered : Json → Prop
  | null : IsOrdered .null
  | bool (value : Bool) : IsOrdered (.bool value)
  | number (value : Json.Number) : IsOrdered (.number value)
  | string (value : String) : IsOrdered (.string value)
  | array {items : List Json} (h : ∀ item ∈ items, IsOrdered item) : IsOrdered (.array items)
  | object {members : Table Json} (sorted : members.keys.Pairwise (· < ·))
    (h : ∀ member ∈ members, IsOrdered member.2)
    : IsOrdered (.object members)

/-- What is found under a key of an object in order is in order, and so is the null that stands
for a missing member.
-/
theorem Json.IsOrdered.find?_getD {members : Table Json}
    (h : ∀ member ∈ members, IsOrdered member.2) (name : String)
    : IsOrdered ((Table.find? name members).getD .null) := by
  cases found : Table.find? name members with
  | none => exact .null
  | some inner => exact h _ (Table.mem_of_find? found)

theorem Json.IsOrdered.getElem?_getD {items : List Json} (h : ∀ item ∈ items, IsOrdered item)
    (position : Nat)
    : IsOrdered ((items[position]?).getD .null) := by
  cases found : items[position]? with
  | none => exact .null
  | some inner => exact h _ (List.mem_of_getElem? found)

namespace DataPath

-----------------------------------------------------------------------------------------
-- Making a place
-----------------------------------------------------------------------------------------

/-- The place that is made under a key holds what was there, or else null. -/
theorem find?_withMember (name : String) (members : Table Json)
    : Table.find? name (withMember name members)
      = some ((Table.find? name members).getD .null) := by
  unfold withMember Table.hasKey
  cases found : Table.find? name members <;> simp [found]

/-- A member that is there needs no place. -/
theorem withMember_of_find? {name : String} {members : Table Json} {inner : Json}
    (h : Table.find? name members = some inner)
    : withMember name members = members := by
  simp [withMember, Table.hasKey, h]

theorem replace_withMember {name : String} {members : Table Json}
    (sorted : members.keys.Pairwise (· < ·)) (inner : Json)
    : Table.replace name inner (withMember name members) = Table.insert name inner members := by
  cases found : Table.find? name members with
  | none => simp [withMember, Table.hasKey, found, Table.replace_insert_self]
  | some old => rw [withMember_of_find? found, Table.replace_eq_insert sorted found]

/-- The place that is made at an index holds what was there, or else null. -/
theorem getElem?_paddedTo (position : Nat) (items : List Json)
    : (paddedTo position items)[position]? = some ((items[position]?).getD .null) := by
  by_cases inside : position < items.length
  · rw [paddedTo, List.getElem?_append_left inside, List.getElem?_eq_getElem inside]
    rfl
  · rw [paddedTo, List.getElem?_append_right (by omega), List.getElem?_replicate,
      if_pos (by omega), List.getElem?_eq_none (by omega)]
    rfl

/-- Setting an item to what it is changes nothing. -/
theorem setItem_of_getElem? {items : List Json} {position : Nat} {inner : Json}
    (h : items[position]? = some inner)
    : setItem items position inner = items := by
  obtain ⟨inside, rfl⟩ := List.getElem?_eq_some_iff.mp h
  rw [setItem, Nat.sub_eq_zero_of_le (by omega), List.replicate_zero, List.append_nil,
    List.set_getElem_self]

-----------------------------------------------------------------------------------------
-- Putting a value in place
-----------------------------------------------------------------------------------------

/-- Behind a key a value is put into the member under that key, if there can be one. -/
theorem put_key {value : Json} {members : Table Json} (h : membersOf value = some members)
    (new : Json) (name : String) (rest : DataPath)
    : put new (.key name :: rest) value
      = (put new rest ((Table.find? name members).getD .null)).map
          fun inner => .object (Table.insert name inner members) := by
  cases value <;> cases h <;> rfl

theorem put_key_of_none {value : Json} (h : membersOf value = none) (new : Json) (name : String)
    (rest : DataPath)
    : put new (.key name :: rest) value = .error name := by
  cases value <;> first | rfl | cases h

/-- Behind an index a value is put into the item at that index, if there can be one. -/
theorem put_index {value : Json} {items : List Json} (h : itemsOf value = some items)
    (new : Json) (position : Nat) (rest : DataPath)
    : put new (.index position :: rest) value
      = (put new rest ((items[position]?).getD .null)).map
          fun inner => .array (setItem items position inner) := by
  cases value <;> cases h <;> rw [put, modifyItem_eq] <;>
    cases put new rest _ <;> rfl

theorem put_index_of_none {value : Json} (h : itemsOf value = none) (new : Json)
    (position : Nat) (rest : DataPath)
    : put new (.index position :: rest) value = .error (Text.integer position) := by
  cases value <;> first | rfl | cases h

theorem putInPlace_key {value : Json} {members : Table Json} (h : membersOf value = some members)
    (new : Json) (name : String) (rest : DataPath)
    : putInPlace new (.key name :: rest) value
      = (putInPlace new rest ((Table.find? name members).getD .null)).map id
          fun inner => .object (Table.replace name inner (withMember name members)) := by
  cases value <;> cases h <;> simp only [putInPlace, openedAs, find?_withMember] <;> rfl

theorem putInPlace_key_of_none {value : Json} (h : membersOf value = none) (new : Json)
    (name : String) (rest : DataPath)
    : putInPlace new (.key name :: rest) value = (.error name, value) := by
  cases value <;> first | rfl | cases h

theorem putInPlace_index {value : Json} {items : List Json} (h : itemsOf value = some items)
    (new : Json) (position : Nat) (rest : DataPath)
    : putInPlace new (.index position :: rest) value
      = (putInPlace new rest ((items[position]?).getD .null)).map id
          fun inner => .array (setItem items position inner) := by
  cases value <;> cases h <;> simp only [putInPlace, openedAs, getElem?_paddedTo] <;> rfl

theorem putInPlace_index_of_none {value : Json} (h : itemsOf value = none) (new : Json)
    (position : Nat) (rest : DataPath)
    : putInPlace new (.index position :: rest) value
      = (.error (Text.integer position), value) := by
  cases value <;> first | rfl | cases h

/-- A write in place is stopped where putting the value is. -/
theorem putInPlace_fst (new : Json) (path : DataPath) (value : Json)
    : (putInPlace new path value).1 = (put new path value).map fun _ => () := by
  induction path generalizing value with
  | nil => rfl
  | cons segment rest ih =>
      cases segment with
      | key name =>
          cases opened : membersOf value with
          | none => rw [putInPlace_key_of_none opened, put_key_of_none opened]; rfl
          | some members =>
              rw [putInPlace_key opened, put_key opened, Prod.map_fst, id, ih]
              cases put new rest ((Table.find? name members).getD .null) <;> rfl
      | index position =>
          cases opened : itemsOf value with
          | none => rw [putInPlace_index_of_none opened, put_index_of_none opened]; rfl
          | some items =>
              rw [putInPlace_index opened, put_index opened, Prod.map_fst, id, ih]
              cases put new rest ((items[position]?).getD .null) <;> rfl

/-- Nothing stops a write inside of a null. -/
theorem putInPlace_null (new : Json) (path : DataPath)
    : (putInPlace new path .null).1 = .ok () := by
  induction path with
  | nil => rfl
  | cons segment rest ih =>
      cases segment with
      | key name =>
          rw [putInPlace_key rfl]
          exact ih
      | index position =>
          rw [putInPlace_index rfl]
          exact ih

/-- A write that is stopped has changed nothing. Witness: induction on the path. Where the segment
leads to a place that was there, nothing was made before it was entered; where it leads to a new
one, that holds a null, inside of which nothing stops the write.
-/
theorem putInPlace_snd_of_error {new value : Json} {path : DataPath} {segment : String}
    (h : (putInPlace new path value).1 = .error segment)
    : (putInPlace new path value).2 = value := by
  induction path generalizing value with
  | nil => cases h
  | cons step rest ih =>
      cases step with
      | key name =>
          cases opened : membersOf value with
          | none => rw [putInPlace_key_of_none opened]
          | some members =>
              rw [putInPlace_key opened, Prod.map_fst, id] at h
              cases found : Table.find? name members with
              | none =>
                  rw [found, Option.getD_none, putInPlace_null] at h
                  cases h
              | some inner =>
                  rw [found, Option.getD_some] at h
                  rw [putInPlace_key opened, found, Option.getD_some, Prod.map_snd, ih h,
                    withMember_of_find? found, Table.replace_of_find? found]
                  cases value <;> cases opened <;> first | rfl | cases found
      | index position =>
          cases opened : itemsOf value with
          | none => rw [putInPlace_index_of_none opened]
          | some items =>
              rw [putInPlace_index opened, Prod.map_fst, id] at h
              cases found : items[position]? with
              | none =>
                  rw [found, Option.getD_none, putInPlace_null] at h
                  cases h
              | some inner =>
                  rw [found, Option.getD_some] at h
                  rw [putInPlace_index opened, found, Option.getD_some, Prod.map_snd, ih h,
                    setItem_of_getElem? found]
                  cases value <;> cases opened <;> first | rfl | cases found

/-- The members that are entered are in order if the value is. -/
theorem isOrdered_members {value : Json} {members : Table Json} (h : value.IsOrdered)
    (opened : membersOf value = some members)
    : members.keys.Pairwise (· < ·) ∧ ∀ member ∈ members, member.2.IsOrdered := by
  cases h with
  | null => cases opened; simp [Table.keys]
  | object sorted inside => cases opened; exact ⟨sorted, inside⟩
  | _ => cases opened

theorem isOrdered_items {value : Json} {items : List Json} (h : value.IsOrdered)
    (opened : itemsOf value = some items)
    : ∀ item ∈ items, item.IsOrdered := by
  cases h with
  | null => cases opened; simp
  | array inside => cases opened; exact inside
  | _ => cases opened

/-- A write that is not stopped leaves what putting the value gives. -/
theorem putInPlace_snd_of_ok {new value result : Json} {path : DataPath} (ordered : value.IsOrdered)
    (h : put new path value = .ok result)
    : (putInPlace new path value).2 = result := by
  induction path generalizing value result with
  | nil => exact Except.ok.inj h
  | cons step rest ih =>
      cases step with
      | key name =>
          obtain ⟨members, inner, opened, below, rfl⟩ := put_key_ok_iff.mp h
          obtain ⟨sorted, inside⟩ := isOrdered_members ordered opened
          rw [putInPlace_key opened, Prod.map_snd, ih (Json.IsOrdered.find?_getD inside name) below,
            replace_withMember sorted]
      | index position =>
          obtain ⟨items, inner, opened, below, rfl⟩ := put_index_ok_iff.mp h
          rw [putInPlace_index opened, Prod.map_snd,
            ih (Json.IsOrdered.getElem?_getD (isOrdered_items ordered opened) position) below]

-----------------------------------------------------------------------------------------
-- Writing
-----------------------------------------------------------------------------------------

theorem write_of_overreach {data : Json} {path : DataPath} {index length : Nat}
    (h : overreach? (some data) path = some (index, length)) (new : Json)
    : write data path new = .error (.indexOutOfRange (text path) index length) := by
  cases path with
  | nil => cases h
  | cons segment rest => simp [write, h]

theorem write_of_reached {data : Json} {path : DataPath} (nonempty : path ≠ [])
    (h : overreach? (some data) path = none) (new : Json)
    : write data path new = (put new path data).mapError (.conflict (text path)) := by
  simp [write, nonempty, h]

/-- A write that fails fails in place too, and leaves the data as they are. -/
theorem writeInPlace_of_error {data new : Json} {path : DataPath} {error : WriteError}
    (h : write data path new = .error error)
    : writeInPlace data path new = (.error error, data) := by
  by_cases nonempty : path = []
  · subst nonempty
    cases h
    rfl
  · cases reached : overreach? (some data) path with
    | some found =>
        rw [write_of_overreach reached] at h
        cases h
        simp [writeInPlace, nonempty, reached]
    | none =>
        have stopped := putInPlace_fst new path data
        rw [write_of_reached nonempty reached] at h
        cases done : put new path data with
        | ok result => simp [done, Except.mapError] at h
        | error segment =>
            rw [done] at h stopped
            cases h
            simp [writeInPlace, nonempty, reached, putInPlace_snd_of_error stopped, stopped,
              Except.map, Except.mapError]

/-- A write that succeeds does so in place, and leaves there what it gives. -/
theorem writeInPlace_of_ok {data new result : Json} {path : DataPath}
    (h : write data path new = .ok result)
    : (writeInPlace data path new).1 = .ok ()
      ∧ (data.IsOrdered → (writeInPlace data path new).2 = result) := by
  obtain ⟨nonempty, reached⟩ := reached_of_write h
  have done := put_of_write h
  have outcome := putInPlace_fst new path data
  rw [done] at outcome
  simp only [writeInPlace, List.isEmpty_iff, nonempty, if_false, reached, outcome]
  exact ⟨rfl, fun ordered => putInPlace_snd_of_ok ordered done⟩

end DataPath

end FormWizard
