import FormWizard.DataPath.Write
import FormWizard.Proofs.Tables

/-! What a write changes and what it leaves alone. Writes at paths that lead apart can be
exchanged, a write is undone by the next one at the same path, and it can be seen nowhere but at
its own path, except that the nulls which pad an array come to be there.
-/

namespace FormWizard.DataPath

attribute [local simp] bind Except.bind pure Except.pure Except.map

-----------------------------------------------------------------------------------------
-- One step of a write
-----------------------------------------------------------------------------------------

/-- The items with one of them replaced, padded with nulls as far as that one. -/
def setItem (items : List Json) (position : Nat) (new : Json) : List Json :=
  (items ++ List.replicate (position + 1 - items.length) Json.null).set position new

/-- Modifying an item replaces it by what becomes of it; a missing item counts as null. -/
theorem modifyItem_eq (modify : Json → Except String Json) (items : List Json) (position : Nat)
    : modifyItem modify items position
      = (modify ((items[position]?).getD .null)).map (setItem items position) := by
  fun_induction modifyItem modify items position with
  | case1 => cases h : modify .null <;> simp [h, setItem]
  | case2 position ih =>
      rw [ih]
      cases h : modify .null <;> simp [h, setItem, List.replicate_succ]
  | case3 item rest => cases h : modify item <;> simp [h, setItem]
  | case4 item rest position ih =>
      rw [ih]
      cases h : modify ((rest[position]?).getD .null) <;> simp [h, setItem]

/-- The item that was set is there, and the others are where they were. Those in front of it that
were missing are null now.
-/
theorem getElem?_setItem (items : List Json) (position other : Nat) (new : Json)
    : (setItem items position new)[other]?
      = if other = position then some new
        else if other < position then some ((items[other]?).getD .null)
        else items[other]? := by
  simp only [setItem, List.getElem?_set, List.length_append, List.length_replicate,
    List.getElem?_append, List.getElem?_replicate]
  by_cases same : other = position
  · simp only [same, if_true]
    rw [if_pos (by omega)]
  · rw [if_neg (Ne.symm same), if_neg same]
    by_cases inside : other < items.length
    · simp [inside]
    · by_cases before : other < position
      · simp only [inside, before, if_false, if_true]
        rw [if_pos (by omega), List.getElem?_eq_none (by omega)]
        rfl
      · simp only [inside, before, if_false]
        rw [if_neg (by omega), List.getElem?_eq_none (by omega)]

/-- Setting an item changes no other one, if a missing one counts as null. -/
theorem getD_getElem?_setItem {items : List Json} {position other : Nat}
    (different : other ≠ position) (new : Json)
    : ((setItem items position new)[other]?).getD .null = (items[other]?).getD .null := by
  rw [getElem?_setItem, if_neg different]
  split <;> rfl

/-- Of two items set at one position the first leaves no trace. -/
theorem setItem_setItem_self (items : List Json) (position : Nat) (first second : Json)
    : setItem (setItem items position first) position second
      = setItem items position second := by
  refine List.ext_getElem? fun other => ?_
  simp only [getElem?_setItem]
  split
  · rfl
  · split <;> simp

/-- Items set at different positions do not get in each other's way. -/
theorem setItem_comm {items : List Json} {position other : Nat} (different : position ≠ other)
    (new more : Json)
    : setItem (setItem items position new) other more
      = setItem (setItem items other more) position new := by
  refine List.ext_getElem? fun index => ?_
  simp only [getElem?_setItem]
  by_cases first : index = position
  · subst first
    simp only [different, if_false, if_true]
    split <;> rfl
  · by_cases second : index = other
    · subst second
      simp only [first, if_false, if_true]
      split <;> rfl
    · simp only [first, second, if_false]
      split <;> split <;> simp

/-- The members of a value that may be an object; null has none. -/
def membersOf : Json → Option (Table Json)
  | .object members => some members
  | .null => some []
  | _ => none

/-- The items of a value that may be an array; null has none. -/
def itemsOf : Json → Option (List Json)
  | .array items => some items
  | .null => some []
  | _ => none

/-- A write behind a key goes into the member under that key. -/
theorem put_key_ok_iff {new value result : Json} {name : String} {rest : DataPath}
    : put new (.key name :: rest) value = .ok result
      ↔ ∃ members inner,
          membersOf value = some members
          ∧ put new rest ((Table.find? name members).getD .null) = .ok inner
          ∧ result = .object (Table.insert name inner members) := by
  cases value with
  | null =>
      cases h : put new rest .null <;>
        simp [put, membersOf, Table.find?, Table.insert, h, eq_comm]
  | object members =>
      cases h : put new rest ((Table.find? name members).getD .null) <;>
        simp [put, membersOf, h, eq_comm]
  | bool _ | number _ | string _ | array _ => simp [put, membersOf]

/-- A write behind an index goes into the item at that index. -/
theorem put_index_ok_iff {new value result : Json} {position : Nat} {rest : DataPath}
    : put new (.index position :: rest) value = .ok result
      ↔ ∃ items inner,
          itemsOf value = some items
          ∧ put new rest ((items[position]?).getD .null) = .ok inner
          ∧ result = .array (setItem items position inner) := by
  cases value with
  | null =>
      cases h : put new rest .null <;>
        simp [put, itemsOf, modifyItem_eq, h, eq_comm]
  | array items =>
      cases h : put new rest ((items[position]?).getD .null) <;>
        simp [put, itemsOf, modifyItem_eq, h, eq_comm]
  | bool _ | number _ | string _ | object _ => simp [put, itemsOf]

theorem child?_key_of_membersOf {value : Json} {members : Table Json}
    (h : membersOf value = some members) (name : String)
    : child? value (.key name) = Table.find? name members := by
  cases value <;> simp_all [membersOf, child?, Table.find?]

theorem child?_index_of_membersOf {value : Json} {members : Table Json}
    (h : membersOf value = some members) (position : Nat)
    : child? value (.index position) = none := by
  cases value <;> simp_all [membersOf, child?]

theorem child?_index_of_itemsOf {value : Json} {items : List Json}
    (h : itemsOf value = some items) (position : Nat)
    : child? value (.index position) = items[position]? := by
  cases value <;> simp_all [itemsOf, child?]

/-- A key leads to the item whose index it spells. -/
theorem child?_key_of_itemsOf {value : Json} {items : List Json}
    (h : itemsOf value = some items) (name : String)
    : child? value (.key name)
      = (Text.natural? name.toList).bind fun position => items[position]? := by
  cases value <;> simp_all [itemsOf, child?]

/-- A write behind a key is not seen by a step that is another. -/
theorem child?_put_key_of_ne {new value result : Json} {name : String} {rest : DataPath}
    (h : put new (.key name :: rest) value = .ok result) {other : Segment}
    (different : .key name ≠ other)
    : child? result other = child? value other := by
  obtain ⟨members, inner, opened, -, rfl⟩ := put_key_ok_iff.mp h
  cases other with
  | key other =>
      have different : other ≠ name := fun same => different (by rw [same])
      rw [child?_key_of_membersOf opened, child?_object_key, Table.find?_insert_of_ne different]
  | index position => rw [child?_index_of_membersOf opened, child?_object_index]

-----------------------------------------------------------------------------------------
-- Paths that lead apart
-----------------------------------------------------------------------------------------

/-- The two paths part somewhere, so that neither is the beginning of the other. -/
inductive Diverge : DataPath → DataPath → Prop
  | here {left right : Segment} (different : left ≠ right) (front back : DataPath)
    : Diverge (left :: front) (right :: back)
  | deeper (segment : Segment) {front back : DataPath} (apart : Diverge front back)
    : Diverge (segment :: front) (segment :: back)

/-- The key of a read path spells the index of a written one, so that in an array they lead to
the same item.
-/
def Aliases : (written read : Segment) → Prop
  | .index position, .key name => Text.natural? name.toList = some position
  | _, _ => False

/-- The two paths part, and where they do the key of the read path is not another spelling of the
index of the written one.
-/
inductive Misses : (written read : DataPath) → Prop
  | here {left right : Segment} (different : left ≠ right) (foreign : ¬Aliases left right)
    (front back : DataPath)
    : Misses (left :: front) (right :: back)
  | deeper (segment : Segment) {front back : DataPath} (apart : Misses front back)
    : Misses (segment :: front) (segment :: back)

theorem Diverge.symm {left right : DataPath} (h : Diverge left right) : Diverge right left := by
  induction h with
  | here different front back => exact .here (Ne.symm different) back front
  | deeper segment _ ih => exact .deeper segment ih

/-- Paths of which neither is the beginning of the other part somewhere. -/
theorem diverge_of_not_prefix {left right : DataPath} (forth : ¬left <+: right)
    (back : ¬right <+: left)
    : Diverge left right := by
  induction left generalizing right with
  | nil => exact (forth List.nil_prefix).elim
  | cons segment front ih =>
      cases right with
      | nil => exact (back List.nil_prefix).elim
      | cons other rear =>
          by_cases same : segment = other
          · subst same
            simp only [List.cons_prefix_cons, true_and] at forth back
            exact .deeper segment (ih forth back)
          · exact .here same front rear

/-- Keys that spell no index are aliases of none. -/
theorem Diverge.misses {written read : DataPath} (h : Diverge written read)
    (plain : ∀ name, Segment.key name ∈ read → Text.natural? name.toList = none)
    : Misses written read := by
  induction h with
  | @here left right different front back =>
      refine .here different (fun aliases => ?_) front back
      cases left with
      | key name => exact aliases
      | index position =>
          cases right with
          | key name =>
              have unspelled := plain name List.mem_cons_self
              simp [Aliases, unspelled] at aliases
          | index other => exact aliases
  | deeper segment _ ih =>
      exact .deeper segment (ih fun name member => plain name (List.mem_cons_of_mem _ member))

theorem Misses.ne_nil {written read : DataPath} (h : Misses written read) : read ≠ [] := by
  cases h <;> simp

theorem get?_null {path : DataPath} (below : path ≠ []) : get? .null path = none := by
  cases path with
  | nil => exact absurd rfl below
  | cons segment rest => cases segment <;> rfl

-----------------------------------------------------------------------------------------
-- Reading after a write
-----------------------------------------------------------------------------------------

/-- What was written is read at its path. -/
theorem get?_put_self {new value result : Json} {path : DataPath}
    (h : put new path value = .ok result)
    : get? result path = some new := by
  induction path generalizing value result with
  | nil =>
      obtain rfl : new = result := by simpa [put] using h
      rfl
  | cons segment rest ih =>
      cases segment with
      | key name =>
          obtain ⟨members, inner, -, below, rfl⟩ := put_key_ok_iff.mp h
          simp [get?, child?, ih below]
      | index position =>
          obtain ⟨items, inner, -, below, rfl⟩ := put_index_ok_iff.mp h
          simp [get?, child?, getElem?_setItem, ih below]

/-- What an item hides from a path stays hidden if another item is set, unless it is a null that
pads the array.
-/
theorem bind_setItem {items : List Json} {position other : Nat} (different : other ≠ position)
    (new : Json) (rest : DataPath)
    : ((setItem items position new)[other]?).bind (fun inner => get? inner rest)
        = (items[other]?).bind (fun inner => get? inner rest)
      ∨ (items[other]?).bind (fun inner => get? inner rest) = none
        ∧ ((setItem items position new)[other]?).bind (fun inner => get? inner rest)
          = some .null := by
  rw [getElem?_setItem, if_neg different]
  by_cases before : other < position
  · rw [if_pos before]
    cases items[other]? with
    | some item => exact Or.inl rfl
    | none =>
        cases rest with
        | nil => exact Or.inr ⟨rfl, rfl⟩
        | cons segment rest => exact Or.inl (get?_null (by simp))
  · rw [if_neg before]
    exact Or.inl rfl

/-- A write leaves what another path reads as it is, except that nothing may become null. Witness:
induction on where the paths part; where both lead into the same place, a place that is missing
counts as null for the write and hides everything from the read.
-/
theorem get?_put_of_misses {new value result : Json} {written read : DataPath}
    (h : put new written value = .ok result) (apart : Misses written read)
    : get? result read = get? value read
      ∨ get? value read = none ∧ get? result read = some .null := by
  induction apart generalizing value result with
  | @here left right different foreign front back =>
      cases left with
      | key name => exact .inl (by rw [get?, get?, child?_put_key_of_ne h different])
      | index position =>
          obtain ⟨items, inner, opened, -, rfl⟩ := put_index_ok_iff.mp h
          cases right with
          | key name =>
              simp only [get?, child?_key_of_itemsOf opened, child?_array_key]
              cases spelled : Text.natural? name.toList with
              | none => exact Or.inl rfl
              | some other =>
                  have different : other ≠ position := fun same =>
                    foreign (by rw [Aliases, spelled, same])
                  exact bind_setItem different inner back
          | index other =>
              have different : other ≠ position := fun same => different (by rw [same])
              simp only [get?, child?_index_of_itemsOf opened, child?_array_index]
              exact bind_setItem different inner back
  | @deeper segment front back apart ih =>
      have inside {old : Option Json} {inner : Json}
          (below : put new front (old.getD .null) = .ok inner)
          : get? inner back = old.bind (fun old => get? old back)
            ∨ old.bind (fun old => get? old back) = none ∧ get? inner back = some .null := by
        have kept := ih below
        cases old with
        | some old => exact kept
        | none => simpa [get?_null apart.ne_nil] using kept
      cases segment with
      | key name =>
          obtain ⟨members, inner, opened, below, rfl⟩ := put_key_ok_iff.mp h
          simp only [get?, child?_key_of_membersOf opened, child?_object_key,
            Table.find?_insert_self]
          exact inside below
      | index position =>
          obtain ⟨items, inner, opened, below, rfl⟩ := put_index_ok_iff.mp h
          simp only [get?, child?_index_of_itemsOf opened, child?_array_index,
            getElem?_setItem, if_true]
          exact inside below

-----------------------------------------------------------------------------------------
-- Writing after a write
-----------------------------------------------------------------------------------------

/-- A write at the path of an earlier one leaves what it would have left without it. -/
theorem put_put_self {first second value middle final : Json} {path : DataPath}
    (h : put first path value = .ok middle) (alone : put second path value = .ok final)
    : put second path middle = .ok final := by
  induction path generalizing value middle final with
  | nil => simpa [put] using alone
  | cons segment rest ih =>
      cases segment with
      | key name =>
          obtain ⟨members, inner, opened, below, rfl⟩ := put_key_ok_iff.mp h
          obtain ⟨members', outer, opened', further, rfl⟩ := put_key_ok_iff.mp alone
          obtain rfl : members = members' := Option.some.inj (opened.symm.trans opened')
          refine put_key_ok_iff.mpr ⟨_, outer, rfl, ?_, ?_⟩
          · rw [Table.find?_insert_self]
            exact ih below further
          · rw [Table.insert_insert_self]
      | index position =>
          obtain ⟨items, inner, opened, below, rfl⟩ := put_index_ok_iff.mp h
          obtain ⟨items', outer, opened', further, rfl⟩ := put_index_ok_iff.mp alone
          obtain rfl : items = items' := Option.some.inj (opened.symm.trans opened')
          refine put_index_ok_iff.mpr ⟨_, outer, rfl, ?_, ?_⟩
          · rw [getElem?_setItem, if_pos rfl]
            exact ih below further
          · rw [setItem_setItem_self]

/-- Writes at paths that part can be exchanged. -/
theorem put_comm {first second value middle final : Json} {left right : DataPath}
    (apart : Diverge left right) (h : put first left value = .ok middle)
    (next : put second right middle = .ok final)
    : ∃ other, put second right value = .ok other ∧ put first left other = .ok final := by
  induction apart generalizing value middle final with
  | @here left right different front back =>
      cases left with
      | key name =>
          obtain ⟨members, inner, opened, below, rfl⟩ := put_key_ok_iff.mp h
          cases right with
          | index position => simp [put] at next
          | key other =>
              have different : other ≠ name := fun same => different (by rw [same])
              obtain ⟨_, outer, ⟨⟩, further, rfl⟩ := put_key_ok_iff.mp next
              rw [Table.find?_insert_of_ne different] at further
              refine ⟨_, put_key_ok_iff.mpr ⟨_, _, opened, further, rfl⟩, ?_⟩
              refine put_key_ok_iff.mpr ⟨_, inner, rfl, ?_, ?_⟩
              · rw [Table.find?_insert_of_ne (Ne.symm different)]
                exact below
              · rw [Table.insert_comm (Ne.symm different)]
      | index position =>
          obtain ⟨items, inner, opened, below, rfl⟩ := put_index_ok_iff.mp h
          cases right with
          | key name => simp [put] at next
          | index other =>
              have different : other ≠ position := fun same => different (by rw [same])
              obtain ⟨_, outer, ⟨⟩, further, rfl⟩ := put_index_ok_iff.mp next
              rw [getD_getElem?_setItem different] at further
              refine ⟨_, put_index_ok_iff.mpr ⟨_, _, opened, further, rfl⟩, ?_⟩
              refine put_index_ok_iff.mpr ⟨_, inner, rfl, ?_, ?_⟩
              · rw [getD_getElem?_setItem (Ne.symm different)]
                exact below
              · rw [setItem_comm (Ne.symm different)]
  | @deeper segment front back _ ih =>
      cases segment with
      | key name =>
          obtain ⟨members, inner, opened, below, rfl⟩ := put_key_ok_iff.mp h
          obtain ⟨_, outer, ⟨⟩, further, rfl⟩ := put_key_ok_iff.mp next
          rw [Table.find?_insert_self] at further
          obtain ⟨child, exchanged, last⟩ := ih below further
          refine ⟨_, put_key_ok_iff.mpr ⟨_, _, opened, exchanged, rfl⟩, ?_⟩
          refine put_key_ok_iff.mpr ⟨_, outer, rfl, ?_, ?_⟩
          · rw [Table.find?_insert_self]
            exact last
          · simp
      | index position =>
          obtain ⟨items, inner, opened, below, rfl⟩ := put_index_ok_iff.mp h
          obtain ⟨_, outer, ⟨⟩, further, rfl⟩ := put_index_ok_iff.mp next
          rw [getElem?_setItem, if_pos rfl] at further
          obtain ⟨child, exchanged, last⟩ := ih below further
          refine ⟨_, put_index_ok_iff.mpr ⟨_, _, opened, exchanged, rfl⟩, ?_⟩
          refine put_index_ok_iff.mpr ⟨_, outer, rfl, ?_, ?_⟩
          · rw [getElem?_setItem, if_pos rfl]
            exact last
          · rw [setItem_setItem_self, setItem_setItem_self]

/-- A write that succeeds puts its value. -/
theorem put_of_write {data new result : Json} {path : DataPath}
    (h : write data path new = .ok result)
    : put new path data = .ok result := by
  unfold write at h
  split at h
  · cases h
  · split at h
    · cases h
    · cases done : put new path data with
      | ok put => simpa [done, Except.mapError] using h
      | error segment => simp [done, Except.mapError] at h

end FormWizard.DataPath
