import FormWizard.Table
import Mathlib.Data.List.Sort
import Mathlib.Data.String.Basic

/-! Putting values into a table under different keys in either order gives the same table, and of
two values under one key only the later one counts. Neither needs the table to be in order, nor do
the laws of looking up. A table in order stays so, and is told from others by what is found in it.
-/

namespace FormWizard

/-- Lists in the order of keys that no two of their members share are told by their members. -/
theorem eq_of_mem_iff_of_sorted {α β : Type} [Preorder β] {key : α → β} {list other : List α}
    (sorted : (list.map key).Pairwise (· < ·)) (sorted' : (other.map key).Pairwise (· < ·))
    (same : ∀ member, member ∈ list ↔ member ∈ other)
    : list = other := by
  let isBefore (left right : α) : Prop := key left < key right
  have : Std.Irrefl isBefore := ⟨fun member => lt_irrefl (key member)⟩
  have : Std.Antisymm isBefore := ⟨fun _ _ before behind => (lt_asymm before behind).elim⟩
  exact (List.pairwise_map.mp sorted).eq_of_mem_iff (List.pairwise_map.mp sorted') same

namespace Table

variable {α : Type}

/-- What is found under a key is an entry. -/
theorem mem_of_find? {key : String} {value : α} {table : Table α}
    (h : find? key table = some value)
    : (key, value) ∈ table := by
  induction table with
  | nil => cases h
  | cons entry rest ih =>
      obtain ⟨name, old⟩ := entry
      rw [find?] at h
      split at h
      · rename_i same
        cases h
        rw [same]
        exact List.mem_cons_self
      · exact List.mem_cons_of_mem _ (ih h)

/-- What one of two tables in a row has under a key is found in the first one if it is there. -/
theorem find?_append (key : String) (table more : Table α)
    : find? key (table ++ more) = (find? key table).or (find? key more) := by
  induction table with
  | nil => rfl
  | cons entry rest ih =>
      obtain ⟨name, old⟩ := entry
      by_cases same : key = name <;> simp [find?, same, ih]

theorem mem_keys_insert_iff {key other : String} {value : α} {table : Table α}
    : other ∈ (insert key value table).keys ↔ other = key ∨ other ∈ table.keys := by
  induction table with
  | nil => simp [insert, keys]
  | cons entry rest ih =>
      obtain ⟨name, old⟩ := entry
      simp only [keys] at ih
      by_cases same : key = name
      · simp [insert, keys, same]
      · by_cases before : key < name
        · simp [insert, keys, same, before]
        · simp [insert, keys, same, before, ih, or_left_comm]

/-- A table in order stays in order when a value is put into it. -/
theorem sorted_insert {table : Table α} (sorted : table.keys.Pairwise (· < ·)) (key : String)
    (value : α)
    : (insert key value table).keys.Pairwise (· < ·) := by
  induction table with
  | nil => exact .cons (by simp) .nil
  | cons entry rest ih =>
      obtain ⟨name, old⟩ := entry
      obtain ⟨least, sortedRest⟩ := List.pairwise_cons.mp sorted
      rw [insert]
      split
      · rename_i same
        exact same ▸ sorted
      · rename_i different
        split
        · rename_i before
          refine List.pairwise_cons.mpr ⟨fun other member => ?_, sorted⟩
          rcases List.mem_cons.mp member with rfl | later
          · exact before
          · exact before.trans (least other later)
        · rename_i behind
          refine List.pairwise_cons.mpr ⟨fun other member => ?_, ih sortedRest⟩
          rcases mem_keys_insert_iff.mp member with rfl | later
          · exact (lt_or_gt_of_ne different).resolve_left behind
          · exact least other later

theorem mem_keys_extend_iff {key : String} {table more : Table α}
    : key ∈ (extend table more).keys ↔ key ∈ table.keys ∨ key ∈ more.keys := by
  induction more generalizing table with
  | nil => simp [extend, keys]
  | cons entry rest ih =>
      have step : extend table (entry :: rest) = extend (insert entry.1 entry.2 table) rest := rfl
      rw [step, ih, mem_keys_insert_iff]
      simp only [keys, List.map_cons, List.mem_cons]
      tauto

/-- The keys of a table of entries are those of the entries. -/
theorem mem_keys_ofEntries_iff {key : String} {entries : List (String × α)}
    : key ∈ (ofEntries entries).keys ↔ key ∈ entries.map Prod.fst :=
  mem_keys_extend_iff.trans (by simp [keys])

/-- A table in order stays in order when entries are put into it. -/
theorem sorted_extend {table : Table α} (sorted : table.keys.Pairwise (· < ·)) (more : Table α)
    : (extend table more).keys.Pairwise (· < ·) := by
  induction more generalizing table with
  | nil => exact sorted
  | cons entry rest ih => exact ih (sorted_insert sorted entry.1 entry.2)

theorem sorted_ofEntries (entries : List (String × α))
    : (ofEntries entries).keys.Pairwise (· < ·) :=
  sorted_extend .nil entries

/-- Under a new key a value is one more entry. -/
theorem perm_insert {key : String} {table : Table α} (new : key ∉ table.keys) (value : α)
    : (insert key value table).Perm ((key, value) :: table) := by
  induction table with
  | nil => exact .refl _
  | cons entry rest ih =>
      obtain ⟨name, old⟩ := entry
      have different : key ≠ name := fun same => new (same ▸ List.mem_cons_self)
      rw [insert, if_neg different]
      split
      · exact .refl _
      · have later := ih fun member => new (List.mem_cons_of_mem _ member)
        exact (later.cons _).trans (.swap ..)

/-- Entries under keys of their own all stay in the table. -/
theorem perm_extend {table more : Table α} (distinct : (table ++ more).keys.Nodup)
    : (extend table more).Perm (table ++ more) := by
  induction more generalizing table with
  | nil => simp [extend]
  | cons entry rest ih =>
      have moved : (table ++ entry :: rest).Perm (entry :: table ++ rest) := List.perm_middle
      have distinct' := (moved.map Prod.fst).nodup_iff.mp distinct
      have new : entry.1 ∉ table.keys := by
        intro member
        rw [List.cons_append, List.map_cons, List.nodup_cons, List.map_append] at distinct'
        exact distinct'.1 (List.mem_append_left _ member)
      have inserted := (perm_insert new entry.2).append_right rest
      have step : extend table (entry :: rest) = extend (insert entry.1 entry.2 table) rest := rfl
      rw [step]
      refine (ih ?_).trans (inserted.trans moved.symm)
      exact (inserted.map Prod.fst).nodup_iff.mpr distinct'

theorem perm_ofEntries {entries : List (String × α)} (distinct : (entries.map Prod.fst).Nodup)
    : (ofEntries entries).Perm entries :=
  show (extend [] entries).Perm ([] ++ entries) from perm_extend distinct

/-- What is in a table was put there. -/
theorem mem_of_mem_insert {key : String} {value : α} {table : Table α} {entry : String × α}
    (h : entry ∈ insert key value table)
    : entry = (key, value) ∨ entry ∈ table := by
  induction table with
  | nil => exact .inl (List.mem_singleton.mp h)
  | cons first rest ih =>
      obtain ⟨name, old⟩ := first
      rw [insert] at h
      split at h
      · exact (List.mem_cons.mp h).imp_right (List.mem_cons_of_mem _)
      · split at h
        · exact List.mem_cons.mp h
        · rcases List.mem_cons.mp h with rfl | later
          · exact .inr List.mem_cons_self
          · exact (ih later).imp_right (List.mem_cons_of_mem _)

theorem mem_of_mem_extend {table more : Table α} {entry : String × α}
    (h : entry ∈ extend table more)
    : entry ∈ table ∨ entry ∈ more := by
  induction more generalizing table with
  | nil => exact .inl h
  | cons first rest ih =>
      have step : extend table (first :: rest) = extend (insert first.1 first.2 table) rest := rfl
      rcases ih (step ▸ h) with inTable | inRest
      · rcases mem_of_mem_insert inTable with rfl | older
        · exact .inr List.mem_cons_self
        · exact .inl older
      · exact .inr (List.mem_cons_of_mem _ inRest)

theorem mem_of_mem_ofEntries {entries : List (String × α)} {entry : String × α}
    (h : entry ∈ ofEntries entries)
    : entry ∈ entries := by
  have there : entry ∈ [] ∨ entry ∈ entries := mem_of_mem_extend h
  exact there.resolve_left List.not_mem_nil

/-- A value under a key behind all others is put at the end. -/
theorem insert_of_forall_lt {key : String} {table : Table α}
    (last : ∀ other ∈ table.keys, other < key) (value : α)
    : insert key value table = table ++ [(key, value)] := by
  induction table with
  | nil => rfl
  | cons entry rest ih =>
      obtain ⟨name, old⟩ := entry
      have behind : name < key := last name (by simp [keys])
      rw [insert, if_neg behind.ne', if_neg behind.not_gt,
        ih fun other member => last other (List.mem_cons_of_mem _ member)]
      rfl

/-- Entries in order behind those of a table are put at its end, one after the other. -/
theorem extend_of_sorted {table more : Table α} (sorted : (table ++ more).keys.Pairwise (· < ·))
    : extend table more = table ++ more := by
  induction more generalizing table with
  | nil => simp [extend]
  | cons entry rest ih =>
      have last : ∀ other ∈ table.keys, other < entry.1 := by
        intro other member
        have parts := sorted
        rw [keys, List.map_append, List.pairwise_append] at parts
        exact parts.2.2 other member entry.1 (by simp)
      have step : extend table (entry :: rest) = extend (insert entry.1 entry.2 table) rest := rfl
      rw [step, insert_of_forall_lt last, ih (by simpa using sorted), List.append_assoc]
      rfl

/-- The table of entries in order is made up of them. -/
theorem ofEntries_of_sorted {entries : Table α} (sorted : entries.keys.Pairwise (· < ·))
    : ofEntries entries = entries :=
  show extend [] entries = [] ++ entries from extend_of_sorted sorted

/-- In a table in order exactly the entries are found. -/
theorem find?_eq_some_iff {key : String} {value : α} {table : Table α}
    (sorted : table.keys.Pairwise (· < ·))
    : find? key table = some value ↔ (key, value) ∈ table := by
  refine ⟨mem_of_find?, fun member => ?_⟩
  induction table with
  | nil => cases member
  | cons entry rest ih =>
      obtain ⟨name, old⟩ := entry
      obtain ⟨least, sortedRest⟩ := List.pairwise_cons.mp sorted
      rcases List.mem_cons.mp member with same | later
      · cases same
        simp [find?]
      · have behind : name < key := least key (List.mem_map_of_mem later)
        rw [find?, if_neg behind.ne', ih sortedRest later]

/-- Tables in order are the same if the same is found in them under every key. -/
theorem eq_of_find?_eq {table other : Table α} (sorted : table.keys.Pairwise (· < ·))
    (sorted' : other.keys.Pairwise (· < ·)) (same : ∀ key, find? key table = find? key other)
    : table = other := by
  refine eq_of_mem_iff_of_sorted sorted sorted' fun entry => ?_
  rw [← find?_eq_some_iff sorted, same, find?_eq_some_iff sorted']

/-- Of two values put under one key the first leaves no trace. -/
@[simp] theorem insert_insert_self (key : String) (first second : α) (table : Table α)
    : insert key second (insert key first table) = insert key second table := by
  induction table with
  | nil => simp [insert]
  | cons entry rest ih =>
      obtain ⟨name, old⟩ := entry
      by_cases same : key = name
      · simp [insert, same]
      · by_cases before : key < name <;> simp [insert, same, before, ih]

/-- Values put under different keys do not get in each other's way. Witness: induction on the
table; the entry at the front lies before, at or behind either key.
-/
theorem insert_comm {key other : String} (different : key ≠ other) (value more : α)
    (table : Table α)
    : insert other more (insert key value table)
      = insert key value (insert other more table) := by
  induction table with
  | nil =>
      rcases lt_or_gt_of_ne different with less | less
      · simp [insert, different, different.symm, less, less.not_gt]
      · simp [insert, different, different.symm, less, less.not_gt]
  | cons entry rest ih =>
      obtain ⟨name, old⟩ := entry
      rcases lt_trichotomy key name with before | rfl | behind
      · rcases lt_trichotomy other name with first | rfl | last
        · rcases lt_or_gt_of_ne different with less | less
          · simp [insert, different, different.symm, before, before.ne, first, first.ne, less,
              less.not_gt]
          · simp [insert, different, different.symm, before, before.ne, first, first.ne, less,
              less.not_gt]
        · simp [insert, different, different.symm, before, before.not_gt]
        · have less := before.trans last
          simp [insert, different.symm, before, before.ne, last.ne', last.not_gt,
            less.not_gt]
      · rcases lt_or_gt_of_ne different with less | less
        · simp [insert, different.symm, less.not_gt]
        · simp [insert, different, different.symm, less, less.not_gt]
      · rcases lt_trichotomy other name with first | rfl | last
        · have less := first.trans behind
          simp [insert, different, first, first.ne, behind.ne', behind.not_gt, less.not_gt]
        · simp [insert, different, behind.not_gt]
        · simp [insert, behind.ne', behind.not_gt, last.ne', last.not_gt, ih]

end Table

end FormWizard
