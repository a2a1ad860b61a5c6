/-! Tables keyed by text, as association lists in the order of their keys. Looking up takes the
first entry of a key; inserting replaces that entry or adds one before the first greater key, so
a table built by insertion alone holds each key once and lists its keys in increasing order.
-/

namespace FormWizard

/-- Entries keyed by text. -/
abbrev Table (α : Type) := List (String × α)

namespace Table

variable {α : Type}

/-- The value of the first entry under a key. -/
def find? (key : String) : Table α → Option α
  | [] => none
  | (name, value) :: rest => if key = name then some value else find? key rest

/-- Whether some entry bears the key. -/
def hasKey (key : String) (table : Table α) : Bool :=
  (find? key table).isSome

/-- The table with the value put under the key. -/
def insert (key : String) (value : α) : Table α → Table α
  | [] => [(key, value)]
  | (name, old) :: rest =>
    if key = name then (key, value) :: rest
    else if key < name then (key, value) :: (name, old) :: rest
    else (name, old) :: insert key value rest

/-- The table of a list of entries; of two entries under one key the later one stays. -/
def ofEntries (entries : List (String × α)) : Table α :=
  entries.foldl (fun table entry => insert entry.1 entry.2 table) []

/-- The first table with every entry of the second put into it. -/
def extend (table more : Table α) : Table α :=
  more.foldl (fun table entry => insert entry.1 entry.2 table) table

/-- The keys in table order. -/
def keys (table : Table α) : List String :=
  table.map Prod.fst

/-- The value put under a key is the one found there. -/
@[simp] theorem find?_insert_self (key : String) (value : α) (table : Table α)
    : find? key (insert key value table) = some value := by
  induction table with
  | nil => simp [insert, find?]
  | cons entry rest ih =>
    obtain ⟨name, old⟩ := entry
    by_cases same : key = name
    · simp [insert, find?, same]
    · by_cases before : key < name <;> simp [insert, find?, same, before, ih]

/-- Putting a value under one key changes what is found under no other. -/
theorem find?_insert_of_ne {key other : String} (different : other ≠ key) (value : α)
    (table : Table α)
    : find? other (insert key value table) = find? other table := by
  induction table with
  | nil => simp [insert, find?, different]
  | cons entry rest ih =>
    obtain ⟨name, old⟩ := entry
    by_cases same : key = name
    · subst same
      simp [insert, find?, different]
    · by_cases before : key < name
      · simp [insert, find?, same, before, different]
      · simp [insert, find?, same, before, ih]

/-- Of the entries put into a table under one key the last one is found. -/
theorem find?_extend (key : String) (table more : Table α)
    : find? key (extend table more)
      = ((more.reverse.find? (·.1 = key)).map Prod.snd).or (find? key table) := by
  induction more generalizing table with
  | nil => rfl
  | cons entry rest ih =>
    have step : extend table (entry :: rest) = extend (insert entry.1 entry.2 table) rest := rfl
    rw [step, ih, List.reverse_cons, List.find?_append]
    cases rest.reverse.find? (·.1 = key) with
    | some later => simp
    | none =>
      by_cases same : entry.1 = key
      · subst same
        simp
      · simp [same, find?_insert_of_ne (Ne.symm same)]

/-- In a table of entries the last one under a key is found. -/
theorem find?_ofEntries (key : String) (entries : List (String × α))
    : find? key (ofEntries entries)
      = (entries.reverse.find? (·.1 = key)).map Prod.snd := by
  simpa [extend, ofEntries, find?] using find?_extend key [] entries

end Table

end FormWizard
