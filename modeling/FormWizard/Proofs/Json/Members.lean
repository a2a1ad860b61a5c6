import FormWizard.Json.Fields
import FormWizard.Proofs.Tables

/-! Reading what was written. A value that was read stays the same when its tree is read again, and
the fields of an object are found in its tree as they were put there.
-/

namespace FormWizard.Json.Document

-----------------------------------------------------------------------------------------
-- Trees of values
-----------------------------------------------------------------------------------------

theorem ofMembers_eq_map (members : List (String × Json))
    : ofMembers members = members.map fun member => (some member.1, ofJson member.2) := by
  induction members with
  | nil => rfl
  | cons member rest ih => rw [ofMembers, ih, List.map_cons]

mutual

/-- Every part of the tree of a value stands for a value. -/
theorem isReadable_ofJson (value : Json) : isReadable (ofJson value) = true := by
  match value with
  | .null | .bool _ | .number _ | .string _ => rfl
  | .array items => exact areReadableItems_ofItems items
  | .object members => exact areReadableMembers_ofMembers members

theorem areReadableItems_ofItems (items : List Json) : areReadableItems (ofItems items) = true := by
  match items with
  | [] => rfl
  | item :: rest =>
      rw [ofItems, areReadableItems, isReadable_ofJson item, areReadableItems_ofItems rest]
      rfl

theorem areReadableMembers_ofMembers (members : List (String × Json))
    : areReadableMembers (ofMembers members) = true := by
  match members with
  | [] => rfl
  | (key, value) :: rest =>
      rw [ofMembers, areReadableMembers, isReadable_ofJson value,
        areReadableMembers_ofMembers rest]
      rfl

end

theorem itemsToJson?_ofItems {items : List Json}
    (h : ∀ item ∈ items, toJson? (ofJson item) = some item)
    : itemsToJson? (ofItems items) = some items := by
  induction items with
  | nil => rfl
  | cons item rest ih =>
      rw [List.forall_mem_cons] at h
      rw [ofItems, itemsToJson?, h.1, ih h.2]
      rfl

theorem membersToJson?_ofMembers {members : List (String × Json)}
    (h : ∀ member ∈ members, toJson? (ofJson member.2) = some member.2)
    : membersToJson? (ofMembers members) = some members := by
  induction members with
  | nil => rfl
  | cons member rest ih =>
      rw [List.forall_mem_cons] at h
      rw [ofMembers, membersToJson?, h.1, ih h.2]
      rfl

mutual

/-- A value that was read is read again from its tree, by mutual induction on the tree that it was
read from. Its objects are in order, so that putting their members together changes nothing.
-/
theorem toJson?_ofJson (document : Document) {value : Json} (h : toJson? document = some value)
    : toJson? (ofJson value) = some value := by
  match document with
  | .null | .bool _ | .number _ | .string _ =>
      cases h
      rfl
  | .array items =>
      obtain ⟨values, read, rfl⟩ := Option.map_eq_some_iff.mp h
      rw [ofJson, toJson?, itemsToJson?_ofItems (toJson?_ofJson_items items read)]
      rfl
  | .object members =>
      obtain ⟨entries, read, rfl⟩ := Option.map_eq_some_iff.mp h
      have inside := toJson?_ofJson_members members read
      rw [Json.ofMembers, ofJson, toJson?, membersToJson?_ofMembers fun member listed =>
        inside member (Table.mem_of_mem_ofEntries listed)]
      rw [Option.map_some, Json.ofMembers, Table.ofEntries_of_sorted (Table.sorted_ofEntries _)]
  | .unreadable => cases h

theorem toJson?_ofJson_items (items : List Document) {values : List Json}
    (h : itemsToJson? items = some values)
    : ∀ value ∈ values, toJson? (ofJson value) = some value := by
  match items with
  | [] =>
      cases h
      simp
  | item :: rest =>
      simp only [itemsToJson?, Option.bind_eq_bind, Option.bind_eq_some_iff, Option.pure_def,
        Option.some.injEq] at h
      obtain ⟨value, first, others, later, rfl⟩ := h
      exact List.forall_mem_cons.mpr
        ⟨toJson?_ofJson item first, toJson?_ofJson_items rest later⟩

theorem toJson?_ofJson_members (members : List (Option String × Document))
    {entries : List (String × Json)} (h : membersToJson? members = some entries)
    : ∀ entry ∈ entries, toJson? (ofJson entry.2) = some entry.2 := by
  match members with
  | [] =>
      cases h
      simp
  | (key?, member) :: rest =>
      simp only [membersToJson?, Option.bind_eq_bind, Option.bind_eq_some_iff, Option.pure_def,
        Option.some.injEq] at h
      obtain ⟨key, -, value, first, others, later, rfl⟩ := h
      exact List.forall_mem_cons.mpr
        ⟨toJson?_ofJson member first, toJson?_ofJson_members rest later⟩

end

-----------------------------------------------------------------------------------------
-- Objects that are written part by part
-----------------------------------------------------------------------------------------

/-- The members of an object, of which those without a value are left out. -/
def present (parts : List (String × Option Json)) : List (String × Json) :=
  parts.filterMap fun part => part.2.map fun value => (part.1, value)

/-- A list, unless it is empty. -/
def listPart (items : List Json) : Option Json :=
  if items.isEmpty then none else some (.array items)

/-- The members of the object of the parts, as they stand in its tree. -/
def written (parts : List (String × Option Json)) : Members :=
  ofMembers (Table.ofEntries (present parts))

/-- What the parts hold under any of the given names: `none` if more than one part bears one of
them, and `some none` if no part does or the one that does has no value.
-/
def part? (names : List String) (parts : List (String × Option Json)) : Option (Option Json) :=
  match parts.filter fun part => names.contains part.1 with
  | [] => some none
  | [(_, value)] => some value
  | _ => none

/-- In which order the members stand does not matter. -/
theorem field?_perm {names : List String} {members more : Members} (perm : members.Perm more)
    : field? names members = field? names more := by
  have kept := perm.filter fun member => member.1.any names.contains
  unfold field?
  revert kept
  generalize members.filter (fun member => member.1.any names.contains) = found
  generalize more.filter (fun member => member.1.any names.contains) = others
  intro kept
  match found, others, kept with
  | [], others, kept => rw [List.nil_perm.mp kept]
  | [member], others, kept => rw [List.singleton_perm.mp kept]
  | first :: second :: rest, [], kept => cases List.perm_nil.mp kept
  | first :: second :: rest, [other], kept => cases List.perm_singleton.mp kept
  | _ :: _ :: _, _ :: _ :: _, _ => rfl

theorem present_cons (part : String × Option Json) (rest : List (String × Option Json))
    : present (part :: rest) = part.2.elim [] (fun value => [(part.1, value)]) ++ present rest := by
  obtain ⟨name, value⟩ := part
  cases value <;> simp [present]

theorem nodup_present {parts : List (String × Option Json)}
    (distinct : (parts.map Prod.fst).Nodup)
    : ((present parts).map Prod.fst).Nodup := by
  refine distinct.sublist ?_
  clear distinct
  induction parts with
  | nil => exact .slnil
  | cons part rest ih =>
      obtain ⟨name, value⟩ := part
      rw [present_cons]
      cases value with
      | none => exact ih.cons name
      | some value => exact ih.cons_cons name

/-- The members under some names are written from the parts under these names. -/
theorem filter_ofMembers_present (names : List String) (parts : List (String × Option Json))
    : (ofMembers (present parts)).filter (fun member => member.1.any names.contains)
      = ofMembers (present (parts.filter fun part => names.contains part.1)) := by
  induction parts with
  | nil => rfl
  | cons part rest ih =>
      obtain ⟨name, value⟩ := part
      simp only [ofMembers_eq_map] at ih ⊢
      cases value <;> by_cases known : names.contains name <;>
        simp_all [present_cons]

/-- What is found under a name is what the part of that name holds. -/
theorem field?_written {parts : List (String × Option Json)}
    (distinct : (parts.map Prod.fst).Nodup) (names : List String) (value : Option Json)
    (h : part? names parts = some value)
    : field? names (written parts) = some (value.map ofJson) := by
  have perm : (written parts).Perm (ofMembers (present parts)) := by
    rw [written, ofMembers_eq_map, ofMembers_eq_map]
    exact (Table.perm_ofEntries (nodup_present distinct)).map _
  rw [field?_perm perm, field?, filter_ofMembers_present]
  unfold part? at h
  split at h
  · rename_i none
    cases h
    rw [none]
    rfl
  · rename_i name value single
    cases h
    rw [single]
    cases value <;> rfl
  · cases h

theorem ofJson_ofMembers (parts : List (String × Option Json))
    : ofJson (.ofMembers (present parts)) = .object (written parts) :=
  rfl

theorem members?_present (names : List String) (parts : List (String × Option Json))
    : members? names (ofJson (.ofMembers (present parts))) = some (written parts) := by
  have named : (written parts).all (·.1.isSome) = true := by
    simp [written, ofMembers_eq_map]
  rw [ofJson_ofMembers, members?, if_pos named]

-----------------------------------------------------------------------------------------
-- Writing and reading again
-----------------------------------------------------------------------------------------

variable {α : Type} {encode : α → Json} {decode : Document → Option α}

/-- Whatever is read is read again from what it is written as. -/
def RoundTrips (encode : α → Json) (decode : Document → Option α) : Prop :=
  ∀ ⦃document : Document⦄ ⦃value : α⦄, decode document = some value →
    decode (ofJson (encode value)) = some value

/-- What is written after reading stays the same when it is read and written once more. -/
theorem RoundTrips.idempotent (trips : RoundTrips encode decode) {document : Document}
    {value : Json} (h : (decode document).map encode = some value)
    : (decode (ofJson value)).map encode = some value := by
  obtain ⟨part, read, rfl⟩ := Option.map_eq_some_iff.mp h
  rw [trips read]
  rfl

theorem roundTrips_value : RoundTrips id toJson? :=
  fun document _ => toJson?_ofJson document

theorem roundTrips_string : RoundTrips .string string? :=
  fun _ _ _ => rfl

theorem roundTrips_bool : RoundTrips .bool bool? :=
  fun _ _ _ => rfl

theorem roundTrips_int (least greatest : Int) : RoundTrips .ofInt (int? least greatest) := by
  intro document value read
  unfold int? at read
  split at read
  · split at read
    · rename_i bounds
      cases read
      exact if_pos bounds
    · cases read
  · cases read

theorem mapM_restores {values : List α}
    (h : ∀ value ∈ values, decode (ofJson (encode value)) = some value)
    : (ofItems (values.map encode)).mapM decode = some values := by
  induction values with
  | nil => rfl
  | cons value rest ih =>
      rw [List.forall_mem_cons] at h
      rw [List.map_cons, ofItems, List.mapM_cons, h.1, ih h.2]
      rfl

/-- Values are read again from the tree of their list. -/
theorem list?_ofItems {values : List Json}
    (h : ∀ value ∈ values, toJson? (ofJson value) = some value)
    : list? toJson? (ofJson (.array values)) = some values := by
  have restored : (ofItems (values.map id)).mapM toJson? = some values := mapM_restores h
  rwa [List.map_id] at restored

/-- What comes of each item was read from one. -/
theorem exists_of_mapM {β : Type} {read : β → Option α} {items : List β} {values : List α}
    (h : items.mapM read = some values)
    : ∀ value ∈ values, ∃ item ∈ items, read item = some value := by
  induction items generalizing values with
  | nil =>
      cases h
      simp
  | cons item rest ih =>
      rw [List.mapM_cons] at h
      simp only [Option.bind_eq_bind, Option.bind_eq_some_iff, Option.pure_def,
        Option.some.injEq] at h
      obtain ⟨value, first, others, later, rfl⟩ := h
      refine List.forall_mem_cons.mpr ⟨⟨item, List.mem_cons_self, first⟩, fun other listed => ?_⟩
      obtain ⟨source, there, found⟩ := ih later other listed
      exact ⟨source, List.mem_cons_of_mem _ there, found⟩

theorem exists_of_list? {document : Document} {values : List α}
    (h : list? decode document = some values)
    : ∀ value ∈ values, ∃ item, decode item = some value := by
  intro value listed
  cases document with
  | array items =>
      obtain ⟨item, -, found⟩ := exists_of_mapM h value listed
      exact ⟨item, found⟩
  | _ => cases h

theorem exists_of_table? {document : Document} {table : Table α}
    (h : table? decode document = some table)
    : ∀ entry ∈ table, ∃ item, decode item = some entry.2 := by
  intro entry listed
  cases document with
  | object members =>
      simp only [table?, Option.bind_eq_bind, Option.bind_eq_some_iff, Option.pure_def,
        Option.some.injEq] at h
      obtain ⟨entries, taken, rfl⟩ := h
      obtain ⟨member, -, found⟩ := exists_of_mapM taken entry (Table.mem_of_mem_ofEntries listed)
      simp only [Option.bind_eq_some_iff, Option.some.injEq] at found
      obtain ⟨_, -, value, read, rfl⟩ := found
      exact ⟨member.2, read⟩
  | _ => cases h

theorem RoundTrips.list (trips : RoundTrips encode decode)
    : RoundTrips (fun values => .array (values.map encode)) (list? decode) := by
  intro document values read
  refine mapM_restores fun value listed => ?_
  obtain ⟨item, found⟩ := exists_of_list? read value listed
  exact trips found

/-- Tables are in order when they are read, so writing them puts nothing elsewhere. -/
theorem RoundTrips.table (trips : RoundTrips encode decode)
    : RoundTrips (fun table => .ofMembers (table.map fun entry => (entry.1, encode entry.2)))
        (table? decode) := by
  intro document table read
  have again : ∀ entry ∈ table, decode (ofJson (encode entry.2)) = some entry.2 := by
    intro entry listed
    obtain ⟨item, found⟩ := exists_of_table? read entry listed
    exact trips found
  cases document with
  | object members =>
      simp only [table?, Option.bind_eq_bind, Option.bind_eq_some_iff, Option.pure_def,
        Option.some.injEq] at read
      obtain ⟨entries, taken, rfl⟩ := read
      have sorted := Table.sorted_ofEntries entries
      generalize Table.ofEntries entries = table at sorted again
      have inOrder : (table.map fun entry => (entry.1, encode entry.2)).map Prod.fst
          = table.keys := by
        rw [List.map_map]
        rfl
      have members : (ofMembers (table.map fun entry => (entry.1, encode entry.2))).mapM
          (fun member => do return (← member.1, ← decode member.2)) = some table := by
        clear sorted inOrder
        induction table with
        | nil => rfl
        | cons entry rest ih =>
            rw [List.forall_mem_cons] at again
            rw [List.map_cons, ofMembers, List.mapM_cons, ih again.2]
            simp [again.1]
      dsimp only
      rw [Json.ofMembers, Table.ofEntries_of_sorted (by rw [Table.keys, inOrder]; exact sorted),
        ofJson, table?, members]
      exact congrArg some (Table.ofEntries_of_sorted sorted)
  | _ => cases read

/-- What cannot be read from null is not written as null. -/
theorem RoundTrips.visible (trips : RoundTrips encode decode) (refuses : decode .null = none)
    {document : Document} {value : α} (read : decode document = some value)
    (hidden : encode value = .null)
    : document = .null := by
  have again := trips read
  rw [hidden, ofJson, refuses] at again
  cases again

/-- Only null stands for null. -/
theorem eq_null_of_toJson? {document : Document} (h : toJson? document = some .null)
    : document = .null := by
  cases document with
  | null => rfl
  | _ => simp [toJson?, Json.ofMembers] at h

section Fields

variable {names : List String} {members : Members} {parts : List (String × Option Json)}

theorem exists_of_required? {value : α} (h : required? names decode members = some value)
    : ∃ document, decode document = some value := by
  simp only [required?, Option.bind_eq_bind, Option.bind_eq_some_iff] at h
  obtain ⟨_, -, document, -, read⟩ := h
  exact ⟨document, read⟩

theorem exists_of_optional? {value : α} (h : optional? names decode members = some (some value))
    : ∃ document, document ≠ .null ∧ decode document = some value := by
  simp only [optional?, Option.bind_eq_bind, Option.bind_eq_some_iff] at h
  obtain ⟨found, -, h⟩ := h
  split at h
  · cases h
  · cases h
  · rename_i document present
    simp only [Option.bind_eq_some_iff, Option.pure_def, Option.some.injEq] at h
    obtain ⟨_, read, rfl⟩ := h
    exact ⟨document, present, read⟩

theorem exists_of_defaulted? {default value : α}
    (h : defaulted? names default decode members = some value)
    : value = default ∨ ∃ document, decode document = some value := by
  simp only [defaulted?, Option.bind_eq_bind, Option.bind_eq_some_iff] at h
  obtain ⟨found, -, h⟩ := h
  split at h
  · exact .inl (Option.some.inj h).symm
  · exact .inr ⟨_, h⟩

variable (distinct : (parts.map Prod.fst).Nodup)

include distinct

/-- A field that is always written is read from what is written. -/
theorem required?_written (names : List String) (value : Json)
    (h : part? names parts = some (some value))
    : required? names decode (written parts) = decode (ofJson value) := by
  rw [required?, field?_written distinct names _ h]
  rfl

theorem defaulted?_written (names : List String) (value : Json) {default : α}
    (h : part? names parts = some (some value))
    : defaulted? names default decode (written parts) = decode (ofJson value) := by
  rw [defaulted?, field?_written distinct names _ h]
  rfl

/-- A field that was left out has its default. -/
theorem defaulted?_written_none {names : List String} {default : α}
    (h : part? names parts = some none)
    : defaulted? names default decode (written parts) = some default := by
  rw [defaulted?, field?_written distinct names _ h]
  rfl

/-- An optional field that was read is read again, if what is not null is not written as null. -/
theorem RoundTrips.optional?_written (trips : RoundTrips encode decode)
    (visible : ∀ {document value}, decode document = some value → encode value = .null →
      document = .null)
    {value? : Option α} (read : optional? names decode members = some value?)
    (h : part? names parts = some (value?.map encode))
    : optional? names decode (written parts) = some value? := by
  rw [optional?, field?_written distinct names _ h]
  cases value? with
  | none => rfl
  | some value =>
      obtain ⟨document, present, found⟩ := exists_of_optional? read
      have again := trips found
      cases encoded : encode value with
      | null => exact absurd (visible found encoded) present
      | _ =>
          rw [encoded, ofJson] at again
          simp [encoded, ofJson, again]

/-- A field with a default that was read is read again, if no value but the default is left out. -/
theorem RoundTrips.defaulted?_written (trips : RoundTrips encode decode) {default value : α}
    (keeps : decode (ofJson (encode default)) = some default)
    (read : defaulted? names default decode members = some value) {omitted : Bool}
    (omits : omitted = true → value = default)
    (h : part? names parts = some (if omitted then none else some (encode value)))
    : defaulted? names default decode (written parts) = some value := by
  rw [defaulted?, field?_written distinct names _ h]
  cases omitted with
  | true =>
      rw [omits rfl]
      rfl
  | false =>
      obtain rfl | ⟨document, found⟩ := exists_of_defaulted? read
      · exact keeps
      · exact trips found

theorem RoundTrips.defaulted?_listPart (trips : RoundTrips encode decode) {values : List α}
    (read : defaulted? names [] (list? decode) members = some values)
    (h : part? names parts = some (listPart (values.map encode)))
    : defaulted? names [] (list? decode) (written parts) = some values := by
  rw [listPart] at h
  exact trips.list.defaulted?_written distinct rfl read (by simp) h

end Fields

end FormWizard.Json.Document
