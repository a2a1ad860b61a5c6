import FormWizard.Proofs.DataPath.Writes

/-! Writing and reading at paths obey the laws of a lens: what was written is read back, of two
writes at one path the later one counts, and a write is not seen at paths that miss its own.
-/

namespace FormWizard.DataPath

/-- Whether a value can be put at a path does not depend on the value. -/
theorem put_ok_of_put_ok {first value result : Json} {path : DataPath}
    (h : put first path value = .ok result) (second : Json)
    : ∃ other, put second path value = .ok other := by
  induction path generalizing value result with
  | nil => exact ⟨second, rfl⟩
  | cons segment rest ih =>
      cases segment with
      | key name =>
          obtain ⟨members, inner, opened, below, -⟩ := put_key_ok_iff.mp h
          obtain ⟨other, further⟩ := ih below
          exact ⟨_, put_key_ok_iff.mpr ⟨members, other, opened, further, rfl⟩⟩
      | index position =>
          obtain ⟨items, inner, opened, below, -⟩ := put_index_ok_iff.mp h
          obtain ⟨other, further⟩ := ih below
          exact ⟨_, put_index_ok_iff.mpr ⟨items, other, opened, further, rfl⟩⟩

theorem lt_length_setItem (items : List Json) (position : Nat) (new : Json)
    : position < (setItem items position new).length := by
  have found : (setItem items position new)[position]? = some new := by
    rw [getElem?_setItem, if_pos rfl]
  exact (List.getElem?_eq_some_iff.mp found).1

/-- Once a value was put at a path, no index of the path lies beyond its array, by induction on the
path.
-/
theorem overreach?_of_put {new value result : Json} {path : DataPath}
    (h : put new path value = .ok result)
    : overreach? (some result) path = none := by
  induction path generalizing value result with
  | nil => rfl
  | cons segment rest ih =>
      cases segment with
      | key name =>
          obtain ⟨members, inner, -, below, rfl⟩ := put_key_ok_iff.mp h
          simp [overreach?, ih below]
      | index position =>
          obtain ⟨items, inner, -, below, rfl⟩ := put_index_ok_iff.mp h
          have inside := lt_length_setItem items position inner
          have reached : ¬maxGrowth ≤ position - (setItem items position inner).length := by
            rw [Nat.sub_eq_zero_of_le (Nat.le_of_lt inside)]
            decide
          have child : child? (.array (setItem items position inner)) (.index position)
              = some inner := by
            rw [child?_array_index, getElem?_setItem, if_pos rfl]
          simp only [overreach?, Option.bind_some, Json.array?, Option.getD_some, child,
            if_neg reached]
          exact ih below

/-- A value is written if the path is not empty, does not reach too far, and the value can be put
there.
-/
theorem write_eq_ok {data new result : Json} {path : DataPath} (nonempty : path ≠ [])
    (reached : overreach? (some data) path = none) (done : put new path data = .ok result)
    : write data path new = .ok result := by
  simp [write, nonempty, reached, done, Except.mapError]

/-- A write that succeeds had a path, and reached not too far. -/
theorem reached_of_write {data new result : Json} {path : DataPath}
    (h : write data path new = .ok result)
    : path ≠ [] ∧ overreach? (some data) path = none := by
  unfold write at h
  split at h
  · cases h
  · rename_i nonempty
    split at h
    · cases h
    · rename_i reached
      exact ⟨by simpa using nonempty, reached⟩

/-- Writes and reads obey the laws of a lens. What was written is read at its path. A second write
there succeeds and leaves what it leaves without the first one. A path that misses the written one
reads what it read before, or if it read nothing, nothing or a null that pads an array.
-/
theorem write_lens {data new result : Json} {path : DataPath}
    (h : write data path new = .ok result)
    : get? result path = some new
      ∧ (∀ more, ∃ final, write data path more = .ok final ∧ write result path more = .ok final)
      ∧ ∀ other, Misses path other →
        (∀ value, get? data other = some value → get? result other = some value)
        ∧ (get? data other = none → get? result other = none ∨ get? result other = some .null) := by
  have done := put_of_write h
  obtain ⟨nonempty, reached⟩ := reached_of_write h
  refine ⟨get?_put_self done, ?_, ?_⟩
  · intro more
    obtain ⟨final, alone⟩ := put_ok_of_put_ok done more
    exact ⟨final, write_eq_ok nonempty reached alone,
      write_eq_ok nonempty (overreach?_of_put done) (put_put_self done alone)⟩
  · intro other apart
    rcases get?_put_of_misses done apart with same | ⟨missing, padded⟩
    · rw [same]
      exact ⟨fun value found => found, Or.inl⟩
    · refine ⟨?_, fun _ => Or.inr padded⟩
      intro value found
      cases missing.symm.trans found

/-- A write that pads an array and creates an object in it. -/
theorem write_lens_lines
    : write (.object [("lines", .array [.ofInt 1])]) [.key "lines", .index 2, .key "qty"] (.ofInt 3)
        = .ok (.object [("lines", .array [.ofInt 1, .null, .object [("qty", .ofInt 3)]])])
      ∧ Misses [.key "lines", .index 2, .key "qty"] [.key "lines", .key "0"]
      ∧ get? (.object [("lines", .array [.ofInt 1, .null, .object [("qty", .ofInt 3)]])])
          [.key "lines", .key "0"] = some (.ofInt 1) := by
  have written : write (.object [("lines", .array [.ofInt 1])])
      [.key "lines", .index 2, .key "qty"] (.ofInt 3)
      = .ok (.object [("lines", .array [.ofInt 1, .null, .object [("qty", .ofInt 3)]])]) := rfl
  have apart : Misses [.key "lines", .index 2, .key "qty"] [.key "lines", .key "0"] :=
    .deeper _ (.here (by simp) (by simp [Aliases]; decide) _ _)
  exact ⟨written, apart, ((write_lens written).2.2 _ apart).1 (.ofInt 1) rfl⟩

end FormWizard.DataPath
