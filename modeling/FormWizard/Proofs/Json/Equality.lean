import FormWizard.Json.Coercion
import FormWizard.Proofs.Binary64.WholeNumbers

/-! Equality of values whose numbers are whole. Inside arrays and objects it is exact. Two numbers
on their own are compared as doubles, so from `2 ^ 53` on different ones can count as equal.
-/

namespace FormWizard.Json

open Binary64 (ofInt_beq_iff rounded rounded_of_lt le_natAbs_rounded)

/-- Values in which every number is a whole number of a machine word, signed or not. -/
inductive IsWhole : Json → Prop
  | null : IsWhole .null
  | bool (value : Bool) : IsWhole (.bool value)
  | number {n : ℤ} (least : -2 ^ 63 ≤ n) (most : n < 2 ^ 64) : IsWhole (.ofInt n)
  | string (value : String) : IsWhole (.string value)
  | array {items : List Json} (h : ∀ item ∈ items, IsWhole item) : IsWhole (.array items)
  | object {members : Table Json} (h : ∀ member ∈ members, IsWhole member.2)
    : IsWhole (.object members)

-----------------------------------------------------------------------------------------
-- Inside a value
-----------------------------------------------------------------------------------------

theorem sameItems_iff {left right : List Json}
    (exact : ∀ item ∈ left, ∀ other ∈ right, item.same other = true ↔ item = other)
    : sameItems left right = true ↔ left = right := by
  induction left generalizing right with
  | nil => cases right <;> simp [sameItems]
  | cons item left ih =>
      cases right with
      | nil => simp [sameItems]
      | cons other right =>
          rw [sameItems, Bool.and_eq_true, exact item (by simp) other (by simp), ih fun i m o m' =>
            exact i (List.mem_cons_of_mem _ m) o (List.mem_cons_of_mem _ m'), List.cons.injEq]

theorem sameMembers_iff {left right : List (String × Json)}
    (exact : ∀ member ∈ left, ∀ other ∈ right, member.2.same other.2 = true ↔ member.2 = other.2)
    : sameMembers left right = true ↔ left = right := by
  induction left generalizing right with
  | nil => cases right <;> simp [sameMembers]
  | cons member left ih =>
      cases right with
      | nil => simp [sameMembers]
      | cons other right =>
          obtain ⟨name, value⟩ := member
          obtain ⟨otherName, otherValue⟩ := other
          have head := exact (name, value) (by simp) (otherName, otherValue) (by simp)
          have tail := @ih right fun i m o m' =>
            exact i (List.mem_cons_of_mem _ m) o (List.mem_cons_of_mem _ m')
          simp only at head
          rw [sameMembers, Bool.and_eq_true, Bool.and_eq_true, head, tail, beq_iff_eq,
            List.cons.injEq, Prod.mk.injEq]

/-- Comparing JSON values without doubles is exact. Witness: induction on the left value. -/
theorem IsWhole.same_iff {left right : Json} (whole : left.IsWhole) (otherWhole : right.IsWhole)
    : left.same right = true ↔ left = right := by
  induction whole generalizing right with
  | null => cases otherWhole <;> simp [same, ofInt]
  | bool value => cases otherWhole <;> simp [same, ofInt]
  | number least most => cases otherWhole <;> simp [same, ofInt, Number.same]
  | string value => cases otherWhole <;> simp [same, ofInt]
  | array whole ih =>
      cases otherWhole with
      | array others =>
          rw [same, sameItems_iff fun item member other otherMember =>
            ih item member (others other otherMember), array.injEq]
      | _ => simp [same, ofInt]
  | object whole ih =>
      cases otherWhole with
      | object others =>
          rw [same, sameMembers_iff fun member inside other otherInside =>
            ih member inside (others other otherInside), object.injEq]
      | _ => simp [same, ofInt]

-----------------------------------------------------------------------------------------
-- Values on their own
-----------------------------------------------------------------------------------------

theorem IsWhole.natAbs_lt {n : ℤ} (whole : IsWhole (.ofInt n)) : n.natAbs < 2 ^ 64 := by
  cases whole
  omega

/-- Below `2 ^ 53` no other number is rounded alike. -/
theorem rounded_eq_iff {m n : ℤ} (small : m.natAbs < 2 ^ 53) : rounded m = rounded n ↔ m = n := by
  rw [rounded_of_lt small]
  rcases Nat.lt_or_ge n.natAbs (2 ^ 53) with otherSmall | large
  · rw [rounded_of_lt otherSmall]
  · have far := le_natAbs_rounded large
    constructor
    · rintro rfl
      omega
    · rintro rfl
      omega

/-- Two numbers on their own are equal if they are rounded alike. -/
theorem IsWhole.equals_ofInt_iff {m n : ℤ} (whole : IsWhole (.ofInt m))
    (otherWhole : IsWhole (.ofInt n))
    : (ofInt m).equals (ofInt n) = true ↔ rounded m = rounded n :=
  ofInt_beq_iff whole.natAbs_lt otherWhole.natAbs_lt

/-- All else is compared without doubles. -/
theorem IsWhole.equals_eq_same {left right : Json} (whole : left.IsWhole)
    (otherWhole : right.IsWhole) (unlike : ¬∃ m n, left = .ofInt m ∧ right = .ofInt n)
    : left.equals right = left.same right := by
  cases whole with
  | number least most =>
      cases otherWhole with
      | number otherLeast otherMost => exact (unlike ⟨_, _, rfl, rfl⟩).elim
      | _ => rfl
  | _ => rfl

/-- Values whose numbers are whole count as equal if they are the same, and if they are numbers that
round to the same fifty-three binary digits. So equality is exact unless it compares two numbers
that both have a size of `2 ^ 53` or more.
-/
theorem equals_of_isWhole {left right : Json} (whole : left.IsWhole) (otherWhole : right.IsWhole)
    : (left.equals right = true
        ↔ left = right ∨ ∃ m n, left = .ofInt m ∧ right = .ofInt n ∧ rounded m = rounded n)
      ∧ ((∀ m n, left = .ofInt m → right = .ofInt n → m.natAbs < 2 ^ 53 ∨ n.natAbs < 2 ^ 53) →
        (left.equals right = true ↔ left = right)) := by
  by_cases numbers : ∃ m n, left = .ofInt m ∧ right = .ofInt n
  · obtain ⟨m, n, rfl, rfl⟩ := numbers
    rw [whole.equals_ofInt_iff otherWhole]
    constructor
    · constructor
      · intro alike
        exact .inr ⟨m, n, rfl, rfl, alike⟩
      · rintro (same | ⟨m, n, ⟨⟩, ⟨⟩, alike⟩)
        · cases same
          rfl
        · exact alike
    · intro small
      have injective : ofInt m = ofInt n ↔ m = n := by simp [ofInt]
      rw [injective]
      rcases small m n rfl rfl with small | small
      · exact rounded_eq_iff small
      · rw [eq_comm, rounded_eq_iff small, eq_comm]
  · rw [whole.equals_eq_same otherWhole numbers, whole.same_iff otherWhole]
    refine ⟨(or_iff_left ?_).symm, fun _ => Iff.rfl⟩
    rintro ⟨m, n, first, second, -⟩
    exact numbers ⟨m, n, first, second⟩

/-- Numbers that have different doubles, and items that have the same one. -/
theorem equals_of_isWhole_apart
    : equals (.ofInt 9007199254740993) (.ofInt 9007199254740994) = false
      ∧ equals (.array [.ofInt 9007199254740992]) (.array [.ofInt 9007199254740993]) = false := by
  have whole (n : ℤ) (least : -2 ^ 63 ≤ n) (most : n < 2 ^ 64) : IsWhole (.array [.ofInt n]) := by
    refine .array fun item member => ?_
    rw [List.mem_singleton.mp member]
    exact .number least most
  constructor
  · rw [Bool.eq_false_iff, Ne, (equals_of_isWhole (.number (by decide) (by decide))
      (.number (by decide) (by decide))).1]
    rintro (same | ⟨m, n, first, second, alike⟩)
    · cases same
    · cases first
      cases second
      exact absurd alike (by decide)
  · rw [Bool.eq_false_iff, Ne, (equals_of_isWhole (whole _ (by decide) (by decide))
      (whole _ (by decide) (by decide))).2 (by rintro m n ⟨⟩)]
    decide

/-- Two numbers that count as equal and are not the same. -/
theorem not_equals_exact
    : IsWhole (.ofInt 9007199254740992) ∧ IsWhole (.ofInt 9007199254740993)
      ∧ equals (.ofInt 9007199254740992) (.ofInt 9007199254740993) = true
      ∧ ofInt 9007199254740992 ≠ ofInt 9007199254740993 :=
  ⟨.number (by decide) (by decide), .number (by decide) (by decide), by decide, by decide⟩

end FormWizard.Json
