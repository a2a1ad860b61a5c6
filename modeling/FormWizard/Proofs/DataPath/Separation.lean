import FormWizard.Proofs.DataPath.Spelling
import FormWizard.Proofs.DataPath.Writes

/-! Paths that are written and read side by side. As long as their keys are clean and none of them
leads into another, two of them are either spelled alike or have nothing to do with each other.
-/

namespace FormWizard.DataPath

/-- A key that the canonical spelling can hold and that cannot be taken for an index. -/
structure IsCleanKey (name : String) : Prop extends IsPlainKey name where
  noIndex : Text.natural? name.toList = none

instance (name : String) : Decidable (IsCleanKey name) :=
  decidable_of_iff (IsPlainKey name ∧ Text.natural? name.toList = none)
    ⟨fun ⟨plain, noIndex⟩ => ⟨plain, noIndex⟩, fun h => ⟨h.toIsPlainKey, h.noIndex⟩⟩

/-- A segment that holds no key, or a clean one. -/
def IsClean : Segment → Prop
  | .key name => IsCleanKey name
  | .index _ => True

instance (segment : Segment) : Decidable (IsClean segment) :=
  match segment with
  | .key name => inferInstanceAs (Decidable (IsCleanKey name))
  | .index _ => isTrue trivial

/-- All keys of the paths are clean, and no path leads into another one. -/
structure Tidy (paths : List String) : Prop where
  clean : ∀ path ∈ paths, ∀ segment ∈ ofText path, IsClean segment
  prefixFree : ∀ path ∈ paths, ∀ other ∈ paths,
    ofText path <+: ofText other → ofText path = ofText other

instance (paths : List String) : Decidable (Tidy paths) :=
  decidable_of_iff
    ((∀ path ∈ paths, ∀ segment ∈ ofText path, IsClean segment)
      ∧ ∀ path ∈ paths, ∀ other ∈ paths,
        ofText path <+: ofText other → ofText path = ofText other)
    ⟨fun ⟨clean, prefixFree⟩ => ⟨clean, prefixFree⟩, fun h => ⟨h.clean, h.prefixFree⟩⟩

namespace Tidy

variable {paths : List String} {path other : String}

theorem mono {more : List String} (h : Tidy more) (sub : paths ⊆ more) : Tidy paths where
  clean := fun path member => h.clean path (sub member)
  prefixFree := fun path member other another =>
    h.prefixFree path (sub member) other (sub another)

/-- A tidy path and its canonical spelling have the same segments. -/
theorem ofText_normalize (h : Tidy paths) (member : path ∈ paths)
    : ofText (normalize path) = ofText path :=
  DataPath.ofText_normalize fun name key => (h.clean path member (.key name) key).toIsPlainKey

/-- Tidy paths that are spelled differently part. -/
theorem diverge (h : Tidy paths) (member : path ∈ paths) (another : other ∈ paths)
    (different : normalize path ≠ normalize other)
    : Diverge (ofText (normalize path)) (ofText (normalize other)) := by
  rw [h.ofText_normalize member, h.ofText_normalize another]
  have apart : ofText path ≠ ofText other := fun same => different (by simp [normalize, same])
  refine diverge_of_not_prefix (fun leads => apart ?_) (fun leads => apart ?_)
  · exact h.prefixFree path member other another leads
  · exact (h.prefixFree other another path member leads).symm

/-- A write at one of two tidy paths that are spelled differently misses the other. -/
theorem misses (h : Tidy paths) (member : path ∈ paths) (another : other ∈ paths)
    (different : normalize path ≠ normalize other)
    : Misses (ofText (normalize path)) (ofText (normalize other)) := by
  have apart := h.diverge member another different
  have plain (name : String) (key : .key name ∈ ofText (normalize other))
      : Text.natural? name.toList = none := by
    rw [h.ofText_normalize another] at key
    exact (h.clean other another (.key name) key).noIndex
  exact Diverge.misses apart plain

end Tidy

end FormWizard.DataPath
