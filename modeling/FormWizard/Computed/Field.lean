import FormWizard.DataPath.Segment
import FormWizard.Json.Fields

/-! Data fields that are computed from others by an expression. -/

namespace FormWizard.Computed

open Json (Document)

/-- A computed field. -/
structure Field where
  /-- Where the value is written. -/
  path : String
  /-- The source of the expression. -/
  expr : String
  /-- The paths whose values the expression is given by name. -/
  dependsOn : List String
  /-- The decimal places that a number is rounded to; below zero counts as zero. -/
  round : Option Int := none
  /-- What is written where the expression fails, instead of null. -/
  fallback : Option Json := none
  /-- Whether the engine keeps the value, where the field says so. -/
  cache : Option Bool := none
deriving DecidableEq

namespace Field

/-- The canonical spelling of the path that the field writes. -/
def target (field : Field) : String :=
  DataPath.normalize field.path

/-- The canonical spellings of the paths that the field reads. -/
def sources (field : Field) : List String :=
  field.dependsOn.map DataPath.normalize

/-- Reads a computed field. -/
def ofDocument? (document : Document) : Option Field := do
  let members ← document.members?
    ["path", "expr", "depends_on", "round", "fallback", "cache"]
  return {
    path := ← Document.required? ["path"] Document.string? members
    expr := ← Document.required? ["expr"] Document.string? members
    dependsOn :=
      ← Document.defaulted? ["depends_on", "dependsOn"] []
        (Document.list? Document.string?) members
    round :=
      ← Document.optional? ["round"] (Document.int? (-(Nat.pow 2 31)) (Nat.pow 2 31 - 1)) members
    fallback := ← Document.optional? ["fallback"] Document.toJson? members
    cache := ← Document.optional? ["cache"] Document.bool? members }

/-- The field as a JSON value. What it does not say is left out. -/
def toJson (field : Field) : Json :=
  .ofMembers <|
    [("path", .string field.path), ("expr", .string field.expr),
      ("depends_on", .array (field.dependsOn.map .string))]
    ++ field.round.elim [] (fun places => [("round", .ofInt places)])
    ++ field.fallback.elim [] (fun value => [("fallback", value)])
    ++ field.cache.elim [] (fun flag => [("cache", .bool flag)])

end Field

end FormWizard.Computed
