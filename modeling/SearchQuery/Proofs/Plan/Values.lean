import SearchQuery.Proofs.Plan.Fields

/-!
# Values in plans

A condition on numbers, dates, figures or addresses is made of what a query asks of a field, and
what is asked has passed its check by then (`Query.compile_denotes`).
-/

set_option autoImplicit false
namespace SearchQuery

/-- The condition on the values of a field that stands for a criterion without faults. -/
inductive Criterion.Denotes (t : Target) (field : String) : Criterion → Condition → Prop
  | numbers {b : Bounds Float} (checked : b.checkNumeric = .ok ()) :
    Denotes t field (.numericRange b) (.numericRange field b.interval)
  | dates {b : Bounds String} {parser : Option String} {layouts : Option (List String)}
      {dates : Bounds Calendar.Instant} (known : t.layouts parser = .ok layouts)
      (read : b.dates layouts = .ok dates) :
    Denotes t field (.dateRange b parser) (.dateRange field dates.interval)
  | box {topLeft bottomRight : Geo.Point} (checked : Geo.checkBox topLeft bottomRight = .ok ()) :
    Denotes t field (.geoBox topLeft bottomRight) (.geoBox field topLeft bottomRight)
  | disk {center : Geo.Point} {distance : String} {meters : Float}
      (read : checkDisk center distance = .ok meters) :
    Denotes t field (.geoDistance center distance) (.geoDistance field center meters)
  | polygon {points : List Geo.Point} (checked : Geo.checkPolygonPoints points = .ok ()) :
    Denotes t field (.geoPolygon points) (.geoPolygon field points)
  | shape {shape : Geo.Shape} {relation : Geo.Relation} (checked : shape.check = .ok ()) :
    Denotes t field (.geoShape shape relation) (.geoShape field shape relation)
  | network {written : String} {block : Network.Block} (read : blockOf written = .ok block) :
    Denotes t field (.network written) (.network field block)

theorem valid_eq_ok {α : Type} {r : Except Violation α} {a : α} : valid r = .ok a ↔ r = .ok a :=
  mapError_eq_ok

theorem checked_eq_ok {α : Type} {t : Target} {kind : Kind} {field : String} {type : FieldType}
    {r : Except Violation α} {plan : α → Plan} {p : Plan} :
    (do
      let x ← valid r
      t.checkField kind field type
      return plan x) = .ok p ↔ ∃ x, r = .ok x ∧ t.mapping.Admits field type ∧ plan x = p := by
  rw [bind_eq_ok]
  simp only [bind_unit_eq_ok, valid_eq_ok, Target.checkField_eq_ok, pure_eq_ok]

theorem Criterion.lower_denotes {t : Target} {field : String} {boost : Option Float}
    {c : Criterion} {p n : Plan} (h : c.lower t field boost = .ok p) (node : p.HasNode n)
    {d : Condition} (leaf : n.condition? = some d) {kind : Kind} {type : FieldType}
    (typed : d.typed? = some (kind, type)) : c.Denotes t field d := by
  obtain ⟨rfl, same, -, -⟩ := (lower_plansOn h).of_typed node leaf typed
  cases c with
  | numericRange b =>
    obtain ⟨_, checked, -, rfl⟩ := checked_eq_ok.1 h
    cases leaf
    exact .numbers checked
  | dateRange b parser =>
    -- Here the field is checked first, and the parser has to be known.
    obtain ⟨_, -, h⟩ := bind_eq_ok.1 h
    obtain ⟨layouts, known, h⟩ := bind_eq_ok.1 h
    obtain ⟨dates, read, h⟩ := bind_eq_ok.1 h
    cases h
    cases leaf
    exact .dates known (valid_eq_ok.1 read)
  | geoBox topLeft bottomRight =>
    obtain ⟨_, checked, -, rfl⟩ := checked_eq_ok.1 h
    cases leaf
    exact .box (mapError_eq_ok.1 checked)
  | geoDistance center distance =>
    obtain ⟨meters, read, -, rfl⟩ := checked_eq_ok.1 h
    cases leaf
    exact .disk read
  | geoPolygon points =>
    obtain ⟨_, checked, -, rfl⟩ := checked_eq_ok.1 h
    cases leaf
    exact .polygon (mapError_eq_ok.1 checked)
  | geoShape shape relation =>
    obtain ⟨_, checked, -, rfl⟩ := checked_eq_ok.1 h
    cases leaf
    exact .shape (mapError_eq_ok.1 checked)
  | network written =>
    obtain ⟨block, read, -, rfl⟩ := checked_eq_ok.1 h
    cases leaf
    exact .network read
  | _ =>
    -- No condition on values is of the kind of a query for terms.
    cases d <;> cases typed <;> cases same

theorem Criterion.Denotes.lower {t : Target} {field : String} {c : Criterion} {d : Condition}
    (h : c.Denotes t field d) {kind : Kind} {type : FieldType}
    (typed : d.typed? = some (kind, type)) (admitted : t.mapping.Admits field type)
    (boost : Option Float) : c.lower t field boost = .ok (.ofCondition d boost t.options) := by
  cases h with
  | numbers checked =>
    cases typed
    exact checked_eq_ok.2 ⟨(), checked, admitted, rfl⟩
  | dates known read =>
    cases typed
    exact bind_eq_ok.2 ⟨(), Target.checkField_eq_ok.2 admitted, bind_eq_ok.2 ⟨_, known,
      bind_eq_ok.2 ⟨_, valid_eq_ok.2 read, rfl⟩⟩⟩
  | box checked | polygon checked | shape checked =>
    cases typed
    exact checked_eq_ok.2 ⟨(), mapError_eq_ok.2 checked, admitted, rfl⟩
  | disk read | network read =>
    cases typed
    exact checked_eq_ok.2 ⟨_, read, admitted, rfl⟩

/-- A condition on typed values stands for something that the query asks of its field. -/
theorem Query.compile_denotes {context : Context} {t : Target} {q : Query} {p n : Plan}
    (h : q.compile context t = .ok p) (node : p.HasNode n) {d : Condition}
    (leaf : n.condition? = some d) {kind : Kind} {type : FieldType}
    (typed : d.typed? = some (kind, type)) :
    ∃ c field boost, q.Asks c field boost ∧ c.Denotes t (t.resolve field) d := by
  have named : n.field? ≠ none := by
    rw [Plan.field?, leaf]
    exact Condition.field?_of_typed typed
  obtain ⟨c, field, boost, r, asks, lowered, inner⟩ :=
    lower_origin (compile_eq_ok.1 h).2 node named
  exact ⟨c, field, boost, asks, Criterion.lower_denotes lowered inner leaf typed⟩

end SearchQuery
