import BuildpackDataFormat.Runtime
import BuildpackDataFormat.Require

/-! # The buildpack plan and the build plan's sections

    `Plan.filter` keeps the plan entries no `Unmet` names and `Plan.toBOM` wraps each entry
    as a BOM entry; both are append loops over the entries, and `filter_entries` and
    `toBOM_eq_map` are their runs.
    `plan_filter_toBOM` composes them into a closed description of the BOM the
    buildpack reports.

    The predicates of `PlanSections` and of `PlanSectionsList` (the `or` alternatives) are
    early-return loops, that is `List.any` of the level below. `planSections_predicates`
    states each lift and carries the requirement-level chain — inconsistent versions are
    doubly specified, which are top-level, which are requirements — up both levels. -/

namespace Buildpack

/-- `Unmet`: a plan entry no buildpack met. -/
structure Unmet where
  name : String := ""

/-- `Plan`: the entries of a buildpack plan. -/
@[ext] structure Plan where
  entries : List Require := []

/-- `containsName`: whether some unmet entry carries `name`. -/
def containsName (unmet : List Unmet) (name : String) : Bool :=
  unmet.any fun u => u.name == name

/-- `filter`: the entries whose name is not unmet, appended in order to a fresh slice. -/
def Plan.filter (p : Plan) (unmet : List Unmet) : Plan :=
  { entries := p.entries.foldl
      (fun out entry => if !containsName unmet entry.name then out ++ [entry] else out) [] }

/-- `toBOM`: every entry as a BOM entry with the zero buildpack, appended in order. -/
def Plan.toBOM (p : Plan) : List BOMEntry :=
  p.entries.foldl (fun bom entry => bom ++ [{ toRequire := entry }]) []

theorem containsName_eq_false (unmet : List Unmet) (name : String) :
    containsName unmet name = false ↔ ∀ u ∈ unmet, u.name ≠ name := by
  simp [containsName]

theorem Plan.filter_entries (p : Plan) (unmet : List Unmet) :
    (p.filter unmet).entries = p.entries.filter fun entry => !containsName unmet entry.name := by
  rw [Plan.filter, foldl_append_filter, List.nil_append]

theorem Plan.toBOM_eq_map (p : Plan) :
    p.toBOM = p.entries.map fun entry => { toRequire := entry } := by
  rw [Plan.toBOM, foldl_append_map, List.nil_append]

/-- **FILTER THEN BOM**: the BOM of a filtered plan keeps, in order and with their
    multiplicities, the entries whose name no unmet entry carries, each with the zero
    buildpack. -/
theorem plan_filter_toBOM (p : Plan) (unmet : List Unmet) :
    (p.filter unmet).toBOM =
      (p.entries.filter fun entry => decide (∀ u ∈ unmet, u.name ≠ entry.name)).map
        fun entry => { toRequire := entry, buildpack := {} } := by
  have hkeep : ∀ entry : Require,
      (!containsName unmet entry.name) = decide (∀ u ∈ unmet, u.name ≠ entry.name) := by
    intro entry
    simp [← containsName_eq_false]
  rw [Plan.toBOM_eq_map, Plan.filter_entries]
  simp only [hkeep]

/-- **FILTERS COMPOSE**: filtering by one unmet list and then another is filtering once by
    both. -/
theorem plan_filter_filter (p : Plan) (unmet unmet' : List Unmet) :
    (p.filter unmet).filter unmet' = p.filter (unmet ++ unmet') := by
  ext1
  simp only [Plan.filter_entries, List.filter_filter, containsName, List.any_append,
    Bool.not_or, Bool.and_comm]

-- ── The plan sections ──────────────────────────────────────────────────────────

/-- `PlanSections`: what one build-plan section requires. -/
structure PlanSections where
  requires : List Require := []

/-- `hasInconsistentVersions` of a section. -/
def PlanSections.hasInconsistentVersions (p : PlanSections) : Bool :=
  p.requires.any Require.hasInconsistentVersions

/-- `hasDoublySpecifiedVersions` of a section. -/
def PlanSections.hasDoublySpecifiedVersions (p : PlanSections) : Bool :=
  p.requires.any Require.hasDoublySpecifiedVersions

/-- `hasTopLevelVersions` of a section. -/
def PlanSections.hasTopLevelVersions (p : PlanSections) : Bool :=
  p.requires.any Require.hasTopLevelVersions

/-- `hasRequires`: `len(p.Requires) > 0`. -/
def PlanSections.hasRequires (p : PlanSections) : Bool := decide (p.requires.length > 0)

/-- `planSectionsList`: the `or` alternatives of a build plan. -/
abbrev PlanSectionsList := List PlanSections

/-- `hasInconsistentVersions` of the alternatives. -/
def PlanSectionsList.hasInconsistentVersions (p : PlanSectionsList) : Bool :=
  p.any PlanSections.hasInconsistentVersions

/-- `hasDoublySpecifiedVersions` of the alternatives. -/
def PlanSectionsList.hasDoublySpecifiedVersions (p : PlanSectionsList) : Bool :=
  p.any PlanSections.hasDoublySpecifiedVersions

/-- `hasTopLevelVersions` of the alternatives. -/
def PlanSectionsList.hasTopLevelVersions (p : PlanSectionsList) : Bool :=
  p.any PlanSections.hasTopLevelVersions

/-- `hasRequires` of the alternatives. -/
def PlanSectionsList.hasRequires (p : PlanSectionsList) : Bool :=
  p.any PlanSections.hasRequires

/-- An implication between two element predicates lifts through an early-return loop. -/
theorem any_of_any_imp {α : Type} {p q : α → Bool} (hpq : ∀ a, p a = true → q a = true)
    {l : List α} (h : l.any p = true) : l.any q = true := by
  obtain ⟨a, ha, hp⟩ := List.any_eq_true.1 h
  exact List.any_eq_true.2 ⟨a, ha, hpq a hp⟩

/-- A section with inconsistent versions has doubly specified ones. -/
theorem PlanSections.hasDoublySpecifiedVersions_of_hasInconsistentVersions {s : PlanSections}
    (h : s.hasInconsistentVersions = true) : s.hasDoublySpecifiedVersions = true :=
  any_of_any_imp (fun _ => Require.hasDoublySpecifiedVersions_of_hasInconsistentVersions) h

/-- A section with doubly specified versions has top-level ones. -/
theorem PlanSections.hasTopLevelVersions_of_hasDoublySpecifiedVersions {s : PlanSections}
    (h : s.hasDoublySpecifiedVersions = true) : s.hasTopLevelVersions = true :=
  any_of_any_imp (fun _ => Require.hasTopLevelVersions_of_hasDoublySpecifiedVersions) h

/-- A top-level version is a requirement. -/
theorem PlanSections.hasRequires_of_hasTopLevelVersions {s : PlanSections}
    (h : s.hasTopLevelVersions = true) : s.hasRequires = true := by
  obtain ⟨r, hr, -⟩ := List.any_eq_true.1 h
  simpa [hasRequires] using List.length_pos_of_mem hr

/-- **THE PREDICATES LIFT EXISTENTIALLY**: each section predicate asks whether some
    requirement satisfies it (`hasRequires`: whether there is one), each list predicate
    whether some section does, and the chain inconsistent → doubly specified → top level
    (→ has requires) holds at all three levels. -/
theorem planSections_predicates :
    (∀ s : PlanSections,
      (s.hasInconsistentVersions = true ↔ ∃ r ∈ s.requires, r.hasInconsistentVersions = true) ∧
      (s.hasDoublySpecifiedVersions = true ↔
        ∃ r ∈ s.requires, r.hasDoublySpecifiedVersions = true) ∧
      (s.hasTopLevelVersions = true ↔ ∃ r ∈ s.requires, r.hasTopLevelVersions = true) ∧
      (s.hasRequires = true ↔ s.requires ≠ [])) ∧
    (∀ l : PlanSectionsList,
      (l.hasInconsistentVersions = true ↔ ∃ s ∈ l, s.hasInconsistentVersions = true) ∧
      (l.hasDoublySpecifiedVersions = true ↔ ∃ s ∈ l, s.hasDoublySpecifiedVersions = true) ∧
      (l.hasTopLevelVersions = true ↔ ∃ s ∈ l, s.hasTopLevelVersions = true) ∧
      (l.hasRequires = true ↔ ∃ s ∈ l, s.hasRequires = true)) ∧
    (∀ r : Require,
      (r.hasInconsistentVersions = true → r.hasDoublySpecifiedVersions = true) ∧
      (r.hasDoublySpecifiedVersions = true → r.hasTopLevelVersions = true)) ∧
    (∀ s : PlanSections,
      (s.hasInconsistentVersions = true → s.hasDoublySpecifiedVersions = true) ∧
      (s.hasDoublySpecifiedVersions = true → s.hasTopLevelVersions = true) ∧
      (s.hasTopLevelVersions = true → s.hasRequires = true)) ∧
    (∀ l : PlanSectionsList,
      (l.hasInconsistentVersions = true → l.hasDoublySpecifiedVersions = true) ∧
      (l.hasDoublySpecifiedVersions = true → l.hasTopLevelVersions = true) ∧
      (l.hasTopLevelVersions = true → l.hasRequires = true)) := by
  refine ⟨fun s => ?_, fun l => ?_,
    fun _ => ⟨Require.hasDoublySpecifiedVersions_of_hasInconsistentVersions,
      Require.hasTopLevelVersions_of_hasDoublySpecifiedVersions⟩,
    fun _ => ⟨PlanSections.hasDoublySpecifiedVersions_of_hasInconsistentVersions,
      PlanSections.hasTopLevelVersions_of_hasDoublySpecifiedVersions,
      PlanSections.hasRequires_of_hasTopLevelVersions⟩,
    fun _ =>
      ⟨any_of_any_imp fun _ => PlanSections.hasDoublySpecifiedVersions_of_hasInconsistentVersions,
        any_of_any_imp fun _ => PlanSections.hasTopLevelVersions_of_hasDoublySpecifiedVersions,
        any_of_any_imp fun _ => PlanSections.hasRequires_of_hasTopLevelVersions⟩⟩
  · simp [PlanSections.hasInconsistentVersions, PlanSections.hasDoublySpecifiedVersions,
      PlanSections.hasTopLevelVersions, PlanSections.hasRequires, List.length_pos]
  · simp [PlanSectionsList.hasInconsistentVersions, PlanSectionsList.hasDoublySpecifiedVersions,
      PlanSectionsList.hasTopLevelVersions, PlanSectionsList.hasRequires]

end Buildpack
