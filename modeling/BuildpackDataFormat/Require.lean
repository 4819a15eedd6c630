import BuildpackDataFormat.Toml
import Mathlib.Data.List.AList

/-!
# Requirements and BOM entries: where a version lives

A requirement (`Require`) carries its version either in `Version` or in
`Metadata["version"]`, and a BOM entry embeds a requirement. The buildpack package moves the
version between the two places and asks whether they disagree.

* `Require.convertVersionToMetadata` moves a top-level version into the metadata map, and
  `convertMetadataToVersion` copies it back as `fmt.Sprintf("%v", …)` prints it;
  `convertVersionToMetadata_roundTrip` says the move keeps every other entry, leaves no
  version on either predicate, and comes back unchanged — for `Require` and `BOMEntry`.
  The other order, `convertMetadataToVersion_convertVersionToMetadata`, turns the metadata
  version into its `%v` text: a round trip for strings only.
* `hasInconsistentVersions` compares `Version` with the metadata value as Go compares a
  `string` with an `interface{}`: equal only when the value is that same string.
  `hasInconsistentVersions_integerVersion` shows the `%v` text of an integer version
  agreeing with `Version` while the predicate still reports a mismatch.
-/

namespace Buildpack

open Toml

/-- A Go `map[string]interface{}`: at most one value per key. -/
abbrev GoMap := AList fun _ : String => Value

/-- `Require`; `metadata` is `none` for a nil map. -/
structure Require where
  name : String := ""
  version : String := ""
  metadata : Option GoMap := none

/-- `r.Metadata[key]`: a nil map holds no key. -/
def Require.metadataAt (r : Require) (key : String) : Option Value :=
  r.metadata.bind (AList.lookup key)

/-- `convertMetadataToVersion`: copy `Metadata["version"]`, printed with `%v`, into
    `Version`; the metadata entry stays. -/
def Require.convertMetadataToVersion (r : Require) : Require :=
  match r.metadataAt "version" with
  | some version => { r with version := version.sprintfV }
  | none => r

/-- `ConvertVersionToMetadata`: move a non-empty `Version` into `Metadata["version"]`,
    making the map when it is nil. -/
def Require.convertVersionToMetadata (r : Require) : Require :=
  if r.version ≠ "" then
    { r with metadata := some ((r.metadata.getD ∅).insert "version" (.string r.version)),
             version := "" }
  else r

/-- `hasDoublySpecifiedVersions`. -/
def Require.hasDoublySpecifiedVersions (r : Require) : Bool :=
  match r.metadataAt "version" with
  | some _ => r.version != ""
  | none => false

/-- `hasInconsistentVersions`: `r.Version != version` compares a `string` with an
    `interface{}`, which Go holds equal only when the value is a string and the same one. -/
def Require.hasInconsistentVersions (r : Require) : Bool :=
  match r.metadataAt "version" with
  | some version => r.version != "" && Value.string r.version != version
  | none => false

/-- `hasTopLevelVersions`. -/
def Require.hasTopLevelVersions (r : Require) : Bool := r.version != ""

/-- Modelled from the spec: `GroupElement` is declared outside src/. The spec gives the
    buildpack identity of a BOM entry as an id/version pair. -/
structure GroupElement where
  id : String := ""
  version : String := ""

/-- `BOMEntry`: a requirement together with the buildpack that reported it. -/
structure BOMEntry extends Require where
  buildpack : GroupElement := {}

/-- `BOMEntry.ConvertMetadataToVersion`: the requirement's conversion on the embedded
    `Require`. -/
def BOMEntry.convertMetadataToVersion (bom : BOMEntry) : BOMEntry :=
  { bom with toRequire := bom.toRequire.convertMetadataToVersion }

/-- `BOMEntry.convertVersionToMetadata`: the requirement's conversion on the embedded
    `Require`. -/
def BOMEntry.convertVersionToMetadata (bom : BOMEntry) : BOMEntry :=
  { bom with toRequire := bom.toRequire.convertVersionToMetadata }

-- ── One lemma per operation ────────────────────────────────────────────────────

theorem Require.metadataAt_convertVersionToMetadata (r : Require) (key : String) :
    r.convertVersionToMetadata.metadataAt key =
      if r.version ≠ "" ∧ key = "version" then some (.string r.version) else r.metadataAt key := by
  by_cases hk : key = "version"
  · subst hk
    obtain ⟨name, version, _ | m⟩ := r <;> by_cases hv : version = "" <;>
      simp [convertVersionToMetadata, metadataAt, hv, AList.lookup_insert, -AList.insert_empty]
  · obtain ⟨name, version, _ | m⟩ := r <;> by_cases hv : version = "" <;>
      simp [convertVersionToMetadata, metadataAt, hv, hk, AList.lookup_insert_ne (Ne.symm hk),
        -AList.insert_empty]

theorem Require.metadataAt_convertMetadataToVersion (r : Require) (key : String) :
    r.convertMetadataToVersion.metadataAt key = r.metadataAt key := by
  unfold convertMetadataToVersion
  cases r.metadataAt "version" <;> rfl

@[simp] theorem Require.version_convertVersionToMetadata (r : Require) :
    r.convertVersionToMetadata.version = "" := by
  unfold convertVersionToMetadata
  split <;> simp_all

theorem Require.version_convertMetadataToVersion (r : Require) :
    r.convertMetadataToVersion.version =
      ((r.metadataAt "version").map Value.sprintfV).getD r.version := by
  unfold convertMetadataToVersion
  cases r.metadataAt "version" <;> rfl

theorem Require.hasInconsistentVersions_iff (r : Require) :
    r.hasInconsistentVersions = true ↔
      ∃ m, r.metadataAt "version" = some m ∧ r.version ≠ "" ∧ m ≠ .string r.version := by
  unfold hasInconsistentVersions
  cases r.metadataAt "version" <;> simp [@eq_comm Value]

theorem Require.hasDoublySpecifiedVersions_iff (r : Require) :
    r.hasDoublySpecifiedVersions = true ↔ (r.metadataAt "version").isSome ∧ r.version ≠ "" := by
  unfold hasDoublySpecifiedVersions
  cases r.metadataAt "version" <;> simp

/-- Inconsistent versions are doubly specified. -/
theorem Require.hasDoublySpecifiedVersions_of_hasInconsistentVersions {r : Require}
    (h : r.hasInconsistentVersions = true) : r.hasDoublySpecifiedVersions = true := by
  obtain ⟨m, hm, hv, -⟩ := r.hasInconsistentVersions_iff.1 h
  simp [hasDoublySpecifiedVersions_iff, hm, hv]

/-- Doubly specified versions have a top-level version. -/
theorem Require.hasTopLevelVersions_of_hasDoublySpecifiedVersions {r : Require}
    (h : r.hasDoublySpecifiedVersions = true) : r.hasTopLevelVersions = true := by
  simpa [hasTopLevelVersions] using (r.hasDoublySpecifiedVersions_iff.1 h).2

-- ── The round trip through the metadata map ────────────────────────────────────

/-- The move of a non-empty version on a requirement, effect by effect. -/
theorem Require.convertVersionToMetadata_moves (r : Require) (hv : r.version ≠ "") :
    r.convertVersionToMetadata.metadataAt "version" = some (.string r.version) ∧
    r.convertVersionToMetadata.version = "" ∧
    (∀ key, key ≠ "version" → r.convertVersionToMetadata.metadataAt key = r.metadataAt key) ∧
    r.convertVersionToMetadata.hasTopLevelVersions = false ∧
    r.convertVersionToMetadata.hasDoublySpecifiedVersions = false ∧
    r.convertVersionToMetadata.hasInconsistentVersions = false ∧
    r.convertVersionToMetadata.convertMetadataToVersion.version = r.version := by
  have hat := r.metadataAt_convertVersionToMetadata
  refine ⟨by simp [hat, hv], by simp, fun key hk => by simp [hat, hk], ?_, ?_, ?_, ?_⟩
  · simp [hasTopLevelVersions]
  · simp [hasDoublySpecifiedVersions, hat, hv]
  · simp [hasInconsistentVersions, hat, hv]
  · simp [version_convertMetadataToVersion, hat, hv]

/-- **VERSION INTO METADATA AND BACK**: for a non-empty version, on a `Require` and on a
    `BOMEntry` alike, the move sets `Metadata["version"]`, clears `Version`, keeps every
    other entry, leaves all three predicates false, and converting back restores the
    version. -/
theorem convertVersionToMetadata_roundTrip :
    (∀ r : Require, r.version ≠ "" →
      r.convertVersionToMetadata.metadataAt "version" = some (.string r.version) ∧
      r.convertVersionToMetadata.version = "" ∧
      (∀ key, key ≠ "version" → r.convertVersionToMetadata.metadataAt key = r.metadataAt key) ∧
      r.convertVersionToMetadata.hasTopLevelVersions = false ∧
      r.convertVersionToMetadata.hasDoublySpecifiedVersions = false ∧
      r.convertVersionToMetadata.hasInconsistentVersions = false ∧
      r.convertVersionToMetadata.convertMetadataToVersion.version = r.version) ∧
    (∀ bom : BOMEntry, bom.version ≠ "" →
      bom.convertVersionToMetadata.metadataAt "version" = some (.string bom.version) ∧
      bom.convertVersionToMetadata.version = "" ∧
      (∀ key, key ≠ "version" →
        bom.convertVersionToMetadata.metadataAt key = bom.metadataAt key) ∧
      bom.convertVersionToMetadata.hasTopLevelVersions = false ∧
      bom.convertVersionToMetadata.hasDoublySpecifiedVersions = false ∧
      bom.convertVersionToMetadata.hasInconsistentVersions = false ∧
      bom.convertVersionToMetadata.convertMetadataToVersion.version = bom.version) :=
  ⟨Require.convertVersionToMetadata_moves, fun bom => bom.toRequire.convertVersionToMetadata_moves⟩

/-- A requirement on version 3.1 with no metadata: the version moves into a new metadata map
    and back. -/
theorem convertVersionToMetadata_roundTrip_ruby :
    ({ name := "ruby", version := "3.1" } : Require).version ≠ "" ∧
    ({ name := "ruby", version := "3.1" } : Require).convertVersionToMetadata.metadataAt
      "version" = some (.string "3.1") ∧
    ({ name := "ruby", version := "3.1" } : Require).convertVersionToMetadata.version = "" ∧
    (∀ key, key ≠ "version" →
      ({ name := "ruby", version := "3.1" } : Require).convertVersionToMetadata.metadataAt key =
        none) ∧
    ({ name := "ruby", version := "3.1" } : Require).convertVersionToMetadata.hasTopLevelVersions =
      false ∧
    ({ name := "ruby", version := "3.1" } : Require).convertVersionToMetadata.hasDoublySpecifiedVersions =
      false ∧
    ({ name := "ruby", version := "3.1" } : Require).convertVersionToMetadata.hasInconsistentVersions =
      false ∧
    ({ name := "ruby", version := "3.1" } : Require).convertVersionToMetadata.convertMetadataToVersion.version =
      "3.1" := by
  have h : ({ name := "ruby", version := "3.1" } : Require).version ≠ "" := by decide
  exact ⟨h, convertVersionToMetadata_roundTrip.1 _ h⟩

-- ── Metadata into version and back ─────────────────────────────────────────────

/-- The copy to `Version` and the move back into the metadata, on a requirement. -/
theorem Require.convertMetadataToVersion_then_back (r : Require) :
    r.convertMetadataToVersion.convertVersionToMetadata.version = "" ∧
    r.convertMetadataToVersion.convertVersionToMetadata.metadataAt "version" =
      (match r.metadataAt "version" with
       | some m => some (if m.sprintfV = "" then m else .string m.sprintfV)
       | none => if r.version = "" then none else some (.string r.version)) ∧
    (∀ key, key ≠ "version" →
      r.convertMetadataToVersion.convertVersionToMetadata.metadataAt key = r.metadataAt key) := by
  have hat := r.convertMetadataToVersion.metadataAt_convertVersionToMetadata
  refine ⟨by simp, ?_, fun key hk => by simp [hat, hk, metadataAt_convertMetadataToVersion]⟩
  rw [hat, version_convertMetadataToVersion, metadataAt_convertMetadataToVersion]
  cases r.metadataAt "version" with
  | none => by_cases hv : r.version = "" <;> simp [hv]
  | some m => by_cases hm : m.sprintfV = "" <;> simp [hm]

/-- **METADATA VERSION STRINGIFIED**: copying `Metadata["version"]` into `Version` and moving
    it back, on a `Require` and on a `BOMEntry` alike, leaves `Version` empty, keeps every
    other entry, and leaves in `Metadata["version"]` the `%v` text of the value that was
    there (a string stays as it was; an integer, float, array or table becomes a string),
    or the old `Version` when there was none. -/
theorem convertMetadataToVersion_convertVersionToMetadata :
    (∀ r : Require,
      r.convertMetadataToVersion.convertVersionToMetadata.version = "" ∧
      r.convertMetadataToVersion.convertVersionToMetadata.metadataAt "version" =
        (match r.metadataAt "version" with
         | some m => some (if m.sprintfV = "" then m else .string m.sprintfV)
         | none => if r.version = "" then none else some (.string r.version)) ∧
      (∀ key, key ≠ "version" →
        r.convertMetadataToVersion.convertVersionToMetadata.metadataAt key = r.metadataAt key)) ∧
    (∀ bom : BOMEntry,
      bom.convertMetadataToVersion.convertVersionToMetadata.version = "" ∧
      bom.convertMetadataToVersion.convertVersionToMetadata.metadataAt "version" =
        (match bom.metadataAt "version" with
         | some m => some (if m.sprintfV = "" then m else .string m.sprintfV)
         | none => if bom.version = "" then none else some (.string bom.version)) ∧
      (∀ key, key ≠ "version" →
        bom.convertMetadataToVersion.convertVersionToMetadata.metadataAt key =
          bom.metadataAt key) ∧
      bom.convertMetadataToVersion.convertVersionToMetadata.buildpack = bom.buildpack) :=
  ⟨Require.convertMetadataToVersion_then_back, fun bom =>
    have h := bom.toRequire.convertMetadataToVersion_then_back
    ⟨h.1, h.2.1, h.2.2, rfl⟩⟩

/-- A metadata version written as the TOML integer `2` beside `version = "2"`: `%v` prints
    the integer as `2`, the same text, yet `hasInconsistentVersions` reports a mismatch, and
    still does after `convertMetadataToVersion` has copied that text into `Version`. -/
theorem hasInconsistentVersions_integerVersion :
    (Value.integer 2).sprintfV = "2" ∧
    ({ version := "2", metadata := some ((∅ : GoMap).insert "version" (.integer 2)) } :
      Require).hasInconsistentVersions = true ∧
    ({ metadata := some ((∅ : GoMap).insert "version" (.integer 2)) } :
      Require).convertMetadataToVersion.version = "2" ∧
    ({ metadata := some ((∅ : GoMap).insert "version" (.integer 2)) } :
      Require).convertMetadataToVersion.hasInconsistentVersions = true :=
  ⟨rfl, rfl, rfl, rfl⟩

/-- **STRING VERSIONS AGREE**: with a string in `Metadata["version"]`, the comparison is the
    one the `%v` text gives: the versions are inconsistent exactly when `Version` is set and
    differs from it, and never after `convertMetadataToVersion`, which leaves the metadata
    as it was. -/
theorem hasInconsistentVersions_stringVersion (r : Require) (s : String)
    (hs : r.metadataAt "version" = some (.string s)) :
    (r.hasInconsistentVersions = true ↔ r.version ≠ "" ∧ r.version ≠ s) ∧
    r.convertMetadataToVersion.hasInconsistentVersions = false ∧
    r.convertMetadataToVersion.metadata = r.metadata := by
  have hconv : r.convertMetadataToVersion = { r with version := s } := by
    rw [Require.convertMetadataToVersion, hs]; rfl
  have hs' : ({ r with version := s } : Require).metadataAt "version" = some (.string s) := hs
  refine ⟨by simp [Require.hasInconsistentVersions_iff, hs, ne_comm], ?_, by rw [hconv]⟩
  rw [hconv, Require.hasInconsistentVersions, hs']
  simp

/-- A requirement at `1.0` whose metadata says `2.0`. -/
theorem hasInconsistentVersions_stringVersion_sample :
    ({ version := "1.0", metadata := some ((∅ : GoMap).insert "version" (.string "2.0")) } :
      Require).metadataAt "version" = some (.string "2.0") ∧
    ((({ version := "1.0", metadata := some ((∅ : GoMap).insert "version" (.string "2.0")) } :
      Require).hasInconsistentVersions = true ↔ "1.0" ≠ "" ∧ "1.0" ≠ "2.0") ∧
    ({ version := "1.0", metadata := some ((∅ : GoMap).insert "version" (.string "2.0")) } :
      Require).convertMetadataToVersion.hasInconsistentVersions = false ∧
    ({ version := "1.0", metadata := some ((∅ : GoMap).insert "version" (.string "2.0")) } :
      Require).convertMetadataToVersion.metadata =
      some ((∅ : GoMap).insert "version" (.string "2.0"))) :=
  ⟨rfl, hasInconsistentVersions_stringVersion _ "2.0" rfl⟩

end Buildpack
