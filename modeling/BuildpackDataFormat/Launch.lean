import BuildpackDataFormat.Runtime
import BuildpackDataFormat.Require

/-! # launch.toml: two process shapes, one runtime process

    A buildpack's `launch.toml` lists the processes it contributes. Below buildpack API 0.9
    a process's `command` is one string and an unset `direct` means false; from 0.9 on
    `command` is a list of strings and `direct` may not be written at all, every process
    being direct. `DecodeLaunchTOML` decodes the shape of the caller's version, shims
    legacy processes into the current shape, and normalises every process;
    `ToLaunchProcess` resolves `direct` for the launcher.

    Beside the definitions, one lemma per step: the shim, each normalising loop
    (`mapM_normalizeProcess_legacy`, `mapM_normalizeProcess_current`), the decode of a
    parsed file in either shape (`decodeLaunchTOML_legacy`, `decodeLaunchTOML_current`), and
    the conversion loop. -/

namespace Buildpack

open Toml Api

-- ── The shapes and their fields ────────────────────────────────────────────────

/-- `Label`. -/
structure Label where
  key : String := ""
  value : String := ""

/-- Modelled from the spec: `layers.Slice` is declared outside src/, and the spec keeps a
    launch slice opaque; it is the TOML value written for it. -/
structure Slice where
  value : Value

/-- The fields `ProcessEntryBeforeV9` and `ProcessEntry` share, over the type `C` their
    `command` key decodes into. `command`, tagged `toml:"-"`, is never decoded: it is the
    resolved command the decode sets from `rawCommandValue`. -/
structure ProcessEntryOf (C : Type) [Inhabited C] where
  type : String := ""
  command : List String := []
  rawCommandValue : C := Inhabited.default
  args : List String := []
  direct : Option Bool := none
  default : Bool := false
  workingDirectory : String := ""

/-- `ProcessEntryBeforeV9`: `command` is one string. -/
abbrev ProcessEntryBeforeV9 := ProcessEntryOf String

/-- `ProcessEntry`: `command` is a list of strings. -/
abbrev ProcessEntry := ProcessEntryOf (List String)

/-- The fields of a process entry, its `command` key decoded by `commandValue`. -/
def ProcessEntryOf.fields [Inhabited C] (commandValue : Value → Except TomlError C) :
    List (GoField (ProcessEntryOf C)) :=
  [stringField "type" fun p s => { p with type := s },
   ⟨"command", fun p v => (fun c => { p with rawCommandValue := c }) <$> commandValue v⟩,
   sliceField "args" Value.asString (·.args) fun p a => { p with args := a },
   boolField "direct" fun p b => { p with direct := some b },
   boolField "default" fun p b => { p with default := b },
   stringField "working-dir" fun p s => { p with workingDirectory := s }]

/-- The fields of `ProcessEntryBeforeV9`. -/
def ProcessEntryBeforeV9.fields : List (GoField ProcessEntryBeforeV9) :=
  ProcessEntryOf.fields Value.asString

/-- The fields of `ProcessEntry`. -/
def ProcessEntry.fields : List (GoField ProcessEntry) :=
  ProcessEntryOf.fields (Value.asSlice Value.asString)

/-- go-toml's decode of a TOML table into a `map[string]interface{}`: a nil map is made,
    then each entry is stored in turn into the `interface{}` at its key. -/
def decodeGoMap (m : Option GoMap) (kvs : Table) : GoMap :=
  kvs.foldl (fun m kv => m.insert kv.1 (storeInterface (m.lookup kv.1) kv.2)) (m.getD ∅)

/-- The fields of `Require`. -/
def Require.fields : List (GoField Require) :=
  [stringField "name" fun r s => { r with name := s },
   stringField "version" fun r s => { r with version := s },
   ⟨"metadata", fun r v =>
     (fun kvs => { r with metadata := some (decodeGoMap r.metadata kvs) }) <$> v.asTable⟩]

/-- Modelled from the spec: the fields of `GroupElement`, its id and version. -/
def GroupElement.fields : List (GoField GroupElement) :=
  [stringField "id" fun g s => { g with id := s },
   stringField "version" fun g s => { g with version := s }]

/-- The fields of `BOMEntry`: the embedded `Require`'s, promoted, and `buildpack`. -/
def BOMEntry.fields : List (GoField BOMEntry) :=
  Require.fields.map (GoField.promote BOMEntry.toRequire fun b r => { b with toRequire := r }) ++
    [⟨"buildpack", fun b v =>
      (fun g => { b with buildpack := g }) <$> v.asStruct GroupElement.fields b.buildpack⟩]

/-- The fields of `Label`. -/
def Label.fields : List (GoField Label) :=
  [stringField "key" fun l s => { l with key := s },
   stringField "value" fun l s => { l with value := s }]

/-- The fields `LaunchTOMLBeforeV9` and `LaunchTOML` share, over their process type `P`. -/
structure LaunchTOMLOf (P : Type) where
  bom : List BOMEntry := []
  labels : List Label := []
  processes : List P := []
  slices : List Slice := []

/-- `LaunchTOML`. -/
abbrev LaunchTOML := LaunchTOMLOf ProcessEntry

/-- `LaunchTOMLBeforeV9`. -/
abbrev LaunchTOMLBeforeV9 := LaunchTOMLOf ProcessEntryBeforeV9

/-- The fields of a launch file, each process decoded by `process` from `zero`. `BOM` and
    `Labels` are untagged, so go-toml matches their keys `bom` and `labels` case-blind. -/
def LaunchTOMLOf.fields (process : List (GoField P)) (zero : P) :
    List (GoField (LaunchTOMLOf P)) :=
  [sliceField "BOM" (Value.asStruct BOMEntry.fields {}) (·.bom) fun t b => { t with bom := b },
   sliceField "Labels" (Value.asStruct Label.fields {}) (·.labels)
     fun t l => { t with labels := l },
   sliceField "processes" (Value.asStruct process zero) (·.processes)
     fun t ps => { t with processes := ps },
   sliceField "slices" (fun v => pure ⟨v⟩) (·.slices) fun t s => { t with slices := s }]

/-- The fields of `LaunchTOML`. -/
def LaunchTOML.fields : List (GoField LaunchTOML) := LaunchTOMLOf.fields ProcessEntry.fields {}

/-- The fields of `LaunchTOMLBeforeV9`. -/
def LaunchTOMLBeforeV9.fields : List (GoField LaunchTOMLBeforeV9) :=
  LaunchTOMLOf.fields ProcessEntryBeforeV9.fields {}

-- ── DecodeLaunchTOML ───────────────────────────────────────────────────────────

/-- The legacy loop's body: a `ProcessEntry` from a `ProcessEntryBeforeV9`, its command
    string made a one-element list when it is not empty. -/
def ProcessEntryBeforeV9.shim (proc : ProcessEntryBeforeV9) : ProcessEntry :=
  { args := proc.args, command := proc.command, default := proc.default,
    direct := proc.direct, type := proc.type, workingDirectory := proc.workingDirectory,
    rawCommandValue := if proc.rawCommandValue.length > 0 then [proc.rawCommandValue] else [] }

/-- One pass of the loop that normalises `launchTOML.Processes`: a legacy `direct` left unset
    becomes false, a current one that is set is an error, and `Command` is set from
    `RawCommandValue`. -/
def normalizeProcess (commandsAreStrings : Bool) (process : ProcessEntry) :
    Except CodecError ProcessEntry :=
  if commandsAreStrings then
    pure { process with direct := some (process.direct.getD false),
                        command := process.rawCommandValue }
  else if process.direct.isSome then .error .directNotSupported
  else pure { process with command := process.rawCommandValue }

/-- `DecodeLaunchTOML(launchPath, bpAPI, launchTOML)`: what `launchTOML` holds when it
    returns nil, or the error it returns. -/
def decodeLaunchTOML (fs : FileSystem) (launchPath : String) (bpAPI : Version)
    (launchTOML : LaunchTOML) : Except CodecError LaunchTOML := do
  let c ← (fs.open launchPath).mapError .os
  let commandsAreStrings := bpAPI.lessThan ⟨0, 9⟩
  let launchTOML ← if commandsAreStrings then do
      let ltb ← (c.decode (decodeStruct LaunchTOMLBeforeV9.fields {})).mapError
        (positioned "error")
      pure { launchTOML with
        bom := ltb.bom, labels := ltb.labels, slices := ltb.slices,
        processes := ltb.processes.foldl (fun ps proc => ps ++ [proc.shim]) launchTOML.processes }
    else (c.decode (decodeStruct LaunchTOML.fields launchTOML)).mapError (positioned "error")
  let processes ← launchTOML.processes.mapM (normalizeProcess commandsAreStrings)
  pure { launchTOML with processes }

-- ── ToLaunchProcess ────────────────────────────────────────────────────────────

/-- Modelled from the spec: `launch.RawCommand` is declared outside src/;
    `launch.NewRawCommand` keeps the command's entries. -/
structure RawCommand where
  entries : List String

/-- Modelled from the spec: `launch.Process`, the process descriptor the launcher runs. -/
structure Process where
  type : String
  command : RawCommand
  args : List String
  direct : Bool
  default : Bool
  buildpackID : String
  workingDirectory : String

/-- `ToLaunchProcess`: an unset `direct`, which only a current-schema entry can have, means
    direct. -/
def ProcessEntry.toLaunchProcess (p : ProcessEntry) (bpID : String) : Process :=
  { type := p.type, command := ⟨p.command⟩, args := p.args, direct := p.direct.getD true,
    default := p.default, buildpackID := bpID, workingDirectory := p.workingDirectory }

/-- `ToLaunchProcessesForBuildpack`. -/
def LaunchTOML.toLaunchProcessesForBuildpack (lt : LaunchTOML) (bpID : String) :
    List Process :=
  lt.processes.foldl (fun processes process => processes ++ [process.toLaunchProcess bpID]) []

-- ── One lemma per step ─────────────────────────────────────────────────────────

/-- The shim's command: the legacy string as a one-element list unless it is empty. -/
theorem ProcessEntryBeforeV9.shim_rawCommandValue (proc : ProcessEntryBeforeV9) :
    proc.shim.rawCommandValue =
      if proc.rawCommandValue = "" then [] else [proc.rawCommandValue] := by
  obtain ⟨_, _, ⟨_ | ⟨c, cs⟩⟩, _⟩ := proc
  · rfl
  · have hne : String.mk (c :: cs) ≠ "" := fun h => List.cons_ne_nil c cs (congrArg String.data h)
    simp [shim, hne, String.length]

/-- The legacy normalisation never fails. -/
theorem mapM_normalizeProcess_legacy (ps : List ProcessEntry) :
    ps.mapM (normalizeProcess true) =
      pure (ps.map fun p => { p with direct := some (p.direct.getD false),
                                     command := p.rawCommandValue }) := by
  induction ps with
  | nil => rfl
  | cons p rest ih => rw [List.mapM_cons, ih]; simp [normalizeProcess]

/-- The current normalisation fails exactly when some process sets `direct`. -/
theorem mapM_normalizeProcess_current (ps : List ProcessEntry) :
    ps.mapM (normalizeProcess false) =
      if ps.any (·.direct.isSome) then .error .directNotSupported
      else pure (ps.map fun p => { p with command := p.rawCommandValue }) := by
  induction ps with
  | nil => rfl
  | cons p rest ih =>
      rw [List.mapM_cons, ih]
      cases hp : p.direct with
      | some d => simp [normalizeProcess, hp]; rfl
      | none => cases hany : rest.any (·.direct.isSome) <;> simp [normalizeProcess, hp, hany]

/-- Below 0.9: the legacy shape's lists, and every process shimmed, appended to those
    `launchTOML` held, and normalised. -/
theorem decodeLaunchTOML_legacy {fs : FileSystem} {launchPath : String} {doc : Table}
    (h : fs.entry launchPath = .file (.document doc)) {bpAPI : Version}
    (hv : bpAPI.lessThan ⟨0, 9⟩ = true) (launchTOML : LaunchTOML) {ltb : LaunchTOMLBeforeV9}
    (hltb : decodeStruct LaunchTOMLBeforeV9.fields {} doc = .ok ltb) :
    decodeLaunchTOML fs launchPath bpAPI launchTOML =
      .ok { bom := ltb.bom, labels := ltb.labels, slices := ltb.slices,
            processes := (launchTOML.processes ++ ltb.processes.map ProcessEntryBeforeV9.shim).map
              fun p => { p with direct := some (p.direct.getD false),
                                command := p.rawCommandValue } } := by
  have hdec : ((Contents.document doc).decode (decodeStruct LaunchTOMLBeforeV9.fields {})).mapError
      (positioned "error") = pure ltb := by
    rw [Contents.decode, hltb]; rfl
  simp only [decodeLaunchTOML, FileSystem.mapError_open_of_entry h, pure_bind, hv, ite_true, hdec,
    foldl_append_map, mapM_normalizeProcess_legacy, map_pure]
  rfl

/-- From 0.9 on: the decode into `launchTOML`, failed when a process sets `direct`, else
    with every command resolved. -/
theorem decodeLaunchTOML_current {fs : FileSystem} {launchPath : String} {doc : Table}
    (h : fs.entry launchPath = .file (.document doc)) {bpAPI : Version}
    (hv : bpAPI.atLeast ⟨0, 9⟩ = true) (launchTOML : LaunchTOML) {t0 : LaunchTOML}
    (ht0 : decodeStruct LaunchTOML.fields launchTOML doc = .ok t0) :
    decodeLaunchTOML fs launchPath bpAPI launchTOML =
      if t0.processes.any (·.direct.isSome) then .error .directNotSupported
      else .ok { t0 with
        processes := t0.processes.map fun p => { p with command := p.rawCommandValue } } := by
  have hlt : bpAPI.lessThan ⟨0, 9⟩ = false := by simp [Version.lessThan_eq_not_atLeast, hv]
  have hdec : ((Contents.document doc).decode (decodeStruct LaunchTOML.fields launchTOML)).mapError
      (positioned "error") = pure t0 := by
    rw [Contents.decode, ht0]; rfl
  simp only [decodeLaunchTOML, FileSystem.mapError_open_of_entry h, pure_bind, hlt,
    Bool.false_eq_true, ite_false, hdec, mapM_normalizeProcess_current]
  split <;> rfl

theorem LaunchTOML.toLaunchProcessesForBuildpack_eq_map (lt : LaunchTOML) (bpID : String) :
    lt.toLaunchProcessesForBuildpack bpID = lt.processes.map (·.toLaunchProcess bpID) := by
  rw [toLaunchProcessesForBuildpack, foldl_append_map, List.nil_append]

end Buildpack
