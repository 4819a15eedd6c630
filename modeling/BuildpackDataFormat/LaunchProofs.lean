import BuildpackDataFormat.Launch

/-! # launch.toml: what a decode reads and what it leaves

    Five results about `DecodeLaunchTOML` and `ToLaunchProcessesForBuildpack`, over every
    document and every version:

    * `decodeLaunchTOML_reads` — which top-level keys fill which list, into any target: every
      key matching the field's name case-blind, in document order, an inline array replacing
      the list and each `[[k]]` header appending to it (`readLaunchTOMLOf`, bridged to
      go-toml's decode by `decodeStruct_launchTOMLOf`).
    * `decodeLaunchTOML_normalized` — what every successful decode leaves, whatever the file
      and whatever the target held before (`NormalizedLaunchTOML`).
    * `decodeLaunchTOML_legacy_target` — below 0.9 the target's processes are kept ahead of
      the file's and its other lists replaced, so decoding the same file twice lists its
      processes twice.
    * `decodeLaunchTOML_current_target` — from 0.9 on the check of `direct` covers the
      processes the target already held: a file that names no processes fails to decode
      into a target holding a process that sets it.
    * `decodeLaunchTOML_processes` — from the entries the TOML layer decodes, the decoded
      `LaunchTOML` and the runtime processes exactly, for every number of processes and
      every mix of `command` and `direct` keys. -/

namespace Buildpack

open Toml Api

-- ── What a decode reads ────────────────────────────────────────────────────────

/-- A launch file read declaratively, starting from `s`: each list takes the values under
    top-level keys matching its field (`BOM`, `Labels`, `processes`, `slices`, go-toml's
    case-blind match) in document order, an inline array replacing the list and a `[[k]]`
    header appending one element; `none` when such a value does not decode. Every other key
    is ignored. -/
def readLaunchTOMLOf (process : List (GoField P)) (zero : P) (t : Table) (s : LaunchTOMLOf P) :
    Option (LaunchTOMLOf P) := do
  let bom ← sliceAt (Value.asStruct BOMEntry.fields {}) "BOM" t s.bom
  let labels ← sliceAt (Value.asStruct Label.fields {}) "Labels" t s.labels
  let processes ← sliceAt (Value.asStruct process zero) "processes" t s.processes
  let slices ← sliceAt (fun v => pure (Slice.mk v)) "slices" t s.slices
  pure { bom, labels, processes, slices }

theorem decodeEntry_launchTOMLOf (process : List (GoField P)) (zero : P) (s : LaunchTOMLOf P)
    (k : String) (v : Value) :
    (decodeEntry (LaunchTOMLOf.fields process zero) s k v).toOption =
      if toLower k = "bom" then
        (sliceStep (Value.asStruct BOMEntry.fields {}) s.bom v).map fun b => { s with bom := b }
      else if toLower k = "labels" then
        (sliceStep (Value.asStruct Label.fields {}) s.labels v).map
          fun l => { s with labels := l }
      else if toLower k = "processes" then
        (sliceStep (Value.asStruct process zero) s.processes v).map
          fun ps => { s with processes := ps }
      else if toLower k = "slices" then
        (sliceStep (fun v => pure (Slice.mk v)) s.slices v).map fun sl => { s with slices := sl }
      else some s := by
  simp only [decodeEntry, LaunchTOMLOf.fields, List.find?, keyMatches_eq, sliceField_name,
    show toLower "BOM" = "bom" from rfl, show toLower "Labels" = "labels" from rfl,
    show toLower "processes" = "processes" from rfl, show toLower "slices" = "slices" from rfl]
  split_ifs <;> simp_all [sliceField_toOption]

/-- **BRIDGE** (launch shapes): go-toml's decode succeeds exactly when the declarative
    reading does, with the same value. -/
theorem decodeStruct_launchTOMLOf (process : List (GoField P)) (zero : P) (t : Table)
    (s : LaunchTOMLOf P) :
    (decodeStruct (LaunchTOMLOf.fields process zero) s t).toOption =
      readLaunchTOMLOf process zero t s := by
  induction t generalizing s with
  | nil => rfl
  | cons kv t ih =>
      obtain ⟨k, v⟩ := kv
      simp only [decodeStruct, toOption_bind, decodeEntry_launchTOMLOf, ih]
      simp only [readLaunchTOMLOf, sliceAt_cons,
        show toLower "BOM" = "bom" from rfl, show toLower "Labels" = "labels" from rfl,
        show toLower "processes" = "processes" from rfl, show toLower "slices" = "slices" from rfl]
      by_cases hb : toLower k = "bom"
      · cases sliceStep (Value.asStruct BOMEntry.fields {}) s.bom v <;> simp [hb]
      by_cases hl : toLower k = "labels"
      · cases sliceStep (Value.asStruct Label.fields {}) s.labels v <;> simp [hb, hl]
      by_cases hp : toLower k = "processes"
      · cases sliceStep (Value.asStruct process zero) s.processes v <;> simp [hb, hl, hp]
      by_cases hs : toLower k = "slices"
      · cases sliceStep (fun v => pure (Slice.mk v)) s.slices v <;> simp [hb, hl, hp, hs]
      · simp [hb, hl, hp, hs]

/-- A reading of a file that names no processes keeps the processes it started from. -/
theorem readLaunchTOMLOf_processes {process : List (GoField P)} {zero : P} {t : Table}
    {s r : LaunchTOMLOf P} (h : readLaunchTOMLOf process zero t s = some r)
    (hno : matching t "processes" = []) : r.processes = s.processes := by
  have hp := sliceAt_of_matching_nil (Value.asStruct process zero) "processes" hno s.processes
  simp only [readLaunchTOMLOf, hp, Option.bind_eq_bind, Option.some_bind, Option.bind_eq_some,
    Option.pure_def, Option.some.injEq] at h
  obtain ⟨_, -, _, -, _, -, rfl⟩ := h
  rfl

/-- A `LaunchTOML` as `DecodeLaunchTOML` leaves it for `bpAPI`: every command resolved from
    its raw value, and `direct` set exactly below 0.9. -/
structure NormalizedLaunchTOML (bpAPI : Version) where
  launchTOML : LaunchTOML
  command_resolved : ∀ p ∈ launchTOML.processes, p.command = p.rawCommandValue
  direct_set : ∀ p ∈ launchTOML.processes, p.direct.isSome = bpAPI.lessThan ⟨0, 9⟩

/-- From 0.9 on every runtime process of a normalised file is direct. -/
theorem NormalizedLaunchTOML.direct_of_atLeast {bpAPI : Version} (n : NormalizedLaunchTOML bpAPI)
    (hv : bpAPI.atLeast ⟨0, 9⟩ = true) (bpID : String) :
    ∀ q ∈ n.launchTOML.toLaunchProcessesForBuildpack bpID, q.direct = true := by
  have hlt : bpAPI.lessThan ⟨0, 9⟩ = false := by simp [Version.lessThan_eq_not_atLeast, hv]
  simp only [LaunchTOML.toLaunchProcessesForBuildpack_eq_map, List.mem_map]
  rintro _ ⟨p, hp, rfl⟩
  have hnone : p.direct = none := by simpa [hlt] using n.direct_set p hp
  simp [ProcessEntry.toLaunchProcess, hnone]

/-- One pass of the normalising loop leaves its process resolved, with `direct` set exactly
    for the legacy shape. -/
theorem normalizeProcess_ok {commandsAreStrings : Bool} {p q : ProcessEntry}
    (h : normalizeProcess commandsAreStrings p = .ok q) :
    q.command = q.rawCommandValue ∧ q.direct.isSome = commandsAreStrings := by
  unfold normalizeProcess at h
  split at h
  · cases h
    simp_all
  · split at h
    · cases h
    · cases h
      simp_all

/-- A successful decode is the normalising loop's result in the decoded shape. -/
theorem decodeLaunchTOML_ok {fs : FileSystem} {launchPath : String} {bpAPI : Version}
    {launchTOML t : LaunchTOML} (h : decodeLaunchTOML fs launchPath bpAPI launchTOML = .ok t) :
    ∃ lt : LaunchTOML, ∃ qs, lt.processes.mapM (normalizeProcess (bpAPI.lessThan ⟨0, 9⟩)) = .ok qs ∧
      t = { lt with processes := qs } := by
  cases hv : bpAPI.lessThan ⟨0, 9⟩ <;>
    simp only [decodeLaunchTOML, hv, bind_eq_ok, Bool.false_eq_true, if_false, if_true] at h
  · obtain ⟨_, -, lt, -, qs, hqs, ht⟩ := h
    exact ⟨lt, qs, hqs, (Except.ok.inj ht).symm⟩
  · obtain ⟨_, -, _, -, lt, -, qs, hqs, ht⟩ := h
    exact ⟨lt, qs, hqs, (Except.ok.inj ht).symm⟩

/-- **EVERY DECODE NORMALISES**: whatever the file and whatever `launchTOML` held before,
    a successful `DecodeLaunchTOML` leaves every process with its command resolved and with
    `direct` set exactly below 0.9; from 0.9 on every runtime process is then direct. -/
theorem decodeLaunchTOML_normalized {fs : FileSystem} {launchPath : String} {bpAPI : Version}
    {launchTOML t : LaunchTOML} (h : decodeLaunchTOML fs launchPath bpAPI launchTOML = .ok t) :
    (∀ p ∈ t.processes, p.command = p.rawCommandValue ∧
      p.direct.isSome = bpAPI.lessThan ⟨0, 9⟩) ∧
    (bpAPI.atLeast ⟨0, 9⟩ = true →
      ∀ bpID, ∀ q ∈ t.toLaunchProcessesForBuildpack bpID, q.direct = true) := by
  obtain ⟨lt, qs, hqs, rfl⟩ := decodeLaunchTOML_ok h
  have hpost := forall_mem_of_mapM_eq_ok (fun _ _ => normalizeProcess_ok) hqs
  let n : NormalizedLaunchTOML bpAPI :=
    ⟨{ lt with processes := qs }, fun p hp => (hpost p hp).1, fun p hp => (hpost p hp).2⟩
  exact ⟨hpost, n.direct_of_atLeast⟩

/-- A current file with one web process: the decode succeeds, normalised. -/
theorem decodeLaunchTOML_normalized_sample :
    decodeLaunchTOML ⟨fun _ => .file (.document
        [("processes", .array [.table [("type", .string "web")]])]), fun _ => none⟩
        "launch.toml" ⟨0, 9⟩ {} = .ok { processes := [{ type := "web" }] } ∧
    ((∀ p ∈ ({ processes := [{ type := "web" }] } : LaunchTOML).processes,
        p.command = p.rawCommandValue ∧ p.direct.isSome = Version.lessThan ⟨0, 9⟩ ⟨0, 9⟩) ∧
      (Version.atLeast ⟨0, 9⟩ ⟨0, 9⟩ = true → ∀ bpID, ∀ q ∈ LaunchTOML.toLaunchProcessesForBuildpack
        { processes := [{ type := "web" }] } bpID, q.direct = true)) :=
  have h : decodeLaunchTOML ⟨fun _ => .file (.document
      [("processes", .array [.table [("type", .string "web")]])]), fun _ => none⟩
      "launch.toml" ⟨0, 9⟩ {} = .ok { processes := [{ type := "web" }] } := rfl
  ⟨h, decodeLaunchTOML_normalized h⟩

-- ── Decoding into a target that already holds a file ───────────────────────────

/-- Below 0.9 the file is read into a fresh `LaunchTOMLBeforeV9`, whatever the target: one
    read serves every target, which contributes only its processes. -/
theorem decodeLaunchTOML_legacy_eq (fs : FileSystem) (launchPath : String) {bpAPI : Version}
    (hv : bpAPI.lessThan ⟨0, 9⟩ = true) :
    ∃ read : Except CodecError LaunchTOMLBeforeV9, ∀ launchTOML : LaunchTOML,
      decodeLaunchTOML fs launchPath bpAPI launchTOML =
        (fun ltb : LaunchTOMLBeforeV9 =>
          { bom := ltb.bom, labels := ltb.labels, slices := ltb.slices,
            processes := (launchTOML.processes ++ ltb.processes.map ProcessEntryBeforeV9.shim).map
              fun p => { p with direct := some (p.direct.getD false),
                                command := p.rawCommandValue } }) <$> read := by
  refine ⟨(fs.open launchPath).mapError .os >>= fun c =>
    (c.decode (decodeStruct LaunchTOMLBeforeV9.fields {})).mapError (positioned "error"), fun _ => ?_⟩
  simp only [decodeLaunchTOML, hv, ite_true, foldl_append_map, mapM_normalizeProcess_legacy]
  rcases (fs.open launchPath).mapError CodecError.os with e | c
  · rfl
  · rcases (c.decode (decodeStruct LaunchTOMLBeforeV9.fields {})).mapError (positioned "error")
      with e | ltb <;> rfl

/-- **LEGACY DECODES APPEND**: below 0.9, on every disk, a decode into any `launchTOML` is the
    decode into the zero value with `launchTOML`'s processes, normalised, put ahead; BOM,
    labels and slices are the file's. So decoding the file again into the result keeps every
    process it holds and appends the file's processes a second time. -/
theorem decodeLaunchTOML_legacy_target (fs : FileSystem) (launchPath : String)
    {bpAPI : Version} (hv : bpAPI.lessThan ⟨0, 9⟩ = true) (launchTOML : LaunchTOML) :
    decodeLaunchTOML fs launchPath bpAPI launchTOML =
      (fun t => { t with processes := launchTOML.processes.map (fun p =>
          { p with direct := some (p.direct.getD false), command := p.rawCommandValue }) ++
          t.processes }) <$> decodeLaunchTOML fs launchPath bpAPI {} ∧
    (decodeLaunchTOML fs launchPath bpAPI launchTOML >>= decodeLaunchTOML fs launchPath bpAPI) =
      (fun t => { t with processes := launchTOML.processes.map (fun p =>
          { p with direct := some (p.direct.getD false), command := p.rawCommandValue }) ++
          t.processes ++ t.processes }) <$> decodeLaunchTOML fs launchPath bpAPI {} := by
  obtain ⟨read, hread⟩ := decodeLaunchTOML_legacy_eq fs launchPath hv
  simp only [hread]
  rcases read with e | ltb
  · exact ⟨rfl, rfl⟩
  · refine ⟨by simp [Functor.map, Except.map], ?_⟩
    -- the second normalisation leaves the first's processes as they are
    simp [Functor.map, Except.map, bind, Except.bind, hread, Function.comp_def]

/-- A legacy file with a web process, decoded twice into a target holding a worker. -/
theorem decodeLaunchTOML_legacy_target_twice :
    Version.lessThan ⟨0, 8⟩ ⟨0, 9⟩ = true ∧
    (decodeLaunchTOML ⟨fun _ => .file (.document
        [("processes", .array [.table [("type", .string "web")]])]), fun _ => none⟩
        "launch.toml" ⟨0, 8⟩ { processes := [{ type := "worker" }] } >>=
      decodeLaunchTOML ⟨fun _ => .file (.document
        [("processes", .array [.table [("type", .string "web")]])]), fun _ => none⟩
        "launch.toml" ⟨0, 8⟩) =
      .ok { processes := [{ type := "worker", direct := some false },
                          { type := "web", direct := some false },
                          { type := "web", direct := some false }] } :=
  have hv : Version.lessThan ⟨0, 8⟩ ⟨0, 9⟩ = true := rfl
  ⟨hv, by rw [(decodeLaunchTOML_legacy_target _ _ hv _).2]; rfl⟩

/-- **CURRENT DECODES CHECK THE TARGET**: from 0.9 on, when the file names no processes
    (no key matches `processes`), the processes are the ones `launchTOML` held: the decode
    fails exactly when one of them sets `direct`, and otherwise resolves their commands
    beside the other lists go-toml decoded. -/
theorem decodeLaunchTOML_current_target {fs : FileSystem} {launchPath : String} {doc : Table}
    (h : fs.entry launchPath = .file (.document doc)) {bpAPI : Version}
    (hv : bpAPI.atLeast ⟨0, 9⟩ = true) (hno : matching doc "processes" = [])
    (launchTOML : LaunchTOML) {t0 : LaunchTOML}
    (ht0 : decodeStruct LaunchTOML.fields launchTOML doc = .ok t0) :
    decodeLaunchTOML fs launchPath bpAPI launchTOML =
      if launchTOML.processes.any (·.direct.isSome) then .error .directNotSupported
      else .ok { t0 with processes := launchTOML.processes.map fun p =>
        { p with command := p.rawCommandValue } } := by
  have hread := decodeStruct_launchTOMLOf ProcessEntry.fields {} doc launchTOML
  rw [← LaunchTOML.fields, ht0] at hread
  rw [decodeLaunchTOML_current h hv launchTOML ht0, readLaunchTOMLOf_processes hread.symm hno]

/-- An empty `launch.toml` decoded into a target holding a process that sets `direct`. -/
theorem decodeLaunchTOML_current_target_direct :
    decodeLaunchTOML ⟨fun _ => .file (.document []), fun _ => none⟩ "launch.toml" ⟨0, 9⟩
        { processes := [{ type := "web", direct := some true }] } = .error .directNotSupported := by
  have hv : Version.atLeast ⟨0, 9⟩ ⟨0, 9⟩ = true := rfl
  have hno : matching [] "processes" = [] := rfl
  have ht0 : decodeStruct LaunchTOML.fields { processes := [{ type := "web", direct := some true }] }
      [] = .ok { processes := [{ type := "web", direct := some true }] } := rfl
  rw [decodeLaunchTOML_current_target rfl hv hno _ ht0]
  rfl

-- ── The decode and the runtime processes, end to end ───────────────────────────

/-- **LAUNCH PROCESSES**: for a parsed `launch.toml` and the zero `LaunchTOML`. Below 0.9,
    the decode of the legacy shape gives the file's lists, each process with its command
    string as a one-element list (none when empty) and `direct` false when unset; the
    runtime processes follow in order with that `direct`. From 0.9 on, the decode fails
    exactly when a process sets `direct`; otherwise every command is kept as written and
    every runtime process is direct. -/
theorem decodeLaunchTOML_processes (fs : FileSystem) (launchPath bpID : String) (doc : Table)
    (h : fs.entry launchPath = .file (.document doc)) :
    (∀ a : Version, a.lessThan ⟨0, 9⟩ = true → ∀ ltb : LaunchTOMLBeforeV9,
      decodeStruct LaunchTOMLBeforeV9.fields {} doc = .ok ltb →
      ∃ t, decodeLaunchTOML fs launchPath a {} = .ok t ∧
        t.bom = ltb.bom ∧ t.labels = ltb.labels ∧ t.slices = ltb.slices ∧
        t.processes = ltb.processes.map (fun p =>
          { type := p.type,
            command := if p.rawCommandValue = "" then [] else [p.rawCommandValue],
            rawCommandValue := if p.rawCommandValue = "" then [] else [p.rawCommandValue],
            args := p.args, direct := some (p.direct.getD false), default := p.default,
            workingDirectory := p.workingDirectory }) ∧
        t.toLaunchProcessesForBuildpack bpID = ltb.processes.map (fun p =>
          { type := p.type,
            command := ⟨if p.rawCommandValue = "" then [] else [p.rawCommandValue]⟩,
            args := p.args, direct := p.direct.getD false, default := p.default,
            buildpackID := bpID, workingDirectory := p.workingDirectory })) ∧
    (∀ a : Version, a.atLeast ⟨0, 9⟩ = true → ∀ t0 : LaunchTOML,
      decodeStruct LaunchTOML.fields {} doc = .ok t0 →
      (decodeLaunchTOML fs launchPath a {} = .error .directNotSupported ↔
        ∃ p ∈ t0.processes, p.direct.isSome) ∧
      ((∀ p ∈ t0.processes, p.direct = none) →
        ∃ t, decodeLaunchTOML fs launchPath a {} = .ok t ∧
          t.bom = t0.bom ∧ t.labels = t0.labels ∧ t.slices = t0.slices ∧
          t.processes = t0.processes.map (fun p => { p with command := p.rawCommandValue }) ∧
          t.toLaunchProcessesForBuildpack bpID = t0.processes.map (fun p =>
            { type := p.type, command := ⟨p.rawCommandValue⟩, args := p.args, direct := true,
              default := p.default, buildpackID := bpID,
              workingDirectory := p.workingDirectory }))) := by
  constructor
  · intro a ha ltb hltb
    refine ⟨_, decodeLaunchTOML_legacy h ha {} hltb, rfl, rfl, rfl, ?_, ?_⟩
    · simp only [List.nil_append, List.map_map, ← ProcessEntryBeforeV9.shim_rawCommandValue]
      rfl
    · simp only [LaunchTOML.toLaunchProcessesForBuildpack_eq_map, List.nil_append, List.map_map,
        ← ProcessEntryBeforeV9.shim_rawCommandValue]
      rfl
  · intro a ha t0 ht0
    rw [decodeLaunchTOML_current h ha {} ht0]
    refine ⟨by split <;> simp_all, fun hnone => ?_⟩
    have hany : t0.processes.any (·.direct.isSome) = false :=
      List.any_eq_false.2 fun p hp => by simp [hnone p hp]
    refine ⟨{ t0 with
      processes := t0.processes.map fun p => { p with command := p.rawCommandValue } },
      by rw [if_neg (by simp [hany])], rfl, rfl, rfl, rfl, ?_⟩
    simp only [LaunchTOML.toLaunchProcessesForBuildpack_eq_map, List.map_map]
    exact List.map_congr_left fun p hp => by simp [ProcessEntry.toLaunchProcess, hnone p hp]

/-- A web process with neither `command` nor `direct` decodes under both shapes: below 0.9
    it runs not direct, from 0.9 on direct. -/
theorem decodeLaunchTOML_processes_web :
    (∃ t, decodeLaunchTOML ⟨fun _ => .file (.document
        [("processes", .array [.table [("type", .string "web")]])]), fun _ => none⟩
        "launch.toml" ⟨0, 8⟩ {} = .ok t ∧
      (t.toLaunchProcessesForBuildpack "bp").map (·.direct) = [false]) ∧
    (∃ t, decodeLaunchTOML ⟨fun _ => .file (.document
        [("processes", .array [.table [("type", .string "web")]])]), fun _ => none⟩
        "launch.toml" ⟨0, 9⟩ {} = .ok t ∧
      (t.toLaunchProcessesForBuildpack "bp").map (·.direct) = [true]) := by
  have hweb := decodeLaunchTOML_processes ⟨fun _ => .file (.document
    [("processes", .array [.table [("type", .string "web")]])]), fun _ => none⟩
    "launch.toml" "bp" _ rfl
  obtain ⟨t, ht, -, -, -, -, hlegacy⟩ := hweb.1 ⟨0, 8⟩ rfl _ rfl
  obtain ⟨t', ht', -, -, -, -, hcurrent⟩ := (hweb.2 ⟨0, 9⟩ rfl _ rfl).2 (by decide)
  exact ⟨⟨t, ht, by rw [hlegacy]; rfl⟩, ⟨t', ht', by rw [hcurrent]; rfl⟩⟩

/-- From 0.9 on, a process written without `direct` runs direct: `ToLaunchProcess` reads the
    unset value as true, and the false default is the legacy shape's alone. -/
theorem decodeLaunchTOML_currentDirect :
    (decodeLaunchTOML ⟨fun _ => .file (.document [("processes", .array [.table
        [("type", .string "web"), ("command", .array [.string "npm", .string "start"])]])]),
        fun _ => none⟩ "launch.toml" ⟨0, 9⟩ {}).toOption.map
      (fun t => (t.toLaunchProcessesForBuildpack "bp").map (·.direct)) = some [true] := rfl

end Buildpack
