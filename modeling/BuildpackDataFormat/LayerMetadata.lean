import BuildpackDataFormat.Runtime

/-!
# Layer metadata files: two encoder/decoders behind one version gate

`layermetadata.go`. A layer's metadata file has two shapes: the legacy one (below buildpack
API 0.6) keeps the `build`, `launch` and `cache` flags at the top level beside `metadata`;
the default one (0.6 on) reads them from a `types` table and never writes them. Both
decoders first scan the top-level keys (`typesInTopLevel`) for the other shape's keys and
return an advisory when they find one.

* `encodeLayerMetadataFile`, `decodeLayerMetadataFile` run the first strategy of
  `supportedEncoderDecoders` whose `isSupported` accepts the API version.
* `find?_supportedEncoderDecoders`: that strategy is always found — the legacy one below
  0.6, the default one from 0.6 — so neither "couldn't find" error is ever returned
  (`encodeLayerMetadataFile_ne_noEncoder`, `decodeLayerMetadataFile_ne_noDecoder`).
* `encodeLayerMetadataFile_eq`, `decodeLayerMetadataFile_eq`: each entry point is the
  selected strategy's method, which later proofs cite instead of unfolding the loop.
-/

namespace Buildpack

open Toml Api

/-- A layer's metadata: `Data` (`toml:"metadata"`, `nil` as `none`) and the three flags. -/
structure LayerMetadataFile where
  data : Option Value := none
  build : Bool := false
  launch : Bool := false
  cache : Bool := false
  deriving DecidableEq

/-- go-toml's view of `LayerMetadataFile`, the shape the legacy strategy reads: `Data` is an
    `interface{}`. -/
def LayerMetadataFile.fields : List (GoField LayerMetadataFile) :=
  [⟨"metadata", fun l v => pure { l with data := some (storeInterface l.data v) }⟩,
   boolField "build" fun l b => { l with build := b },
   boolField "launch" fun l b => { l with launch := b },
   boolField "cache" fun l b => { l with cache := b }]

/-- The entry go-toml writes for `Data`: none for a `nil` value, which it leaves out. -/
def metadataEntry (data : Option Value) : Table :=
  (data.map fun v => ("metadata", v)).toList

/-- go-toml's encode of a whole `LayerMetadataFile`: the flags are plain `bool`s, always
    written. -/
def LayerMetadataFile.encode (lmf : LayerMetadataFile) : Table :=
  metadataEntry lmf.data ++
    [("build", .boolean lmf.build), ("launch", .boolean lmf.launch),
     ("cache", .boolean lmf.cache)]

/-- `typesTable`, local to the default decoder. -/
structure TypesTable where
  build : Bool := false
  launch : Bool := false
  cache : Bool := false

/-- go-toml's view of `typesTable`. -/
def TypesTable.fields : List (GoField TypesTable) :=
  [boolField "build" fun t b => { t with build := b },
   boolField "launch" fun t b => { t with launch := b },
   boolField "cache" fun t b => { t with cache := b }]

/-- `layerMetadataTomlFile`, local to the default decoder. -/
structure LayerMetadataTomlFile where
  data : Option Value := none
  types : TypesTable := {}

/-- go-toml's view of `layerMetadataTomlFile`: a `types` table is decoded into the
    `typesTable` already there. -/
def LayerMetadataTomlFile.fields : List (GoField LayerMetadataTomlFile) :=
  [⟨"metadata", fun l v => pure { l with data := some (storeInterface l.data v) }⟩,
   ⟨"types", fun l v => (fun t => { l with types := t }) <$> v.asStruct TypesTable.fields l.types⟩]

/-- The `encoderDecoder` interface. -/
structure EncoderDecoder where
  isSupported : Version → Bool
  encode : LayerMetadataFile → Table
  decode : FileSystem → String → Except CodecError LayerMetadataFile × String

/-- `typesInTopLevel`: decode the file into `map[string]interface{}` and report whether
    any of the keys is present at the top level. -/
def typesInTopLevel (fs : FileSystem) (path : String) (stuffYoureNotSposedToHave : List String) :
    Except CodecError Bool := do
  let c ← (fs.open path).mapError .os
  let python ← (c.decode pure).mapError .toml
  pure (stuffYoureNotSposedToHave.any (hasKey python))

/-- The advisory of the default decoder. -/
def defaultAdvisory (path : String) : String :=
  "the launch, cache and build flags should be in the types table of " ++ path

theorem defaultAdvisory_ne_empty (path : String) : defaultAdvisory path ≠ "" := by
  intro h
  have := congrArg String.length h
  simp only [defaultAdvisory, String.length_append, String.length_empty] at this
  exact absurd (Nat.eq_zero_of_add_eq_zero this).1 (by decide)

/-- The advisory of the legacy decoder. -/
def legacyAdvisory : String :=
  "Types table isn't supported in this buildpack api version. The launch, build and cache " ++
    "flags should be in the top level. Ignoring the values in the types table."

/-- `defaultEncoderDecoder`, from API 0.6: only `Data` is written; the flags are read from
    the `types` table. -/
def defaultEncoderDecoder : EncoderDecoder where
  isSupported buildpackAPI := buildpackAPI.atLeast ⟨0, 6⟩
  encode lmf := metadataEntry lmf.data
  decode fs path :=
    match typesInTopLevel fs path ["build", "launch", "cache"] with
    | .error e => (.error e, "")
    | .ok topLevelSchemaInvalid =>
      let msg := if topLevelSchemaInvalid then defaultAdvisory path else ""
      match fs.open path with
      | .error e => (.error (.os e), msg)
      | .ok c =>
        match c.decode (decodeStruct LayerMetadataTomlFile.fields {}) with
        | .error e => (.error (positioned "error" e), msg)
        | .ok lmtf =>
          (.ok { data := lmtf.data, build := lmtf.types.build, launch := lmtf.types.launch,
                 cache := lmtf.types.cache }, msg)

/-- `legacyEncoderDecoder`, below API 0.6: the whole struct is written and read at the top
    level. Unlike the default decoder it drops the advisory when the second open fails. -/
def legacyEncoderDecoder : EncoderDecoder where
  isSupported buildpackAPI := buildpackAPI.lessThan ⟨0, 6⟩
  encode lmf := lmf.encode
  decode fs path :=
    match typesInTopLevel fs path ["types"] with
    | .error e => (.error e, "")
    | .ok topLevelSchemaInvalid =>
      let msg := if topLevelSchemaInvalid then legacyAdvisory else ""
      match fs.open path with
      | .error e => (.error (.os e), "")
      | .ok c =>
        match c.decode (decodeStruct LayerMetadataFile.fields {}) with
        | .error e => (.error (positioned "error" e), msg)
        | .ok lmf => (.ok lmf, msg)

/-- `supportedEncoderDecoders`, in the order the loops try them. -/
def supportedEncoderDecoders : List EncoderDecoder :=
  [defaultEncoderDecoder, legacyEncoderDecoder]

/-- `EncodeLayerMetadataFile(lmf, path, buildpackAPI)`: create the file, then encode with
    the first supported strategy, whose write can fail after `os.Create` has truncated the
    file. Returns the disk afterwards and the error, if any. -/
def encodeLayerMetadataFile (lmf : LayerMetadataFile) (path : String) (buildpackAPI : Version)
    (fs : FileSystem) : FileSystem × Option CodecError :=
  match fs.create path with
  | .error e => (fs, some (.os e))
  | .ok fs =>
    match supportedEncoderDecoders.find? (·.isSupported buildpackAPI) with
    | some encoder =>
      match fs.fault path with
      | some (.write msg left) => (fs.write path left, some (.os (.other msg)))
      | _ => (fs.write path (.document (encoder.encode lmf)), none)
    | none => (fs, some .noEncoder)

/-- `DecodeLayerMetadataFile(path, buildpackAPI)`: a missing file is the zero value with no
    error; otherwise the first supported strategy decodes. Returns the value or the error,
    with the advisory. -/
def decodeLayerMetadataFile (fs : FileSystem) (path : String) (buildpackAPI : Version) :
    Except CodecError LayerMetadataFile × String :=
  match fs.open path with
  | .error (.notExist _) => (.ok {}, "")
  | .error e => (.error (.os e), "")
  | .ok _ =>
    match supportedEncoderDecoders.find? (·.isSupported buildpackAPI) with
    | some decoder => decoder.decode fs path
    | none => (.error .noDecoder, "")

@[simp] theorem defaultEncoderDecoder_encode (lmf : LayerMetadataFile) :
    defaultEncoderDecoder.encode lmf = metadataEntry lmf.data := rfl

@[simp] theorem legacyEncoderDecoder_encode (lmf : LayerMetadataFile) :
    legacyEncoderDecoder.encode lmf = lmf.encode := rfl

-- ── The version gate ───────────────────────────────────────────────────────────

/-- The strategy the gate selects: legacy below 0.6, default from 0.6. -/
def selectedEncoderDecoder (buildpackAPI : Version) : EncoderDecoder :=
  if buildpackAPI.lessThan ⟨0, 6⟩ then legacyEncoderDecoder else defaultEncoderDecoder

/-- **TOTAL SELECTION**: the loop over `supportedEncoderDecoders` always finds the selected
    strategy. -/
theorem find?_supportedEncoderDecoders (buildpackAPI : Version) :
    supportedEncoderDecoders.find? (·.isSupported buildpackAPI) =
      some (selectedEncoderDecoder buildpackAPI) := by
  rw [selectedEncoderDecoder, Version.lessThan_eq_not_atLeast]
  cases h : buildpackAPI.atLeast ⟨0, 6⟩ <;>
    simp [supportedEncoderDecoders, defaultEncoderDecoder, legacyEncoderDecoder, h,
      Version.lessThan_eq_not_atLeast]

theorem encodeLayerMetadataFile_eq (lmf : LayerMetadataFile) (path : String)
    (buildpackAPI : Version) (fs : FileSystem) :
    encodeLayerMetadataFile lmf path buildpackAPI fs =
      match fs.create path with
      | .error e => (fs, some (.os e))
      | .ok fs =>
        match fs.fault path with
        | some (.write msg left) => (fs.write path left, some (.os (.other msg)))
        | _ => (fs.write path (.document ((selectedEncoderDecoder buildpackAPI).encode lmf)),
            none) := by
  simp only [encodeLayerMetadataFile, find?_supportedEncoderDecoders]

theorem decodeLayerMetadataFile_eq (fs : FileSystem) (path : String) (buildpackAPI : Version) :
    decodeLayerMetadataFile fs path buildpackAPI =
      match fs.open path with
      | .error (.notExist _) => (.ok {}, "")
      | .error e => (.error (.os e), "")
      | .ok _ => (selectedEncoderDecoder buildpackAPI).decode fs path := by
  simp only [decodeLayerMetadataFile, find?_supportedEncoderDecoders]

/-- The encoder never reports "couldn't find an encoder". -/
theorem encodeLayerMetadataFile_ne_noEncoder (lmf : LayerMetadataFile) (path : String)
    (buildpackAPI : Version) (fs : FileSystem) :
    (encodeLayerMetadataFile lmf path buildpackAPI fs).2 ≠ some .noEncoder := by
  rw [encodeLayerMetadataFile_eq]
  split
  · simp
  · split <;> simp

/-- What an encode does to the disk: nothing when `os.Create` fails; otherwise the file the
    path names holds what the failed write left, or the selected strategy's document. The
    encode reports an error exactly when it does not write the document. -/
theorem encodeLayerMetadataFile_cases (lmf : LayerMetadataFile) (path : String)
    (buildpackAPI : Version) (fs : FileSystem) :
    ((fs.reaches path = false ∨ ∃ msg, fs.fault path = some (.create msg)) ∧
      (encodeLayerMetadataFile lmf path buildpackAPI fs).1 = fs ∧
      (encodeLayerMetadataFile lmf path buildpackAPI fs).2 ≠ none) ∨
    (fs.reaches path = true ∧ ∃ msg left, fs.fault path = some (.write msg left) ∧
      (encodeLayerMetadataFile lmf path buildpackAPI fs).1 = fs.write path left ∧
      (encodeLayerMetadataFile lmf path buildpackAPI fs).2 ≠ none) ∨
    (fs.reaches path = true ∧ fs.fault path = none ∧
      (encodeLayerMetadataFile lmf path buildpackAPI fs).1 =
        fs.write path (.document ((selectedEncoderDecoder buildpackAPI).encode lmf)) ∧
      (encodeLayerMetadataFile lmf path buildpackAPI fs).2 = none) := by
  rw [encodeLayerMetadataFile_eq]
  rcases FileSystem.create_cases fs path with ⟨hno, e, he⟩ | ⟨hr, hc, he⟩
  · exact .inl ⟨hno, by simp [he]⟩
  · simp only [he, FileSystem.fault_write]
    rcases hf : fs.fault path with _ | (msg | ⟨msg, left⟩)
    · exact .inr (.inr ⟨hr, rfl, FileSystem.write_write _ _ hr, rfl⟩)
    · exact absurd hf (hc msg)
    · exact .inr (.inl ⟨hr, msg, left, rfl, FileSystem.write_write _ _ hr, by simp⟩)

/-- Encoding succeeds exactly when the file is reached and neither creating nor writing it
    fails. -/
theorem encodeLayerMetadataFile_ok_iff (lmf : LayerMetadataFile) (path : String)
    (buildpackAPI : Version) (fs : FileSystem) :
    (encodeLayerMetadataFile lmf path buildpackAPI fs).2 = none ↔
      fs.reaches path = true ∧ fs.fault path = none := by
  rcases encodeLayerMetadataFile_cases lmf path buildpackAPI fs with
    ⟨hno | ⟨msg, hf⟩, -, h⟩ | ⟨-, msg, left, hf, -, h⟩ | ⟨hr, hf, -, h⟩
  · simp [h, hno]
  · simp [h, hf]
  · simp [h, hf]
  · simp [h, hr, hf]

-- ── What each strategy does with a file ────────────────────────────────────────

/-- `typesInTopLevel` reads the file once: an open error, the parse error as go-toml returns
    it (no position added), or whether a listed key is present. -/
theorem typesInTopLevel_eq (fs : FileSystem) (path : String) (keys : List String) :
    typesInTopLevel fs path keys =
      match fs.open path with
      | .error e => .error (.os e)
      | .ok (.malformed derr) => .error (.toml (.decode derr))
      | .ok (.document t) => .ok (keys.any (hasKey t)) := by
  unfold typesInTopLevel
  rcases fs.open path with e | (t | derr) <;> rfl

/-- The default decoder on a parsed document: the typed decode of the `types`-table shape,
    and the advisory exactly when a flag key sits at the top level. -/
theorem defaultEncoderDecoder_decode_document {fs : FileSystem} {path : String} {t : Table}
    (h : fs.open path = .ok (.document t)) :
    defaultEncoderDecoder.decode fs path =
      (((fun lmtf => { data := lmtf.data, build := lmtf.types.build, launch := lmtf.types.launch,
                       cache := lmtf.types.cache }) <$>
          decodeStruct LayerMetadataTomlFile.fields {} t).mapError (positioned "error"),
        if ["build", "launch", "cache"].any (hasKey t) then defaultAdvisory path else "") := by
  simp only [defaultEncoderDecoder, typesInTopLevel_eq, h, Contents.decode]
  cases decodeStruct LayerMetadataTomlFile.fields {} t <;> rfl

/-- The legacy decoder on a parsed document: the typed decode of the top-level shape, and
    the advisory exactly when a `types` key is present. -/
theorem legacyEncoderDecoder_decode_document {fs : FileSystem} {path : String} {t : Table}
    (h : fs.open path = .ok (.document t)) :
    legacyEncoderDecoder.decode fs path =
      ((decodeStruct LayerMetadataFile.fields {} t).mapError (positioned "error"),
        if hasKey t "types" then legacyAdvisory else "") := by
  simp only [legacyEncoderDecoder, typesInTopLevel_eq, h, Contents.decode]
  cases decodeStruct LayerMetadataFile.fields {} t <;> simp [Except.mapError]

/-- Text go-toml cannot parse fails the scan first: its error comes back unpositioned and
    with no advisory, whatever the version. -/
theorem selectedEncoderDecoder_decode_malformed {fs : FileSystem} {path : String}
    {derr : DecodeError} (h : fs.open path = .ok (.malformed derr)) (buildpackAPI : Version) :
    (selectedEncoderDecoder buildpackAPI).decode fs path = (.error (.toml (.decode derr)), "") := by
  unfold selectedEncoderDecoder
  split <;> simp [defaultEncoderDecoder, legacyEncoderDecoder, typesInTopLevel_eq, h]

theorem positioned_ne_noDecoder (what : String) (e : TomlError) :
    positioned what e ≠ .noDecoder := by
  cases e <;> simp [positioned]

/-- The decoder never reports "couldn't find a decoder". -/
theorem decodeLayerMetadataFile_ne_noDecoder (fs : FileSystem) (path : String)
    (buildpackAPI : Version) :
    (decodeLayerMetadataFile fs path buildpackAPI).1 ≠ .error .noDecoder := by
  rw [decodeLayerMetadataFile_eq]
  rcases h : fs.open path with e | (t | derr)
  · rcases e with _ | _ <;> simp
  · simp only [selectedEncoderDecoder]
    split
    · rw [legacyEncoderDecoder_decode_document h]
      cases decodeStruct LayerMetadataFile.fields {} t <;>
        simp [Except.mapError, positioned_ne_noDecoder]
    · rw [defaultEncoderDecoder_decode_document h]
      cases decodeStruct LayerMetadataTomlFile.fields {} t <;>
        simp [Except.mapError, Except.map, positioned_ne_noDecoder]
  · simp [selectedEncoderDecoder_decode_malformed h]

end Buildpack
