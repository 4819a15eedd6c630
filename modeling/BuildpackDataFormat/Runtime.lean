import BuildpackDataFormat.Toml

/-!
# What the codec runs against: API versions, the disk, and its errors

* `Api.Version` — the buildpack API a caller declares, with `atLeast` and `lessThan`.
  `lessThan_eq_not_atLeast`: every version is on exactly one side of a threshold, which
  is what makes the two-strategy selections of the codec total.
* `FileSystem` — what each path holds and what goes wrong writing it. A path may name the
  file another path names (`Entry.link`: a symbolic link, or another spelling such as
  `./q`); `resolve` follows links, and `open`, `create` and `write` (`os.Open`/`os.OpenFile`,
  `os.Create` and an encoder's output) act on the file a path resolves to. A write leaves
  every path that resolves elsewhere as it was (`FileSystem.open_write`).
* `CodecError` — the errors the package returns; `positioned` is the shared
  `errors.As(err, &derr)` handling of a failed decode, which every go-toml decode error
  takes, since go-toml reports a value of the wrong kind as a `*toml.DecodeError` too.
* `decodeFile` — `internal/toml.DecodeFile`.
* `foldl_append_map`, `foldl_append_filter` — the run of Go's `out = append(out, …)` loops,
  which the plan and launch code write over slices.

The calls are sequential, so a file reads the same on every open within one call, and
what goes wrong writing a path is the same on every call.
-/

namespace Api

/-- Modelled from the spec: the `api` package is not under src/. The spec gives a
    buildpack API as a dotted major.minor identifier compared by `AtLeast` and `LessThan`. -/
structure Version where
  major : Nat
  minor : Nat
  deriving DecidableEq, Repr

/-- Versions compare by major number, then minor number. -/
def Version.compare (v o : Version) : Ordering :=
  (Ord.compare v.major o.major).then (Ord.compare v.minor o.minor)

/-- `AtLeast(target)`. -/
def Version.atLeast (v target : Version) : Bool := v.compare target != .lt

/-- `LessThan(target)`. -/
def Version.lessThan (v target : Version) : Bool := v.compare target == .lt

/-- **PARTITION**: below a threshold is exactly not at least it. -/
theorem Version.lessThan_eq_not_atLeast (v target : Version) :
    v.lessThan target = !v.atLeast target := by
  unfold lessThan atLeast
  cases v.compare target <;> rfl

theorem Version.atLeast_eq_not_lessThan (v target : Version) :
    v.atLeast target = !v.lessThan target := by
  rw [lessThan_eq_not_atLeast, Bool.not_not]

end Api

namespace Buildpack

open Toml Api

/-- What an `os` call reports on failure; `notExist` is what `os.IsNotExist` recognises. -/
inductive OsError where
  | notExist (path : String)
  | other (msg : String)
  deriving DecidableEq

/-- What a path holds. -/
inductive Entry where
  | missing
  | unreadable (msg : String)
  | file (c : Contents)
  /-- The path names the file `target` names: a symbolic link, or another spelling of
      `target`'s path. -/
  | link (target : String)

/-- What goes wrong when the codec writes a path. -/
inductive Fault where
  /-- `os.Create` fails with this message, and nothing changes. -/
  | create (msg : String)
  /-- `os.Create` truncates the file; then writing it fails with this message, leaving
      `left`, what was written before the failure (nothing, or part of the document). -/
  | write (msg : String) (left : Contents)

/-- The disk as the codec sees it. -/
structure FileSystem where
  entry : String → Entry
  fault : String → Option Fault

/-- The path reached from `p` by following at most `n` links. -/
def FileSystem.follow (fs : FileSystem) : Nat → String → String
  | 0, p => p
  | n + 1, p =>
    match fs.entry p with
    | .link q => fs.follow n q
    | _ => p

/-- The path of the file `p` names: links followed, at most 40 of them, as Linux does
    (`ELOOP` beyond). -/
def FileSystem.resolve (fs : FileSystem) (p : String) : String := fs.follow 40 p

/-- The error of a path with more links to follow than Linux allows. -/
def tooManyLinks : OsError := .other "too many levels of symbolic links"

/-- `os.Open(path)` (and `os.OpenFile(path, os.O_RDONLY, 0)`). -/
def FileSystem.open (fs : FileSystem) (path : String) : Except OsError Contents :=
  match fs.entry (fs.resolve path) with
  | .missing => .error (.notExist path)
  | .unreadable msg => .error (.other msg)
  | .file c => .ok c
  | .link _ => .error tooManyLinks

/-- Replace what the file `path` names holds. -/
def FileSystem.write (fs : FileSystem) (path : String) (c : Contents) : FileSystem :=
  { fs with entry := fun p => if p = fs.resolve path then .file c else fs.entry p }

/-- `os.Create(path)`: the file is created or truncated, so it holds an empty document. -/
def FileSystem.create (fs : FileSystem) (path : String) : Except OsError FileSystem :=
  match fs.entry (fs.resolve path), fs.fault path with
  | .link _, _ => .error tooManyLinks
  | _, some (.create msg) => .error (.other msg)
  | _, _ => .ok (fs.write path (.document []))

/-- Whether the file a path names is reached: no link is left after following 40. -/
def FileSystem.reaches (fs : FileSystem) (path : String) : Bool :=
  match fs.entry (fs.resolve path) with
  | .link _ => false
  | _ => true

theorem FileSystem.open_of_entry {fs : FileSystem} {path : String} {c : Contents}
    (h : fs.entry path = .file c) : fs.open path = .ok c := by
  have hres : fs.resolve path = path := by simp [resolve, follow, h]
  simp [FileSystem.open, hres, h]

/-- An open of a path that holds a file, inside a decode's error mapping. -/
theorem FileSystem.mapError_open_of_entry {fs : FileSystem} {path : String} {c : Contents}
    (h : fs.entry path = .file c) (f : OsError → ε) : (fs.open path).mapError f = pure c := by
  rw [open_of_entry h]; rfl

theorem FileSystem.entry_write (fs : FileSystem) (path : String) (c : Contents) (p : String) :
    (fs.write path c).entry p = if p = fs.resolve path then .file c else fs.entry p := rfl

/-- A write to a reached file moves no link: every path follows as it did. -/
theorem FileSystem.follow_write {fs : FileSystem} {path : String} (c : Contents)
    (hr : fs.reaches path = true) : ∀ n p, (fs.write path c).follow n p = fs.follow n p
  | 0, _ => rfl
  | n + 1, p => by
    rw [follow, follow, entry_write]
    by_cases hp : p = fs.resolve path
    · rw [if_pos hp]
      cases he : fs.entry p with
      | link q => rw [hp] at he; simp [reaches, he] at hr
      | _ => rfl
    · rw [if_neg hp]
      cases fs.entry p with
      | link q => exact follow_write c hr n q
      | _ => rfl

theorem FileSystem.resolve_write {fs : FileSystem} {path : String} (c : Contents)
    (hr : fs.reaches path = true) (p : String) : (fs.write path c).resolve p = fs.resolve p :=
  follow_write c hr 40 p

@[simp] theorem FileSystem.fault_write (fs : FileSystem) (path : String) (c : Contents) :
    (fs.write path c).fault = fs.fault := rfl

/-- After a write, a path opens to what was written when it resolves to the written file,
    and as before otherwise. -/
theorem FileSystem.open_write {fs : FileSystem} {path : String} (c : Contents)
    (hr : fs.reaches path = true) (p : String) :
    (fs.write path c).open p = if fs.resolve p = fs.resolve path then .ok c else fs.open p := by
  rw [FileSystem.open, resolve_write c hr, entry_write]
  by_cases h : fs.resolve p = fs.resolve path
  · rw [if_pos h, if_pos h]
  · rw [if_neg h, if_neg h]; rfl

/-- Writing the same file twice keeps the second. -/
theorem FileSystem.write_write {fs : FileSystem} {path : String} (c c' : Contents)
    (hr : fs.reaches path = true) : (fs.write path c).write path c' = fs.write path c' := by
  have hres := resolve_write c hr path
  simp only [write, FileSystem.mk.injEq, and_true] at hres ⊢
  funext p
  rw [hres]
  split <;> rfl

/-- `os.Create` fails, leaving the disk as it is, exactly when the file is not reached or
    its creation fails; otherwise it truncates the file. -/
theorem FileSystem.create_cases (fs : FileSystem) (path : String) :
    ((fs.reaches path = false ∨ ∃ msg, fs.fault path = some (.create msg)) ∧
      ∃ e, fs.create path = .error e) ∨
    (fs.reaches path = true ∧ (∀ msg, fs.fault path ≠ some (.create msg)) ∧
      fs.create path = .ok (fs.write path (.document []))) := by
  unfold create reaches
  cases hf : fs.fault path with
  | none => cases fs.entry (fs.resolve path) <;> simp
  | some f =>
    cases f <;> cases fs.entry (fs.resolve path) <;> simp

/-- Whether `os.Create(path)` succeeds. -/
def FileSystem.creates (fs : FileSystem) (path : String) : Bool :=
  match fs.create path with
  | .ok _ => true
  | .error _ => false

theorem FileSystem.creates_eq (fs : FileSystem) (path : String) :
    fs.creates path =
      (fs.reaches path && match fs.fault path with
        | some (.create _) => false
        | _ => true) := by
  unfold creates create reaches
  cases fs.fault path with
  | none => cases fs.entry (fs.resolve path) <;> rfl
  | some f => cases f <;> cases fs.entry (fs.resolve path) <;> rfl

/-- The errors of the buildpack package and of `internal/toml`. -/
inductive CodecError where
  | os (e : OsError)
  | toml (e : TomlError)
  /-- `fmt.Errorf("%s\n<what> occurred at line %d column %d", derr.String(), row, col)`. -/
  | atPosition (derr : DecodeError) (what : String)
  /-- The same for go-toml's error on a value the Go type cannot hold, whose position the
      tree does not record. -/
  | mismatchAt (goType what : String)
  | noEncoder
  | noDecoder
  | directNotSupported
  deriving DecidableEq

/-- A failed `dec.Decode`: every error go-toml returns there is a `*toml.DecodeError`, which
    is reported with its position under `what`. -/
def positioned (what : String) : TomlError → CodecError
  | .decode derr => .atPosition derr what
  | .typeMismatch goType => .mismatchAt goType what

/-- `internal/toml.DecodeFile(fpath, v)`: open, decode into `v`, position a parse error. -/
def decodeFile (fs : FileSystem) (fpath : String) (dec : Table → Except TomlError α) :
    Except CodecError α := do
  let c ← (fs.open fpath).mapError .os
  (c.decode dec).mapError (positioned "toml error")

-- ── Go's append loops ──────────────────────────────────────────────────────────

/-- A loop appending `f x` for every element, from any accumulator. -/
theorem foldl_append_map (f : α → β) (xs : List α) :
    ∀ acc : List β, xs.foldl (fun acc x => acc ++ [f x]) acc = acc ++ xs.map f := by
  induction xs with
  | nil => simp
  | cons x rest ih => intro acc; simp [ih]

/-- A loop appending the elements that pass `p`, from any accumulator. -/
theorem foldl_append_filter (p : α → Bool) (xs : List α) :
    ∀ acc : List α, xs.foldl (fun acc x => if p x then acc ++ [x] else acc) acc =
      acc ++ xs.filter p := by
  induction xs with
  | nil => simp
  | cons x rest ih =>
      intro acc
      rw [List.foldl_cons, ih]
      by_cases h : p x <;> simp [h, List.filter_cons]

end Buildpack
