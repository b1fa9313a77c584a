import MoeServer.FileSystem.Names
import MoeServer.HfLoader

/-!
# `checkpoints.py`: storing and loading experts

`store_experts(experts, checkpoint_dir)` takes one timestamp, stages every expert in a fresh
temporary directory — a directory per expert holding `module_<t>.safetensors`,
`checkpoint_<t>.safetensors` and two links to them, `module.safetensors` and
`checkpoint_last.safetensors` — and then merges the staging tree into `checkpoint_dir` with
`copy_tree`, which copies files through links, so the stable names arrive as regular files.
The temporary directory is removed on the way out, however the body ends.

`CheckpointSaver` stores once when it is built and again each time its stop event's wait
times out.  `load_expert` reads `checkpoint_dir/expert_name/module.safetensors` back into an
expert — but it is declared as `def load_expert(expert: nn,Module, expert_name, checkpoint_dir)`:
the comma makes `Module` a fourth parameter, so the three-argument calls the server makes raise
`TypeError` before the body runs (`loadExpert_three_args`).

An expert's directory is `Path(tmpdirname) / expert_name`, looked up as the call made on it
looks it up (`lookupName`): for a name that is one component it is `tmpdirname ++ [name]`, and
for any other name it is wherever pathlib and the kernel take it.
-/

namespace MoeServer

/-! ## Timestamps -/

/-- `datetime.now()`: a naive date and time, each field in its range. -/
structure DateTime where
  year : Nat
  month : Nat
  day : Nat
  hour : Nat
  minute : Nat
  second : Nat
  microsecond : Nat
  valid : 1 ≤ year ∧ year ≤ 9999 ∧ 1 ≤ month ∧ month ≤ 12 ∧ 1 ≤ day ∧ day ≤ 31 ∧ hour < 24 ∧
    minute < 60 ∧ second < 60 ∧ microsecond < 1000000

/-- `f"{n:0{width}d}"`. -/
def zeroPad (width n : Nat) : String :=
  ⟨List.replicate (width - (Nat.repr n).length) '0'⟩ ++ Nat.repr n

/-- `dt.isoformat(sep)`: `YYYY-MM-DD<sep>HH:MM:SS`, then `.ffffff` when there are
microseconds. -/
def DateTime.isoformat (dt : DateTime) (sep : String) : String :=
  zeroPad 4 dt.year ++ "-" ++ zeroPad 2 dt.month ++ "-" ++ zeroPad 2 dt.day ++ sep ++
    zeroPad 2 dt.hour ++ ":" ++ zeroPad 2 dt.minute ++ ":" ++ zeroPad 2 dt.second ++
    (if dt.microsecond = 0 then "" else "." ++ zeroPad 6 dt.microsecond)

lemma dash_mem_isoformat (dt : DateTime) (sep : String) : '-' ∈ (dt.isoformat sep).data := by
  simp [DateTime.isoformat, String.data_append]

/-- A timestamp is never the word that names the stable backend file. -/
lemma isoformat_ne_last (dt : DateTime) (sep : String) : dt.isoformat sep ≠ "last" := fun h => by
  have := dash_mem_isoformat dt sep
  rw [h] at this
  revert this; decide

/-- Midnight, 1 January 2024. -/
def sampleNow : DateTime := ⟨2024, 1, 1, 0, 0, 0, 0, by decide⟩

/-! ## The store cycle -/

/-- A `ModuleBackend` as the checkpoint code uses it: its name, its module, the batch bounds
the server gives it, and what `state_dict()` returns now — the module's state dict and the
optimizer's and scheduler's, or an exception. -/
structure ModuleBackend where
  name : String
  module : Module
  minBatchSize : Int
  maxBatchSize : Int
  stateDict : Except PyError (StateDict × StateDict)

section Store

variable (env : Env)

/-- `is_directory(directory)`: the path exists and is a directory, or `AssertionError`. -/
def isDirectory (directory : Path) : Io Unit := do
  if !(← pathExists directory) then Io.throw (.assertionError "")
  if !(← isdir directory) then Io.throw (.assertionError "")

/-- `save_safetensor(tensors, path)`: `save_file`, which writes through `open(path, "wb")`. -/
def saveSafetensor (tensors : StateDict) (path : Path) : Io Unit := openWrite env path tensors

/-- `load_safetensor(path)`. -/
def loadSafetensor (path : Path) : Io StateDict := readFile path

/-- Python's default recursion limit, which bounds the depth `copy_tree` can descend to. -/
def pythonRecursionLimit : Nat := 1000

/-- `copy_tree(src, dst)`, with `fuel` frames of recursion left. -/
def copyTree : Nat → Path → Path → Io Unit
  | 0, _, _ => Io.throw .recursionError
  | fuel + 1, src, dst => do
    if !(← pathExists dst) then makedirs env dst
    let items ← listdir src
    items.forM fun item => do
      if ← isdir (src ++ [item]) then copyTree fuel (src ++ [item]) (dst ++ [item])
      else copy2 env (src ++ [item]) (dst ++ [item])

/-- The name `module_{timestamp}.safetensors`. -/
def moduleCheckpointFile (timestamp : String) : String := "module_" ++ timestamp ++ ".safetensors"

/-- The name `checkpoint_{timestamp}.safetensors`. -/
def backendCheckpointFile (timestamp : String) : String :=
  "checkpoint_" ++ timestamp ++ ".safetensors"

/-! The four names an expert directory receives are distinct, and the timestamped ones name their
timestamp: a timestamp is never `last` (`isoformat_ne_last`). -/

@[simp] lemma moduleCheckpointFile_inj {t t' : String} :
    moduleCheckpointFile t = moduleCheckpointFile t' ↔ t = t' := by
  refine ⟨fun h => ?_, congrArg _⟩
  have := congrArg String.data h
  simp only [moduleCheckpointFile, String.data_append] at this
  exact String.ext (List.append_cancel_left (List.append_cancel_right this))

@[simp] lemma backendCheckpointFile_inj {t t' : String} :
    backendCheckpointFile t = backendCheckpointFile t' ↔ t = t' := by
  refine ⟨fun h => ?_, congrArg _⟩
  have := congrArg String.data h
  simp only [backendCheckpointFile, String.data_append] at this
  exact String.ext (List.append_cancel_left (List.append_cancel_right this))

@[simp] lemma moduleCheckpointFile_ne_backend (t t' : String) :
    moduleCheckpointFile t ≠ backendCheckpointFile t' := by
  intro h; simpa [moduleCheckpointFile, backendCheckpointFile] using congrArg String.data h

@[simp] lemma backendCheckpointFile_ne_module (t t' : String) :
    backendCheckpointFile t ≠ moduleCheckpointFile t' := fun h =>
  moduleCheckpointFile_ne_backend t' t h.symm

@[simp] lemma moduleCheckpointFile_ne_stable (t : String) :
    moduleCheckpointFile t ≠ "module.safetensors" ∧
      moduleCheckpointFile t ≠ "checkpoint_last.safetensors" := by
  constructor <;> intro h <;> simpa [moduleCheckpointFile] using congrArg String.data h

lemma backendCheckpointFile_ne_stable {t : String} (ht : t ≠ "last") :
    backendCheckpointFile t ≠ "module.safetensors" ∧
      backendCheckpointFile t ≠ "checkpoint_last.safetensors" :=
  ⟨fun h => by simpa [backendCheckpointFile] using congrArg String.data h,
    fun h => ht (backendCheckpointFile_inj.mp (h.trans rfl))⟩

/-- One pass of the staging loop: the expert's directory, its two snapshot files, and the two
links to them.  `expert_dir = Path(tmpdirname) / expert_name` is looked up when `mkdir` is
called on it, and once `mkdir` made it, the calls on `expert_dir / …` reach names inside it.
`os.symlink` stores its first argument as text: `Path(tmpdirname) / expert_name / "…"` as
pathlib spells it (`namePath`), which is the path the lookup reaches when the name is one
component. -/
def stageExpert (tmpdirname : Path) (timestamp : String) (expertName : String)
    (expertBackend : ModuleBackend) : Io Unit := do
  let expertDir ← lookupName tmpdirname expertName
  mkdir env expertDir
  let (moduleStateDict, backendStateDict) ← Io.lift expertBackend.stateDict
  let moduleCheckpointName := expertDir ++ [moduleCheckpointFile timestamp]
  let backedCheckpointName := expertDir ++ [backendCheckpointFile timestamp]
  saveSafetensor env moduleStateDict moduleCheckpointName
  saveSafetensor env backendStateDict backedCheckpointName
  symlink env (namePath tmpdirname expertName ++ [moduleCheckpointFile timestamp])
    (expertDir ++ ["module.safetensors"])
  symlink env (namePath tmpdirname expertName ++ [backendCheckpointFile timestamp])
    (expertDir ++ ["checkpoint_last.safetensors"])

/-- `store_experts(experts, checkpoint_dir)`, at the moment `now`. -/
def storeExperts (experts : PyDict ModuleBackend) (checkpointDir : Path) (now : DateTime) :
    Io Unit := do
  isDirectory checkpointDir
  let timestamp := now.isoformat "_"
  withTemporaryDirectory env fun tmpdirname => do
    experts.items.forM fun (expertName, expertBackend) =>
      stageExpert env tmpdirname timestamp expertName expertBackend
    copyTree env pythonRecursionLimit tmpdirname checkpointDir

/-- A `CheckpointSaver` thread: what it stores, where, and how often; whether `start()` was
called and whether its stop event is set. -/
structure CheckpointSaver where
  moduleBackends : PyDict ModuleBackend
  checkpointDir : Path
  updatePeriod : Nat
  started : Bool
  stop : Bool

/-- `CheckpointSaver(module_backends, checkpoint_dir, update_period)`: the directory is checked
and one store is made before the thread exists for anyone to start. -/
def CheckpointSaver.init (moduleBackends : PyDict ModuleBackend) (checkpointDir : Path)
    (updatePeriod : Nat) (now : DateTime) : Io CheckpointSaver := do
  isDirectory checkpointDir
  storeExperts env moduleBackends checkpointDir now
  pure ⟨moduleBackends, checkpointDir, updatePeriod, false, false⟩

/-- One turn of `run()`'s loop when `stop.wait(update_period)` times out: another store. -/
def CheckpointSaver.tick (saver : CheckpointSaver) (now : DateTime) : Io Unit :=
  storeExperts env saver.moduleBackends saver.checkpointDir now

end Store

/-! ## Loading -/

/-- The values the loading functions are called with. -/
inductive PyArg
  | module (m : Module)
  | str (s : String)
  | path (p : Path)

/-- The parameters of `load_expert` as declared: `expert: nn,Module` declares `expert` and
`Module`. -/
def loadExpertParams : List String := ["expert", "Module", "expert_name", "checkpoint_dir"]

/-- The body of `load_expert`, on the bound arguments: read `module.safetensors` into the expert
when it exists, otherwise log a warning and leave the expert as it is.  `exists()` is `False`
where the lookup of `checkpoint_dir / expert_name / "module.safetensors"` fails. -/
def loadExpertBody (expert : Module) (expertName : String) (checkpointDir : Path) : Io Module :=
  fun fs =>
    match fs.lookup checkpointDir expertName ["module.safetensors"] with
    | .error _ => (.ok expert, fs)
    | .ok latestCheckpoint =>
      (do
        if ← pathExists latestCheckpoint then
          Io.lift (expert.loadStateDict (← loadSafetensor latestCheckpoint))
        else pure expert) fs

/-- `load_expert(*args)`: the arguments are bound to the four parameters first. -/
def loadExpert (args : List PyArg) : Io Module := do
  let bound ← Io.lift (bindPositional "load_expert" loadExpertParams args)
  match bound.map Prod.snd with
  | [.module expert, _, .str expertName, .path checkpointDir] =>
    loadExpertBody expert expertName checkpointDir
  | _ => Io.throw (.raised "load_expert: argument of another type")

/-- The server's call never reaches the body: three arguments for four parameters. -/
lemma loadExpert_three_args (expert : Module) (expertName : String) (checkpointDir : Path)
    (fs : FS) :
    loadExpert [.module expert, .str expertName, .path checkpointDir] fs =
      (.error (missingArguments "load_expert" ["checkpoint_dir"]), fs) := by
  simp [loadExpert, bindPositional_of_lt, loadExpertParams, bind, Io.lift]

/-- `load_expert_from_hf(expert, repo_id, expert_id, layer_id)`. -/
def loadExpertFromHf (hub : Hub) (expert : Module) (repoId : String) (expertId layerId : Int) :
    Except PyError Module :=
  loadWeightsFromHf hub expert expertId layerId repoId

end MoeServer
