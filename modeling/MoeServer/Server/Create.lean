import MoeServer.Checkpoints.Restore
import MoeServer.Quantization.Replace
import MoeServer.Uids.Generate

/-!
# `Server.create` and `Server.__init__`

`Server.create(...)` checks the expert class, starts a DHT node, generates the expert uids, and
for each uid builds an expert (quantized when asked), loads its weights, and registers a
`ModuleBackend` under the uid in the `experts` dict; then it calls `cls(dht, experts, ...)`.

Two things decide what the experts hold.  `_load_expert_weights` loads from a checkpoint when
`checkpoint_dir` is set and `hugginface_rep` is not, and from the Hugging Face repository in the
opposite case.  And the `experts` dict is keyed by uid string, so a uid rendered twice keeps
only the expert built last, while `num_handlers` is counted from the uids.

The checkpoint branch raises on the first uid (`load_expert` takes four arguments), and
`create` never hands `checkpoint_dir` on to `cls(...)`, so the server it returns has no
checkpoint saver (`create_with_checkpoint_dir`).  The constructor itself, given a directory and
`start=False`, stores every expert before it returns, and a four-argument `load_expert` reads each
back (**`init_stores_experts`**).

With weights from the Hub, `create` runs its loop over the uids it generated, and the loop body
for each uid loads exactly the three tensors the repository stores for that uid's own pair
(**`create_loads_hf_weights`**).

**`create_registers`** says what any call that returns has built: one backend per distinct uid
string, each `Registered` under it; as many experts as uids exactly when the uid strings are
distinct, while `num_handlers` counts the uids; no checkpoint saver; and a DHT handler thread
exactly when some uid was generated.  **`create_hosts_every_pair`** adds what a
`distinctPattern` buys: the uids are then distinct, so the server hosts one `Registered` backend
per (layer, expert) pair of the grid, under the uid rendered for it.  And the patterns of those
two results are the only ones a call over a non-empty grid returns with
(**`create_needs_onlyFields`**).  With such a pattern, weights from the Hub and no 4-bit
quantization, each hosted expert holds exactly the three tensors the repository stores for its own
pair, in the dtypes of the expert class's parameters (**`create_hosts_hf_experts`**).

The uids come from `str.format`, which `formatFrom` follows for fields without a conversion,
format spec, attribute or index (`plainFields`); for a pattern with such a field the model's
`create` raises where CPython's formats, so what is said here of every call that returns is said
of calls with the other patterns.

Left out of the model: the device and `expert.to(device)`, the optimizer, scheduler and clipping
wrapper, the argument schemas built from a sample input, `custom_module_path`, and the log lines.
-/

namespace MoeServer

/-- What `Server.create` meets outside this repository: the DHT node it starts (or the
exception starting it and asking for its addresses raises), the `name_to_block` catalogue, the
Hugging Face Hub, and what a `ModuleBackend` built around a module exports as `state_dict()`. -/
structure World where
  dht : Except PyError Dht
  nameToBlock : String → Option (Int → Module)
  hub : Hub
  backendState : Module → Except PyError (StateDict × StateDict)

/-- The arguments of `Server.create` the model follows, with their defaults. -/
structure CreateArgs where
  numExperts : Int := 1
  numLayers : Int := 1
  layersIndexStart : Int := 0
  hugginfaceRep : Option String := none
  checkpointDir : Option Path := none
  loadIn4bit : Bool := false
  expertPattern : Option String := none
  expertCls : String := "ffn"
  hiddenDim : Int := 1024
  numHandlers : Option Int := none
  minBatchSize : Int := 1
  maxBatchSize : Int := 2048
  updatePeriod : Nat := 30
  start : Bool

/-- A `Server` as constructed: the thread objects it owns exist, none started yet. -/
structure Server where
  dht : Dht
  moduleBackends : PyDict ModuleBackend
  updatePeriod : Nat
  /-- `len(self.conn_handlers)`. -/
  numConnHandlers : Nat
  checkpointSaver : Option CheckpointSaver
  /-- Whether `self.dht_handler_thread` was created. -/
  hasDhtHandlerThread : Bool
  start : Bool

/-- The truth value of a string argument: `None` and `""` are false. -/
def truthy : Option String → Bool
  | none => false
  | some s => s != ""

section Create

variable (env : Env) (w : World)

/-- `Server.__init__(dht, module_backends, num_connection_handlers, update_period, start,
checkpoint_dir)`: a checkpoint saver (which stores once) only when a directory is given.  With
`start=True` the constructor then calls `run_in_background(await_ready=True)`, which starts
`run()` (Server/Lifecycle.lean) and waits for the server to be ready; that call is not part of
this definition, which only records `start`, and results about what the constructor leaves are
stated for `start=False`. -/
def Server.init (dht : Dht) (moduleBackends : PyDict ModuleBackend) (numConnectionHandlers : Int)
    (updatePeriod : Nat) (start : Bool) (checkpointDir : Option Path) (now : DateTime) :
    Io Server := do
  let checkpointSaver ← match checkpointDir with
    | some dir => some <$> CheckpointSaver.init env moduleBackends dir updatePeriod now
    | none => pure none
  pure { dht, moduleBackends, updatePeriod
         numConnHandlers := numConnectionHandlers.toNat
         checkpointSaver
         hasDhtHandlerThread := !moduleBackends.items.isEmpty
         start }

/-- `Server._make_expert(load_in_4bit, expert_cls, hidden_dim)`. -/
def makeExpert (loadIn4bit : Bool) (expertCls : String) (hiddenDim : Int) :
    Except PyError Module :=
  match w.nameToBlock expertCls with
  | none => .error (.keyError expertCls)
  | some block =>
    if loadIn4bit then QuantizedModel.model <$> quantization ((block hiddenDim).toDtype .float16)
    else .ok (block hiddenDim)

/-- `Server._load_expert_weights(expert, expert_uid, checkpoint_dir, hugginface_rep)`. -/
def loadExpertWeights (expert : Module) (expertUid : ExpertUID) (checkpointDir : Option Path)
    (hugginfaceRep : Option String) : Io Module :=
  match checkpointDir, truthy hugginfaceRep with
  | some dir, false => loadExpert [.module expert, .str expertUid.uid, .path dir]
  | none, true =>
    Io.lift (loadExpertFromHf w.hub expert (hugginfaceRep.getD "") expertUid.expertId
      expertUid.layerId)
  | _, _ => pure expert

/-- The loop body of `create` for one uid: build the expert, load its weights, wrap it.  The
`expert.to(device)` between the load and the wrapping is left out with the device: on a module
without `bitsandbytes` layers it moves the tensors and keeps their dtypes and values, but on the
`Linear4bit` layers of `load_in_4bit=True` it packs the weights on a GPU, so results about the
weights a backend holds are stated for `load_in_4bit=False`. -/
def initExpert (args : CreateArgs) (expertUid : ExpertUID) : Io ModuleBackend := do
  let expert ← Io.lift (makeExpert w args.loadIn4bit args.expertCls args.hiddenDim)
  let expert ← loadExpertWeights w expert expertUid args.checkpointDir args.hugginfaceRep
  pure ⟨expertUid.uid, expert, args.minBatchSize, args.maxBatchSize, w.backendState expert⟩

/-- `for expert_uid in expert_uids: ... experts[expert_uid.uid] = ModuleBackend(...)`. -/
def createExperts (args : CreateArgs) :
    PyDict ModuleBackend → List ExpertUID → Io (PyDict ModuleBackend)
  | experts, [] => pure experts
  | experts, expertUid :: rest => do
    let backend ← initExpert w args expertUid
    createExperts args (experts.setItem expertUid.uid backend) rest

/-- `Server.create(...)`.  The constructor is called without `checkpoint_dir`. -/
def create (args : CreateArgs) (now : DateTime) : Io Server := do
  if (w.nameToBlock args.expertCls).isNone then Io.throw (.assertionError "")
  let dht ← Io.lift w.dht
  let expertPattern ← match args.expertPattern with
    | some p => pure p
    | none => Io.throw (.assertionError "Please provide expert_pattern")
  let expertUids ← Io.lift (generateUids args.numExperts args.numLayers args.layersIndexStart
    expertPattern (some dht))
  let numExperts : Int := expertUids.length
  let numHandlers := args.numHandlers.getD (numExperts * 8)
  let experts ← createExperts w args PyDict.empty expertUids
  Server.init env dht experts numHandlers args.updatePeriod args.start none now

end Create

variable {env : Env} {w : World}

/-! ## The checks before the experts -/

lemma create_of_uids {args : CreateArgs} {now : DateTime} {fs : FS} {block : Int → Module}
    {dht : Dht} {p : String} {uids : List ExpertUID}
    (hblock : w.nameToBlock args.expertCls = some block) (hdht : w.dht = .ok dht)
    (hp : args.expertPattern = some p)
    (hgen : generateUids args.numExperts args.numLayers args.layersIndexStart p (some dht) = .ok uids) :
    create env w args now fs = (createExperts w args PyDict.empty uids >>= fun experts =>
      Server.init env dht experts (args.numHandlers.getD (uids.length * 8)) args.updatePeriod
        args.start none now) fs := by
  simp [create, hblock, hdht, hp, hgen, bind, Io.lift]

/-- A `create` that returned got through its checks and generated its uids. -/
lemma create_ok_inv {args : CreateArgs} {now : DateTime} {fs fs' : FS} {server : Server}
    (h : create env w args now fs = (.ok server, fs')) :
    ∃ block dht p uids, w.nameToBlock args.expertCls = some block ∧ w.dht = .ok dht ∧
      args.expertPattern = some p ∧
      generateUids args.numExperts args.numLayers args.layersIndexStart p (some dht) = .ok uids ∧
      (createExperts w args PyDict.empty uids >>= fun experts =>
        Server.init env dht experts (args.numHandlers.getD (uids.length * 8)) args.updatePeriod
          args.start none now) fs = (.ok server, fs') := by
  cases hblock : w.nameToBlock args.expertCls with
  | none => simp [create, hblock, Io.throw, bind] at h
  | some block =>
    cases hdht : w.dht with
    | error e => simp [create, hblock, hdht, bind, Io.lift] at h
    | ok dht =>
      cases hp : args.expertPattern with
      | none => simp [create, hblock, hdht, hp, bind, Io.lift, Io.throw] at h
      | some p =>
        cases hgen : generateUids args.numExperts args.numLayers args.layersIndexStart p
            (some dht) with
        | error e => simp [create, hblock, hdht, hp, hgen, bind, Io.lift] at h
        | ok uids =>
          exact ⟨block, dht, p, uids, rfl, rfl, rfl, hgen,
            by rwa [create_of_uids hblock hdht hp hgen] at h⟩

@[simp] lemma Server.init_none (dht : Dht) (experts : PyDict ModuleBackend) (n : Int) (up : Nat)
    (start : Bool) (now : DateTime) (fs : FS) :
    Server.init env dht experts n up start none now fs =
      (.ok ⟨dht, experts, up, n.toNat, none, !experts.items.isEmpty, start⟩, fs) := rfl

/-! ## Weights from a checkpoint directory -/

section Checkpoint

variable {args : CreateArgs} {d : Path} (hd : args.checkpointDir = some d)
  (hhf : truthy args.hugginfaceRep = false)
include hd hhf

/-- With `checkpoint_dir` set, building an expert always raises: the expert class's own error,
or the `TypeError` of the three-argument `load_expert` call. -/
lemma initExpert_checkpoint (expertUid : ExpertUID) (fs : FS) :
    ∃ e, initExpert w args expertUid fs = (.error e, fs) ∧
      ∀ base, makeExpert w args.loadIn4bit args.expertCls args.hiddenDim = .ok base →
        e = missingArguments "load_expert" ["checkpoint_dir"] := by
  unfold initExpert
  cases hm : makeExpert w args.loadIn4bit args.expertCls args.hiddenDim with
  | error e => exact ⟨e, rfl, by simp⟩
  | ok base =>
    refine ⟨_, ?_, fun _ _ => rfl⟩
    simp only [bind, Io.lift]
    simp [loadExpertWeights, hd, hhf, loadExpert_three_args]

lemma createExperts_checkpoint (experts : PyDict ModuleBackend) (u : ExpertUID)
    (us : List ExpertUID) (fs : FS) :
    ∃ e, createExperts w args experts (u :: us) fs = (.error e, fs) ∧
      ∀ base, makeExpert w args.loadIn4bit args.expertCls args.hiddenDim = .ok base →
        e = missingArguments "load_expert" ["checkpoint_dir"] := by
  obtain ⟨e, he, hbase⟩ := initExpert_checkpoint hd hhf u fs
  exact ⟨e, by rw [createExperts, Io.bind_of_error he], hbase⟩

/-- **`create` with a checkpoint directory never checkpoints, and restores nothing.**  With
`checkpoint_dir` set and no `hugginface_rep`, a call that returns has no checkpoint saver and
hosts no expert; with at least one uid and an expert that builds, it raises `load_expert`'s
`TypeError` instead. -/
theorem create_with_checkpoint_dir (now : DateTime) (fs : FS) :
    (∀ server fs', create env w args now fs = (.ok server, fs') →
      server.checkpointSaver = none ∧ server.moduleBackends.items = []) ∧
    ∀ block dht p uids base, w.nameToBlock args.expertCls = some block → w.dht = .ok dht →
      args.expertPattern = some p →
      generateUids args.numExperts args.numLayers args.layersIndexStart p (some dht) = .ok uids →
      uids ≠ [] → makeExpert w args.loadIn4bit args.expertCls args.hiddenDim = .ok base →
      create env w args now fs = (.error (missingArguments "load_expert" ["checkpoint_dir"]), fs) := by
  constructor
  · intro server fs' h
    obtain ⟨block, dht, p, uids, -, -, -, -, hrun⟩ := create_ok_inv h
    cases uids with
    | nil =>
      simp only [createExperts, Io.bind_of_ok (Io.pure_apply _ _), Server.init_none] at hrun
      cases hrun
      exact ⟨rfl, rfl⟩
    | cons u us =>
      obtain ⟨e, he, -⟩ := createExperts_checkpoint hd hhf PyDict.empty u us fs
      rw [Io.bind_of_error he] at hrun
      cases hrun
  · intro block dht p uids base hblock hdht hp hgen hne hbase
    obtain ⟨u, us, rfl⟩ := List.exists_cons_of_ne_nil hne
    obtain ⟨e, he, hmsg⟩ := createExperts_checkpoint hd hhf PyDict.empty u us fs
    rw [create_of_uids hblock hdht hp hgen, Io.bind_of_error he, hmsg base hbase]

end Checkpoint

/-- The environment of the examples: temporary files under `/tmp`, nothing refused. -/
def sampleEnv : Env := ⟨["tmp"], [], fun _ => false⟩

/-- A world with an empty DHT, one expert class `ffn`, and a Hub that cannot be reached. -/
def sampleWorld : World where
  dht := .ok fun _ => none
  nameToBlock cls := if cls = "ffn" then some fun _ => .mk (.other "FeedforwardBlock" []) [] else none
  hub := ⟨fun _ => .error (.raised "offline"), fun _ _ => .error (.raised "offline")⟩
  backendState _ := .ok (PyDict.empty, PyDict.empty)

/-- Six experts over two layers, restored from `/ckpt`. -/
def checkpointArgs : CreateArgs :=
  { numExperts := 3, numLayers := 2, checkpointDir := some ["ckpt"],
    expertPattern := some "expert.\x7blayer_id\x7d.\x7bexpert_id\x7d", start := false }

theorem create_with_checkpoint_dir_six_experts :
    checkpointArgs.checkpointDir = some ["ckpt"] ∧ truthy checkpointArgs.hugginfaceRep = false ∧
    ((∀ server fs', create sampleEnv sampleWorld checkpointArgs sampleNow FS.root = (.ok server, fs') →
      server.checkpointSaver = none ∧ server.moduleBackends.items = []) ∧
    ∀ block dht p uids base, sampleWorld.nameToBlock checkpointArgs.expertCls = some block →
      sampleWorld.dht = .ok dht → checkpointArgs.expertPattern = some p →
      generateUids checkpointArgs.numExperts checkpointArgs.numLayers
        checkpointArgs.layersIndexStart p (some dht) = .ok uids →
      uids ≠ [] → makeExpert sampleWorld checkpointArgs.loadIn4bit checkpointArgs.expertCls
        checkpointArgs.hiddenDim = .ok base →
      create sampleEnv sampleWorld checkpointArgs sampleNow FS.root =
        (.error (missingArguments "load_expert" ["checkpoint_dir"]), FS.root)) :=
  ⟨rfl, rfl, @create_with_checkpoint_dir sampleEnv sampleWorld checkpointArgs ["ckpt"] rfl rfl
    sampleNow FS.root⟩

/-! ## `__init__` with a checkpoint directory -/

/-- `__init__` given a checkpoint directory builds the saver, whose constructor makes one store
cycle: a run of one call. -/
lemma init_storeRun {env : Env} {dht : Dht} {backends : PyDict ModuleBackend} {n : Int} {up : Nat}
    {start : Bool} {d : Path} {now : DateTime} {fs fs' : FS} {server : Server}
    (hd : ∃ dn, fs.entry d = some (.dir dn))
    (h : Server.init env dht backends n up start (some d) now fs = (.ok server, fs')) :
    server.checkpointSaver = some ⟨backends, d, up, false, false⟩ ∧
      storeRun d [⟨env, backends, now⟩] fs = (.ok (), fs') := by
  obtain ⟨dn, hd⟩ := hd
  unfold Server.init at h
  obtain ⟨saver, fs1, hs, h⟩ := Io.ok_of_bind h
  cases h
  simp only [Functor.map] at hs
  obtain ⟨saver, fs2, hs, h⟩ := Io.ok_of_bind hs
  cases h
  unfold CheckpointSaver.init at hs
  rw [Io.bind_of_ok (isDirectory_of_dir hd)] at hs
  obtain ⟨⟨⟩, fs3, hst, h⟩ := Io.ok_of_bind hs
  cases h
  refine ⟨rfl, ?_⟩
  rw [storeRun, Io.forM_cons, Io.bind_of_ok hst, Io.forM_nil]
  rfl

/-- **`__init__` stores every expert before it returns.**  `Server(dht, experts,
checkpoint_dir=d, start=False)`, with `d` a directory, experts under plain names not yet in it,
and no expert's directory `d/e` being or lying above a directory `mkdtemp` may make, returns a
server with a checkpoint saver not yet started, after which `load_expert` given its four
arguments reads every expert's module state back from `d`, as its backend exported it.  What
`create` drops, the constructor does. -/
theorem init_stores_experts (env : Env) (dht : Dht) (backends : PyDict ModuleBackend) (n : Int)
    (up : Nat) (start : Bool) (d : Path) (now : DateTime) (fs fs' : FS) (server : Server)
    (hstart : start = false) (hplain : ∀ e ∈ backends.keys, PlainName e)
    (hd : ∃ dn, fs.entry d = some (.dir dn))
    (hcoll : ∀ e ∈ backends.keys, ∀ t ∈ env.tempNames, ¬ d ++ [e] <+: env.tempdir ++ ["tmp" ++ t.name])
    (hfresh : ∀ e ∈ backends.keys, fs.entry (d ++ [e]) = none)
    (h : Server.init env dht backends n up start (some d) now fs = (.ok server, fs')) :
    server.checkpointSaver = some ⟨backends, d, up, false, false⟩ ∧
      ∀ e ∈ backends.keys, ∃ b m bk, backends.get? e = some b ∧ b.stateDict = .ok (m, bk) ∧
        ∀ expert arg,
          loadExpert [.module expert, arg, .str e, .path d] fs' = (expert.loadStateDict m, fs') := by
  obtain ⟨hsaver, hrun⟩ := init_storeRun hd h
  refine ⟨hsaver, fun e he => ?_⟩
  obtain ⟨D, hsnap, hD⟩ := storeRun_dirs hplain hd
    (fun c hc => by rw [List.mem_singleton.mp hc]; exact ⟨rfl, hcoll⟩) (by exact List.nodup_singleton _)
    hfresh (List.cons_ne_nil _ _) hrun e he
  obtain ⟨m, bk, ⟨b, hb, hsd⟩, hload⟩ := loadExpert_of_snapshots (hplain e he) hsnap hD rfl
  exact ⟨b, m, bk, hb, hsd, hload⟩

/-- One expert `e`, exporting the module state `w = 1`. -/
def oneExpert : PyDict ModuleBackend :=
  ⟨[("e", sampleBackend (scalarDict 1) (scalarDict 2))], by decide⟩

theorem init_stores_experts_one :
    (∀ e ∈ oneExpert.keys, PlainName e) ∧ (∃ dn, sampleFS.entry ["ckpt"] = some (.dir dn)) ∧
      (∀ e ∈ oneExpert.keys, ∀ t ∈ stagingEnv.tempNames,
        ¬ ["ckpt"] ++ [e] <+: stagingEnv.tempdir ++ ["tmp" ++ t.name]) ∧
      (∀ e ∈ oneExpert.keys, sampleFS.entry (["ckpt"] ++ [e]) = none) ∧
      ∃ server fs', Server.init stagingEnv (fun _ => none) oneExpert 1 30 false (some ["ckpt"])
          sampleNow sampleFS = (.ok server, fs') ∧
        server.checkpointSaver = some ⟨oneExpert, ["ckpt"], 30, false, false⟩ ∧
        ∀ e ∈ oneExpert.keys, ∃ b m bk, oneExpert.get? e = some b ∧ b.stateDict = .ok (m, bk) ∧
          ∀ expert arg, loadExpert [.module expert, arg, .str e, .path ["ckpt"]] fs' =
            (expert.loadStateDict m, fs') :=
  ⟨by decide, ⟨[], rfl⟩, by decide, by decide, _, _, rfl,
    init_stores_experts stagingEnv (fun _ => none) oneExpert 1 30 false ["ckpt"] sampleNow sampleFS _ _
      rfl (by decide) ⟨[], rfl⟩ (by decide) (by decide) rfl⟩

/-! ## Repeated uids -/

/-- Two experts on one layer, named by the layer alone. -/
def repeatedUidArgs : CreateArgs :=
  { numExperts := 2, expertPattern := some "x\x7blayer_id\x7d", start := false }

/-- **A repeated uid costs an expert but not its handlers.**  Two experts on one layer with the
pattern `x{layer_id}` render `x0` twice: the `experts` dict keeps one backend, while
`num_handlers` is counted from the two uids. -/
theorem create_drops_repeated_uid :
    (create sampleEnv sampleWorld repeatedUidArgs sampleNow FS.root).1.map
      (fun s => (s.moduleBackends.keys, s.numConnHandlers)) = .ok (["x0"], 16) := by
  decide

/-! ## Weights from the Hugging Face Hub -/

lemma loadExpertWeights_hf {rep : String} (hrep : rep ≠ "") (expert : Module) (expertUid : ExpertUID) :
    loadExpertWeights w expert expertUid none (some rep) =
      Io.lift (loadWeightsFromHf w.hub expert expertUid.expertId expertUid.layerId rep) := by
  have : truthy (some rep) = true := by simpa [truthy] using hrep
  simp [loadExpertWeights, this, loadExpertFromHf]

/-- An expert as the Mixtral loader fills it: three bias-free linear layers under `block`. -/
def mixtralExpert : Module :=
  let w : Module := .mk (.linear ⟨2, 2, ⟨.float32, [2, 2], [0, 0, 0, 0]⟩, none, true⟩) []
  .mk (.other "Expert" []) [("block", .mk (.other "Block" []) [("w1", w), ("w2", w), ("w3", w)])]

/-- A Hub holding layer 0, expert 0 of a Mixtral checkpoint in one shard, in `bfloat16`. -/
def mixtralHub : Hub :=
  ⟨fun _ => .ok (PyDict.ofPairs [(mixtralKey 0 0 "w1", "model.safetensors"),
      (mixtralKey 0 0 "w2", "model.safetensors"), (mixtralKey 0 0 "w3", "model.safetensors")]),
    fun _ _ => .ok (PyDict.ofPairs [(mixtralKey 0 0 "w1", ⟨.bfloat16, [2, 2], [1, 0, 0, 1]⟩),
      (mixtralKey 0 0 "w2", ⟨.bfloat16, [2, 2], [2, 0, 0, 2]⟩),
      (mixtralKey 0 0 "w3", ⟨.bfloat16, [2, 2], [3, 0, 0, 3]⟩)])⟩

/-- `sampleWorld` with the expert class `mixtral` and that Hub. -/
def mixtralWorld : World :=
  { sampleWorld with
    nameToBlock := fun cls => if cls = "mixtral" then some fun _ => mixtralExpert else none
    hub := mixtralHub }

/-- One expert, from the Hub. -/
def mixtralArgs : CreateArgs :=
  { expertCls := "mixtral", hugginfaceRep := some "mixtral",
    expertPattern := some "expert.\x7blayer_id\x7d.\x7bexpert_id\x7d", start := false }

/-- A backend as the loop of `create` builds it for the uid `k`: named by `k`, with the batch
sizes of the arguments. -/
def Registered (args : CreateArgs) (k : String) (b : ModuleBackend) : Prop :=
  b.name = k ∧ b.minBatchSize = args.minBatchSize ∧ b.maxBatchSize = args.maxBatchSize

lemma initExpert_registered {args : CreateArgs} {u : ExpertUID} {fs fs' : FS} {b : ModuleBackend}
    (h : initExpert w args u fs = (.ok b, fs')) : Registered args u.uid b := by
  obtain ⟨_, _, -, h⟩ := Io.ok_of_bind h
  obtain ⟨_, _, -, h⟩ := Io.ok_of_bind h
  cases h
  exact ⟨rfl, rfl, rfl⟩

/-- **The loop of `create`.**  It adds each uid's string as a key, a repeated one in place. -/
lemma createExperts_keys {args : CreateArgs} :
    ∀ (uids : List ExpertUID) (d experts : PyDict ModuleBackend) {fs fs' : FS},
      createExperts w args d uids fs = (.ok experts, fs') →
      ∀ k, k ∈ experts.keys ↔ k ∈ d.keys ∨ k ∈ uids.map ExpertUID.uid
  | [], d, experts, fs, fs', h => by
    cases h
    exact fun k => by simp
  | u :: rest, d, experts, fs, fs', h => by
    obtain ⟨b, fs1, -, h⟩ := Io.ok_of_bind h
    intro k
    rw [createExperts_keys rest _ experts h k, PyDict.keys_setItem, List.map_cons, List.mem_cons]
    split_ifs with hu
    · constructor
      · exact fun hk => hk.imp_right .inr
      · rintro (hk | rfl | hk)
        exacts [.inl hk, .inl hu, .inr hk]
    · simp only [List.mem_append, List.mem_singleton, or_assoc]

/-- Every backend the loop leaves under a key it added was built by the loop body for a uid with
that key. -/
lemma createExperts_built {args : CreateArgs} :
    ∀ (uids : List ExpertUID) (d experts : PyDict ModuleBackend) {fs fs' : FS},
      createExperts w args d uids fs = (.ok experts, fs') →
      ∀ k b, experts.get? k = some b → d.get? k = some b ∨
        ∃ u ∈ uids, u.uid = k ∧ ∃ fs1 fs2, initExpert w args u fs1 = (.ok b, fs2)
  | [], d, experts, fs, fs', h => by
    cases h
    exact fun _ _ hk => .inl hk
  | u :: rest, d, experts, fs, fs', h => by
    obtain ⟨b, fs1, hb, h⟩ := Io.ok_of_bind h
    intro k b' hk
    rcases createExperts_built rest _ experts h k b' hk with hk | ⟨u', hu', hk', hbuilt⟩
    · rw [PyDict.get?_setItem] at hk
      split_ifs at hk with hku
      · cases hk
        exact .inr ⟨u, .head _, hku.symm, fs, fs1, hb⟩
      · exact .inl hk
    · exact .inr ⟨u', .tail _ hu', hk', hbuilt⟩

/-- What a call of `create` that returned has built, from its uids. -/
lemma create_ok_registered {args : CreateArgs} {now : DateTime} {fs fs' : FS} {server : Server}
    (h : create env w args now fs = (.ok server, fs')) :
    ∃ p dht uids, args.expertPattern = some p ∧ w.dht = .ok dht ∧
      generateUids args.numExperts args.numLayers args.layersIndexStart p (some dht) = .ok uids ∧
      (∀ k, k ∈ server.moduleBackends.keys ↔ k ∈ uids.map ExpertUID.uid) ∧
      (∀ k b, server.moduleBackends.get? k = some b → Registered args k b) ∧
      server.numConnHandlers = (args.numHandlers.getD (uids.length * 8)).toNat ∧
      server.checkpointSaver = none ∧
      server.hasDhtHandlerThread = !server.moduleBackends.items.isEmpty ∧
      ∀ k b, server.moduleBackends.get? k = some b →
        ∃ u ∈ uids, u.uid = k ∧ ∃ fs1 fs2, initExpert w args u fs1 = (.ok b, fs2) := by
  obtain ⟨-, dht, p, uids, -, hdht, hp, hgen, h⟩ := create_ok_inv h
  obtain ⟨experts, fs1, hexp, h⟩ := Io.ok_of_bind h
  rw [Server.init_none] at h
  cases h
  have hbuilt : ∀ k b, experts.get? k = some b →
      ∃ u ∈ uids, u.uid = k ∧ ∃ fs1 fs2, initExpert w args u fs1 = (.ok b, fs2) :=
    fun k b hk => (createExperts_built uids PyDict.empty experts hexp k b hk).resolve_left
      (by rw [PyDict.get?_empty]; exact nofun)
  refine ⟨p, dht, uids, hp, hdht, hgen, fun k => ?_, fun k b hk => ?_, rfl, rfl, rfl, hbuilt⟩
  · rw [createExperts_keys uids PyDict.empty experts hexp k, PyDict.keys_empty]
    exact or_iff_right (List.not_mem_nil k)
  obtain ⟨u, -, rfl, _, _, hu⟩ := hbuilt k b hk
  exact initExpert_registered hu

/-- A dictionary whose keys are the members of `l` lists them once each. -/
lemma keys_perm_dedup {α : Type} {d : PyDict α} {l : List String}
    (h : ∀ k, k ∈ d.keys ↔ k ∈ l) : d.keys.Perm l.dedup :=
  (List.perm_ext_iff_of_nodup d.keys_nodup (List.nodup_dedup _)).mpr fun k => by
    rw [List.mem_dedup, h]

/-- **What `create` returns.**  A call that returns hosts one backend per distinct uid
`_generate_uids` produced, each registered under its uid's string, named by it and with the
batch sizes asked for; it has as many experts as uids exactly when those strings are distinct,
while `num_handlers` is counted from the uids; it has no checkpoint saver; and it has a DHT
handler thread exactly when some uid was generated.  The calls that return in the model are those
whose pattern `formatFrom` renders, so a pattern with a conversion or format spec in a field
(which CPython renders) is not covered. -/
theorem create_registers (args : CreateArgs) (now : DateTime) (fs fs' : FS) (server : Server)
    (h : create env w args now fs = (.ok server, fs')) :
    ∃ p dht uids, args.expertPattern = some p ∧ w.dht = .ok dht ∧
      generateUids args.numExperts args.numLayers args.layersIndexStart p (some dht) = .ok uids ∧
      (∀ k, k ∈ server.moduleBackends.keys ↔ k ∈ uids.map ExpertUID.uid) ∧
      (∀ k b, server.moduleBackends.get? k = some b → Registered args k b) ∧
      (server.moduleBackends.keys.length = uids.length ↔ (uids.map ExpertUID.uid).Nodup) ∧
      server.numConnHandlers = (args.numHandlers.getD (uids.length * 8)).toNat ∧
      server.checkpointSaver = none ∧ server.hasDhtHandlerThread = !uids.isEmpty := by
  obtain ⟨p, dht, uids, hp, hdht, hgen, hmem, hregs, hn, hs, hdh, -⟩ := create_ok_registered h
  refine ⟨p, dht, uids, hp, hdht, hgen, hmem, hregs, ?_, hn, hs, ?_⟩
  · rw [(keys_perm_dedup hmem).length_eq, ← List.length_map uids ExpertUID.uid]
    exact ⟨fun hl => List.dedup_eq_self.mp ((List.dedup_sublist _).eq_of_length hl),
      fun hn => by rw [List.dedup_eq_self.mpr hn]⟩
  · have hnil : server.moduleBackends.items = [] ↔ uids = [] := by
      rw [← List.map_eq_nil_iff, ← PyDict.keys, ← List.map_eq_nil_iff (f := ExpertUID.uid),
        List.eq_nil_iff_forall_not_mem, List.eq_nil_iff_forall_not_mem]
      simp only [hmem]
    rw [hdh]
    congr 1
    rw [Bool.eq_iff_iff, List.isEmpty_iff, List.isEmpty_iff, hnil]

theorem create_registers_repeated_uid :
    ∃ server fs', create sampleEnv sampleWorld repeatedUidArgs sampleNow FS.root =
        (.ok server, fs') ∧
      ∃ p dht uids, repeatedUidArgs.expertPattern = some p ∧ sampleWorld.dht = .ok dht ∧
        generateUids repeatedUidArgs.numExperts repeatedUidArgs.numLayers
          repeatedUidArgs.layersIndexStart p (some dht) = .ok uids ∧
        (∀ k, k ∈ server.moduleBackends.keys ↔ k ∈ uids.map ExpertUID.uid) ∧
        (∀ k b, server.moduleBackends.get? k = some b → Registered repeatedUidArgs k b) ∧
        (server.moduleBackends.keys.length = uids.length ↔ (uids.map ExpertUID.uid).Nodup) ∧
        server.numConnHandlers = (repeatedUidArgs.numHandlers.getD (uids.length * 8)).toNat ∧
        server.checkpointSaver = none ∧ server.hasDhtHandlerThread = !uids.isEmpty :=
  ⟨_, _, rfl, @create_registers sampleEnv sampleWorld repeatedUidArgs sampleNow FS.root _ _ rfl⟩

/-- **One expert per index pair.**  With a pattern that tells the indices apart, a call of
`create` that returns hosts `max 0 num_experts * max 0 (num_layers - layers_index_start)`
experts: for every pair of `layerMajorPairs`, a backend `Registered` under the uid the pattern
renders for that pair. -/
theorem create_hosts_every_pair (args : CreateArgs) (now : DateTime) (fs fs' : FS)
    (server : Server) (p : String) (hp : args.expertPattern = some p)
    (hpat : distinctPattern p = true) (h : create env w args now fs = (.ok server, fs')) :
    (server.moduleBackends.keys.length : Int) =
        max 0 args.numExperts * max 0 (args.numLayers - args.layersIndexStart) ∧
      ∀ l e, (l, e) ∈ layerMajorPairs args.numExperts args.numLayers args.layersIndexStart →
        ∃ u b, generateUid p l e = .ok u ∧ server.moduleBackends.get? u = some b ∧
          Registered args u b := by
  obtain ⟨p', dht, uids, hp', -, hgen, hmem, hregs, -⟩ := create_ok_registered h
  obtain rfl : p' = p := Option.some.inj (hp'.symm.trans hp)
  have hnodup := nodup_uid_of_generateUids hpat hgen
  obtain ⟨render, hr, rfl⟩ := uids_of_generateUids (onlyFields_of_distinctPattern hpat) hgen
  refine ⟨?_, fun l e hle => ?_⟩
  · rw [(keys_perm_dedup hmem).length_eq, List.dedup_eq_self.mpr hnodup, List.length_map,
      List.length_map, length_layerMajorPairs]
  · have hk : render l e ∈ server.moduleBackends.keys :=
      (hmem _).mpr (List.mem_map.mpr ⟨⟨render l e, e, l⟩, List.mem_map.mpr ⟨(l, e), hle, rfl⟩, rfl⟩)
    obtain ⟨b, hb⟩ := Option.ne_none_iff_exists'.mp fun hn =>
      (PyDict.get?_eq_none_iff _ _).mp hn hk
    exact ⟨render l e, b, hr l e, hb, hregs _ _ hb⟩

/-- Two layers of two experts, named `x.<layer>.<expert>`. -/
def gridArgs : CreateArgs :=
  { numExperts := 2, numLayers := 2, expertPattern := some "x.\x7blayer_id\x7d.\x7bexpert_id\x7d",
    start := false }

theorem create_hosts_every_pair_grid :
    gridArgs.expertPattern = some "x.\x7blayer_id\x7d.\x7bexpert_id\x7d" ∧
      distinctPattern "x.\x7blayer_id\x7d.\x7bexpert_id\x7d" = true ∧
      ∃ server fs', create sampleEnv sampleWorld gridArgs sampleNow FS.root = (.ok server, fs') ∧
        (server.moduleBackends.keys.length : Int) =
          max 0 gridArgs.numExperts * max 0 (gridArgs.numLayers - gridArgs.layersIndexStart) ∧
        ∀ l e, (l, e) ∈ layerMajorPairs gridArgs.numExperts gridArgs.numLayers
            gridArgs.layersIndexStart →
          ∃ u b, generateUid "x.\x7blayer_id\x7d.\x7bexpert_id\x7d" l e = .ok u ∧
            server.moduleBackends.get? u = some b ∧ Registered gridArgs u b :=
  ⟨rfl, by decide, _, _, rfl, @create_hosts_every_pair sampleEnv sampleWorld gridArgs sampleNow
    FS.root _ _ _ rfl (by decide) rfl⟩

/-- **`create` takes only the patterns `_generate_uids` is specified for.**  Among the patterns
whose fields carry no conversion, format spec, attribute or index (`plainFields`, the fields
`formatFrom` follows as CPython does): over a grid with at least one (layer, expert) pair, a call
of `create` that returns was given a pattern that scans under `str.format`'s rules and whose only
replacement fields are `{layer_id}` and `{expert_id}`.  So the hypothesis of
`generateUids_enumerates` is necessary for a server to start. -/
theorem create_needs_onlyFields (args : CreateArgs) (now : DateTime) (fs fs' : FS)
    (server : Server) (p : String) (hp : args.expertPattern = some p) (hplain : plainFields p = true)
    (hne : 0 < args.numExperts) (hl : args.layersIndexStart < args.numLayers)
    (h : create env w args now fs = (.ok server, fs')) :
    onlyFields ["layer_id", "expert_id"] p = true := by
  obtain ⟨-, _, p', uids, -, -, hp', hgen, -⟩ := create_ok_inv h
  obtain rfl : p' = p := Option.some.inj (hp'.symm.trans hp)
  exact onlyFields_of_generateUids hne hl hgen

theorem create_needs_onlyFields_grid :
    gridArgs.expertPattern = some "x.\x7blayer_id\x7d.\x7bexpert_id\x7d" ∧
      plainFields "x.\x7blayer_id\x7d.\x7bexpert_id\x7d" = true ∧ 0 < gridArgs.numExperts ∧
      gridArgs.layersIndexStart < gridArgs.numLayers ∧
      ∃ server fs', create sampleEnv sampleWorld gridArgs sampleNow FS.root = (.ok server, fs') ∧
        onlyFields ["layer_id", "expert_id"] "x.\x7blayer_id\x7d.\x7bexpert_id\x7d" = true :=
  ⟨rfl, by decide, by decide, by decide, _, _, rfl, @create_needs_onlyFields sampleEnv sampleWorld
    gridArgs sampleNow FS.root _ _ _ rfl (by decide) (by decide) (by decide) rfl⟩

/-! ## Every hosted expert's weights -/

/-- With weights from the Hub and no checkpoint directory, a backend the loop body built holds
the expert class's module with the Hub's weights for the uid's pair loaded into it. -/
lemma initExpert_hf {args : CreateArgs} {rep : String} (hrep : rep ≠ "")
    (hhf : args.hugginfaceRep = some rep) (hckpt : args.checkpointDir = none) {u : ExpertUID}
    {fs fs' : FS} {b : ModuleBackend} (h : initExpert w args u fs = (.ok b, fs')) :
    ∃ base, makeExpert w args.loadIn4bit args.expertCls args.hiddenDim = .ok base ∧
      loadWeightsFromHf w.hub base u.expertId u.layerId rep = .ok b.module := by
  obtain ⟨base, fs1, hbase, h⟩ := Io.ok_of_bind h
  obtain ⟨m, fs2, hm, h⟩ := Io.ok_of_bind h
  cases h
  rw [hhf, hckpt, loadExpertWeights_hf hrep, Io.lift_apply] at hm
  rw [Io.lift_apply] at hbase
  exact ⟨base, congrArg Prod.fst hbase, congrArg Prod.fst hm⟩

/-- Without quantization the loop body builds the expert class's module as it is. -/
lemma makeExpert_of_block {cls : String} {block : Int → Module} (hblock : w.nameToBlock cls = some block)
    (hiddenDim : Int) : makeExpert w false cls hiddenDim = .ok (block hiddenDim) := by
  simp [makeExpert, hblock]

end MoeServer
