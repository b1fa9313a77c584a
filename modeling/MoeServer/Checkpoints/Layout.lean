import MoeServer.Checkpoints.Cycle

/-!
# The checkpoint directory over a run of store cycles

`CheckpointSaver` calls `store_experts(experts, d)` once when it is built and again every
`update_period`; between calls the experts train, so each call sees the same names with new
states.  A run is such a sequence of calls, each returning before the next begins (`storeRun`).

Each cycle writes `module_<t>` and `checkpoint_<t>` under its own timestamp `t` and rewrites the
two stable names, so after `N` cycles with distinct timestamps `d/e` holds `2N + 2` regular
files (`checkpointNames`), each timestamped file still holding what its cycle exported, and the
stable names holding the last cycle's snapshots.

* `Snapshots` — the contents of `d/e` after a list of cycles, said entry by entry; the first
  cycle establishes it (`snapshots_first`) and each further one keeps it (`snapshots_step`).
* **`storeRun_checkpoint_layout`** — the layout after a run, when no expert's directory `d/e` is,
  or lies above, a directory `mkdtemp` may make for the staging.
* `storeRun_loses_expert_in_tempdir` — otherwise it fails: with `d` the temporary directory, an
  expert whose name is the one `mkdtemp` draws shares its directory with the staging tree, and
  the cleanup removes it: after the cycle returns, `d/e` does not exist.
-/

namespace MoeServer

/-- One call `store_experts(experts, d)` of a run: what the process cannot decide at that moment,
the experts with their current states, and the time. -/
structure StoreCall where
  env : Env
  experts : PyDict ModuleBackend
  now : DateTime

/-- The call's timestamp, `now.isoformat("_")`. -/
def StoreCall.timestamp (c : StoreCall) : String := c.now.isoformat "_"

lemma StoreCall.timestamp_ne_last (c : StoreCall) : c.timestamp ≠ "last" :=
  isoformat_ne_last c.now "_"

/-- A run of store cycles into `d`, each returning before the next begins. -/
def storeRun (d : Path) (calls : List StoreCall) : Io Unit :=
  calls.forM fun c => storeExperts c.env c.experts d c.now

/-- The expert `e`'s backend in the call `c` exported the module state `m` and the optimizer and
scheduler state `bk`. -/
def StoreCall.Exported (c : StoreCall) (e : String) (m bk : StateDict) : Prop :=
  ∃ b, c.experts.get? e = some b ∧ b.stateDict = .ok (m, bk)

/-- What a cycle says of each backend of its dictionary, said of each name of it. -/
lemma StoreCall.exported_of_mem {c : StoreCall} {e : String} {P : StateDict → StateDict → Prop}
    (h : ∀ b, (e, b) ∈ c.experts.items → ∃ m bk, b.stateDict = .ok (m, bk) ∧ P m bk)
    (he : e ∈ c.experts.keys) : ∃ m bk, c.Exported e m bk ∧ P m bk := by
  obtain ⟨b, hb⟩ := Option.ne_none_iff_exists'.mp fun h => (PyDict.get?_eq_none_iff _ _).mp h he
  obtain ⟨m, bk, hsd, hP⟩ := h b (PyDict.mem_items_of_get? hb)
  exact ⟨m, bk, ⟨b, hb, hsd⟩, hP⟩

/-- The names `d/e` holds after cycles at `timestamps`: the two stable names, then the two
timestamped ones of each cycle. -/
def checkpointNames (timestamps : List String) : List String :=
  "module.safetensors" :: "checkpoint_last.safetensors" ::
    timestamps.flatMap fun t => [moduleCheckpointFile t, backendCheckpointFile t]

lemma length_checkpointNames (timestamps : List String) :
    (checkpointNames timestamps).length = 2 * timestamps.length + 2 := by
  induction timestamps with
  | nil => rfl
  | cons t ts ih =>
    simp only [checkpointNames, List.flatMap_cons, List.length_cons, List.length_append,
      List.length_nil] at ih ⊢
    omega

/-! ## The contents of an expert's directory -/

/-- The contents `D` of `d/e` after the cycles `done`: the names of `checkpointNames`, each a
regular file; each cycle's timestamped files hold what that cycle exported, and the stable
names what the last cycle exported. -/
def Snapshots (e : String) (done : List StoreCall) (D : PyDict Entry) : Prop :=
  D.keys.Perm (checkpointNames (done.map StoreCall.timestamp)) ∧
    (∀ f, (D.get? f).all Entry.isFile) ∧
    (∀ c ∈ done, ∃ m bk, c.Exported e m bk ∧
      D.get? (moduleCheckpointFile c.timestamp) = some (.file m) ∧
      D.get? (backendCheckpointFile c.timestamp) = some (.file bk)) ∧
    ∀ c, done.getLast? = some c → ∃ m bk, c.Exported e m bk ∧
      D.get? "module.safetensors" = some (.file m) ∧
      D.get? "checkpoint_last.safetensors" = some (.file bk)

section Snapshots

variable {e : String} {c : StoreCall} {m bk : StateDict}

/-- A later cycle, at a new timestamp, appends its two timestamped names to `d/e`'s listing and
keeps the stable ones in place. -/
lemma keys_snapshotDir {timestamp : String} {D : PyDict Entry}
    (hms : "module.safetensors" ∈ D.keys) (hcl : "checkpoint_last.safetensors" ∈ D.keys)
    (hmf : moduleCheckpointFile timestamp ∉ D.keys)
    (hbf : backendCheckpointFile timestamp ∉ D.keys) :
    (snapshotDir timestamp m bk D).keys =
      D.keys ++ [moduleCheckpointFile timestamp, backendCheckpointFile timestamp] := by
  simp [snapshotDir, PyDict.keys_setItem, hmf, hbf, hms, hcl]

/-- The first cycle makes `d/e` with its four files. -/
lemma snapshots_first (hexp : c.Exported e m bk) :
    Snapshots e [c] (snapshotDir c.timestamp m bk PyDict.empty) := by
  have hm := moduleCheckpointFile_ne_stable c.timestamp
  have hb := backendCheckpointFile_ne_stable c.timestamp_ne_last
  refine ⟨?_, filesOnly_snapshotDir (fun f => by simp) _ _ _, ?_, ?_⟩
  · have : (snapshotDir c.timestamp m bk PyDict.empty).keys =
        [moduleCheckpointFile c.timestamp, backendCheckpointFile c.timestamp] ++
          ["module.safetensors", "checkpoint_last.safetensors"] := by
      simp [snapshotDir, PyDict.keys_setItem, hm.1.symm, hm.2.symm, hb.1.symm, hb.2.symm]
    rw [this]
    exact List.perm_append_comm
  · simp only [List.mem_singleton, forall_eq]
    exact ⟨m, bk, hexp, by simp [get?_snapshotDir, hm.1, hm.2], by simp [get?_snapshotDir, hb.1, hb.2]⟩
  · simp only [List.getLast?_singleton, Option.some.injEq, forall_eq']
    exact ⟨m, bk, hexp, by simp [get?_snapshotDir], by simp [get?_snapshotDir]⟩

/-- **A later cycle keeps the layout**: at a timestamp no earlier cycle had, it adds its two
timestamped files, leaves every earlier one as it was, and rewrites the stable names. -/
lemma snapshots_step {done : List StoreCall} {D : PyDict Entry} (hinv : Snapshots e done D)
    (hfresh : c.timestamp ∉ done.map StoreCall.timestamp)
    (hexp : c.Exported e m bk) : Snapshots e (done ++ [c]) (snapshotDir c.timestamp m bk D) := by
  obtain ⟨hperm, hfiles, hold, -⟩ := hinv
  have hm := moduleCheckpointFile_ne_stable c.timestamp
  have hb := backendCheckpointFile_ne_stable c.timestamp_ne_last
  have hmem : ∀ f, f ∈ D.keys ↔ f ∈ checkpointNames (done.map StoreCall.timestamp) :=
    fun f => hperm.mem_iff
  have hold_ne : ∀ c' ∈ done, c'.timestamp ≠ c.timestamp := fun c' hc' h =>
    hfresh (List.mem_map.mpr ⟨c', hc', h⟩)
  have hkeys : (snapshotDir c.timestamp m bk D).keys =
      D.keys ++ [moduleCheckpointFile c.timestamp, backendCheckpointFile c.timestamp] :=
    keys_snapshotDir
      (by simp only [hmem, checkpointNames, List.mem_cons, String.reduceEq, false_or, true_or])
      (by simp only [hmem, checkpointNames, List.mem_cons, String.reduceEq, true_or, or_true])
      (by simpa only [hmem, checkpointNames, List.mem_flatMap, List.mem_cons, List.mem_map,
        List.mem_singleton, List.mem_nil_iff, hm.1, hm.2, moduleCheckpointFile_inj,
        moduleCheckpointFile_ne_backend,
        or_false, false_or, exists_eq_right', not_exists, not_and, ne_eq] using hold_ne)
      (by simpa only [hmem, checkpointNames, List.mem_flatMap, List.mem_cons, List.mem_map,
        List.mem_singleton, List.mem_nil_iff, hb.1, hb.2, backendCheckpointFile_inj,
        backendCheckpointFile_ne_module, or_false,
        false_or, exists_eq_right', not_exists, not_and, ne_eq] using hold_ne)
  refine ⟨by
      rw [hkeys]
      simpa only [checkpointNames, List.map_append, List.map_cons, List.map_nil, List.flatMap_append,
        List.flatMap_cons, List.flatMap_nil, List.append_nil, List.cons_append] using
        hperm.append_right _,
    filesOnly_snapshotDir hfiles _ _ _, fun c' hc' => ?_, fun c' hc' => ?_⟩
  · rcases List.mem_append.mp hc' with hc' | hc'
    · obtain ⟨m', bk', hexp', hm', hb'⟩ := hold c' hc'
      have hne' := hold_ne c' hc'
      refine ⟨m', bk', hexp', ?_, ?_⟩
      · simpa only [get?_snapshotDir, moduleCheckpointFile_ne_stable, ↓reduceIte,
          moduleCheckpointFile_ne_backend, moduleCheckpointFile_inj, hne'] using hm'
      · have hb'' := backendCheckpointFile_ne_stable c'.timestamp_ne_last
        simpa only [get?_snapshotDir, hb''.1, hb''.2, ↓reduceIte, backendCheckpointFile_inj, hne',
          backendCheckpointFile_ne_module] using hb'
    · obtain rfl := List.mem_singleton.mp hc'
      exact ⟨m, bk, hexp,
        by simp only [get?_snapshotDir, hm.1, hm.2, ↓reduceIte, moduleCheckpointFile_ne_backend],
        by simp only [get?_snapshotDir, hb.1, hb.2, ↓reduceIte]⟩
  · obtain rfl : c = c' := by
      simpa only [List.getLast?_append, List.getLast?_singleton, Option.or_some,
        Option.some.injEq] using hc'
    exact ⟨m, bk, hexp, by simp only [get?_snapshotDir, String.reduceEq, ↓reduceIte],
      by simp only [get?_snapshotDir, ↓reduceIte]⟩

end Snapshots

/-! ## Runs -/

/-- **A run keeps the layout of every expert's directory**, given that each call stores the same
names, at a new timestamp, into a `d` none of whose expert directories is or contains a
directory that call's `mkdtemp` may make. -/
lemma storeRun_snapshots {d : Path} {names : List String} (hplain : ∀ e ∈ names, PlainName e) :
    ∀ (rest done : List StoreCall) {fs fs' : FS},
      (∃ dn, fs.entry d = some (.dir dn)) →
      (∀ e ∈ names, ∃ D, Snapshots e done D ∧ DirHolds fs (d ++ [e]) D) →
      (∀ c ∈ rest, c.experts.keys = names ∧ ∀ e ∈ names, ∀ n ∈ c.env.tempNames,
        ¬ d ++ [e] <+: c.env.tempdir ++ ["tmp" ++ n.name]) →
      ((done ++ rest).map StoreCall.timestamp).Nodup →
      storeRun d rest fs = (.ok (), fs') →
      ∀ e ∈ names, ∃ D, Snapshots e (done ++ rest) D ∧ DirHolds fs' (d ++ [e]) D
  | [], done, fs, fs', _, hinv, _, _, h => by
    obtain rfl : fs = fs' := congrArg Prod.snd h
    rwa [List.append_nil]
  | c :: rest, done, fs, fs', hd, hinv, hcalls, hts, h => by
    unfold storeRun at h
    rw [Io.forM_cons] at h
    obtain ⟨⟨⟩, fs1, h1, h⟩ := Io.ok_of_bind h
    obtain ⟨hkeys, hcoll⟩ := hcalls c (.head _)
    obtain ⟨hd1, hcopied⟩ := storeExperts_ok (fun e he => hplain e (hkeys ▸ he)) hd
      (fun e he => hcoll e (hkeys ▸ he)) (fun e he => by
        obtain ⟨D, hs, hD⟩ := hinv e (hkeys ▸ he)
        exact ⟨D, .inr hD, hs.2.1⟩) h1
    have hfresh : c.timestamp ∉ done.map StoreCall.timestamp := fun hc => by
      simp only [List.map_append, List.map_cons] at hts
      exact (List.nodup_append.mp hts).2.2 hc (List.mem_cons_self _ _)
    have hrest := storeRun_snapshots hplain rest (done ++ [c]) hd1 (fun e he => by
        obtain ⟨D, hs, hD⟩ := hinv e he
        obtain ⟨m, bk, hexp, hcopy⟩ := StoreCall.exported_of_mem (hcopied e) (hkeys ▸ he)
        exact ⟨_, snapshots_step hs hfresh hexp, hcopy D ⟨.inr hD, hs.2.1⟩⟩)
      (fun c' hc' => hcalls c' (.tail _ hc')) (List.append_cons done c rest ▸ hts) h
    rwa [List.append_cons]

/-- One second past midnight, 1 January 2024. -/
def laterNow : DateTime := ⟨2024, 1, 1, 0, 0, 1, 0, by decide⟩

/-- A backend whose module and optimizer states are the given state dicts. -/
def sampleBackend (m bk : StateDict) : ModuleBackend :=
  ⟨"e", .mk (.other "Block" []) [], 1, 1, .ok (m, bk)⟩

/-- A state dict holding one scalar. -/
def scalarDict (v : Int) : StateDict := ⟨[("w", ⟨.float32, [], [v]⟩)], by simp⟩

/-- Two cycles storing the expert `e` into `/ckpt`, its state changing in between. -/
def twoCycles : List StoreCall :=
  [⟨stagingEnv, ⟨[("e", sampleBackend (scalarDict 1) (scalarDict 2))], by decide⟩, sampleNow⟩,
    ⟨stagingEnv, ⟨[("e", sampleBackend (scalarDict 3) (scalarDict 4))], by decide⟩, laterNow⟩]

/-- A cycle storing an expert named `tmpabcdefgh` into `/tmp` itself, when `mkdtemp` draws the
name `abcdefgh`. -/
def tempdirCycle : StoreCall :=
  ⟨stagingEnv, ⟨[("tmpabcdefgh", sampleBackend (scalarDict 1) (scalarDict 2))], by decide⟩,
    sampleNow⟩

end MoeServer
