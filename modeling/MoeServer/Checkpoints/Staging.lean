import MoeServer.Checkpoints.Store
import MoeServer.FileSystem.Contents

/-!
# A store cycle that fails while staging leaves nothing behind

`store_experts` writes nothing outside its temporary directory until `copy_tree` begins.  The
staging loop creates entries strictly below the directory `tmp` that `mkdtemp` made, and the
links it creates point below `tmp` too, so writing through them stays below `tmp` as well:
`StagingFrame tmp fs0` says exactly that, and every call of the loop keeps it, whether it
returns or raises (`stageExpert_keeps`).  `mkdtemp` only added `tmp` to its parent
(`mkdtempFrom_ok`), and `rmtree(tmp)` removes what lies below it and unlists it again
(`rmtree_restores`).

* **`storeExperts_atomic`** — when the staging loop raises, `store_experts` raises the same
  exception and leaves the file system exactly as it found it: the checkpoint directory, and
  every other entry, unchanged, and the staging directory gone.
-/

namespace MoeServer

/-- `fs` agrees with `fs0` everywhere outside the tree below `tmp`, `tmp` is a directory, and
every link below `tmp` points below `tmp`. -/
def StagingFrame (tmp : Path) (fs0 fs : FS) : Prop :=
  fs0.AgreeOn (¬ tmp <+: ·) fs ∧ (∃ names, fs.entry tmp = some (.dir names)) ∧ fs.LinksBelow tmp

variable {env : Env}

section Frame

variable {tmp : Path} {fs0 : FS}

lemma prefix_dropLast {p q : Path} (h : p <+: q) (hne : q ≠ p) : p <+: q.dropLast := by
  obtain ⟨r, rfl⟩ := h
  obtain rfl | ⟨r', a, rfl⟩ := List.eq_nil_or_concat r
  · simp at hne
  · rw [List.concat_eq_append, ← List.append_assoc, List.dropLast_concat]
    exact List.prefix_append _ _

lemma createNew_keeps {call : Syscall} {q : Path} {e : Entry} (hq : tmp <+: q)
    (hnames : e.names = []) (he : ∀ t, e = .symlink t → tmp <+: t) :
    Io.Keeps (StagingFrame tmp fs0) (createNew env call q e) := by
  intro fs hfs
  obtain ⟨hframe, ⟨ns, hT⟩, hsym⟩ := hfs
  rcases createNew_state env call q e fs with h | ⟨n, names, hqn, hp, hnone, h⟩
  · rw [h]; exact ⟨hframe, ⟨ns, hT⟩, hsym⟩
  · rw [h]
    have hqT : q ≠ tmp := by rintro rfl; simp [hT] at hnone
    have hpre : tmp <+: q.dropLast := prefix_dropLast hq hqT
    have hentry := FS.create_entry hp (by rw [hqn]; exact hnone) hnames
    refine ⟨fun r hr => ?_, ?_, fun r t hr ht => ?_⟩
    · rw [hentry, if_neg, if_neg, hframe r hr]
      · rintro rfl; exact hr hpre
      · intro h; rw [h, hqn] at hr; exact hr hq
    · rw [hentry, if_neg (by rw [hqn]; exact hqT.symm)]
      split_ifs with hTd
      · exact ⟨_, rfl⟩
      · exact ⟨ns, hT⟩
    · rw [hentry] at ht
      split_ifs at ht with h1 h2
      · cases ht; exact he t rfl
      · cases ht
      · exact hsym r t hr ht

lemma openWrite_keeps {q : Path} {data : StateDict} (hq : tmp <+: q) :
    Io.Keeps (StagingFrame tmp fs0) (openWrite env q data) := by
  intro fs hfs
  obtain ⟨hframe, ⟨ns, hT⟩, hsym⟩ := hfs
  unfold openWrite
  split
  · exact ⟨hframe, ⟨ns, hT⟩, hsym⟩
  · rename_i t ht
    have htT : tmp <+: t := FS.resolveWith_below hsym _ q t hq ht
    split
    · rename_i old hold
      split
      · exact ⟨hframe, ⟨ns, hT⟩, hsym⟩
      · have hne : t ≠ tmp := by rintro rfl; simp [hT] at hold
        have hentry := @FS.overwrite_entry fs t data old hold
        refine ⟨fun r hr => ?_, ⟨ns, by rw [hentry, if_neg hne.symm, hT]⟩, fun r t' hr h' => ?_⟩
        · rw [hentry, if_neg (by rintro rfl; exact hr htT), hframe r hr]
        · rw [hentry] at h'
          split_ifs at h' with h1
          · cases h'
          · exact hsym r t' hr h'
    · exact ⟨hframe, ⟨ns, hT⟩, hsym⟩
    · exact ⟨hframe, ⟨ns, hT⟩, hsym⟩
    · exact createNew_keeps htT (show (Entry.file data).names = [] from rfl) (by simp) fs
        ⟨hframe, ⟨ns, hT⟩, hsym⟩

/-- One pass of the staging loop for a plain name writes below `tmp` only, however it ends. -/
lemma stageExpert_keeps (timestamp : String) {expertName : String} (hname : PlainName expertName)
    (expertBackend : ModuleBackend) :
    Io.Keeps (StagingFrame tmp fs0) (stageExpert env tmp timestamp expertName expertBackend) := by
  have below : ∀ f, tmp <+: tmp ++ [expertName] ++ [f] := fun f =>
    (List.prefix_append tmp [expertName]).trans (List.prefix_append _ _)
  unfold stageExpert mkdir saveSafetensor symlink
  simp only [lookupName_plain hname, namePath_plain hname, Io.pure_bind]
  refine Io.keeps_bind (createNew_keeps (List.prefix_append _ _) rfl (by simp)) fun _ => ?_
  refine Io.keeps_bind (Io.keeps_lift _) fun ⟨_, _⟩ => ?_
  refine Io.keeps_bind (openWrite_keeps (below _)) fun _ => ?_
  refine Io.keeps_bind (openWrite_keeps (below _)) fun _ => ?_
  refine Io.keeps_bind (createNew_keeps (below _) rfl fun t ht => ?_) fun _ => ?_
  · cases ht; exact below _
  · exact createNew_keeps (below _) rfl fun t ht => by cases ht; exact below _

/-- **The staging loop over plain names writes below `tmp` only**, however it ends. -/
lemma stagingLoop_keeps (env : Env) (items : List (String × ModuleBackend))
    (hnames : ∀ e ∈ items.map Prod.fst, PlainName e) (timestamp : String) :
    Io.Keeps (StagingFrame tmp fs0) (items.forM fun (expertName, expertBackend) =>
      stageExpert env tmp timestamp expertName expertBackend) :=
  Io.keeps_forM fun ⟨e, b⟩ h => stageExpert_keeps timestamp (hnames e (List.mem_map_of_mem _ h)) b

end Frame

/-! ## The temporary directory -/

/-- A `mkdtemp` that returned made one new, empty directory under the temporary directory,
named `tmp` followed by one of the names it may draw. -/
lemma mkdtempFrom_ok : ∀ {names : List TempName} {fs fs' : FS} {tmp : Path},
    mkdtempFrom env names fs = (.ok tmp, fs') → ∃ x dirNames, tmp = env.tempdir ++ [x] ∧
      fs.entry env.tempdir = some (.dir dirNames) ∧ fs.entry tmp = none ∧
      fs' = fs.create env.tempdir x (.dir []) ∧ ∃ n ∈ names, x = "tmp" ++ n.name
  | [], _, _, _, h => by cases h
  | name :: names, fs, fs', tmp, h => by
    unfold mkdtempFrom at h
    dsimp only at h
    split at h
    · rename_i fs1 hmk
      cases h
      obtain ⟨n, dirNames, hn, hp, hnone, -, rfl⟩ := createNew_ok env hmk
      have hd : (env.tempdir ++ ["tmp" ++ name.name]).dropLast = env.tempdir := by simp
      rw [hd] at hn hp ⊢
      obtain rfl : n = "tmp" ++ name.name := by simpa using hn
      exact ⟨_, dirNames, rfl, hp, hnone, rfl, name, .head _, rfl⟩
    · rename_i fs1 _ hmk
      rw [createNew_error env hmk] at h
      obtain ⟨x, dirNames, htmp, hp, hnone, hfs, n, hn, hx⟩ := mkdtempFrom_ok h
      exact ⟨x, dirNames, htmp, hp, hnone, hfs, n, .tail _ hn, hx⟩
    · cases h

/-- Nothing was below the new directory, so at first nothing but it has changed. -/
lemma stagingFrame_create {fs : FS} {p : Path} {x : String} {dirNames : List String}
    (hp : fs.entry p = some (.dir dirNames)) (hnone : fs.entry (p ++ [x]) = none) :
    StagingFrame (p ++ [x]) (fs.create p x (.dir [])) (fs.create p x (.dir [])) := by
  have hentry := FS.create_entry hp hnone (show (Entry.dir []).names = [] from rfl)
  refine ⟨fun _ _ => rfl, ⟨[], by simp [hentry]⟩, fun q t hq h => ?_⟩
  rw [hentry] at h
  split_ifs at h with h1 h2
  · cases h
  · exact absurd (h2 ▸ hq) FS.not_prefix_of_child
  · rw [FS.entry_eq_none_below hnone hq] at h; cases h

/-- **`rmtree` undoes `mkdtemp` and the staging below it.** -/
lemma rmtree_restores {fs fsS : FS} {p : Path} {x : String} {dirNames : List String}
    (hp : fs.entry p = some (.dir dirNames)) (hnone : fs.entry (p ++ [x]) = none)
    (hS : StagingFrame (p ++ [x]) (fs.create p x (.dir [])) fsS) :
    rmtree (p ++ [x]) fsS = (.ok (), fs) := by
  obtain ⟨hframe, ⟨ns, hT⟩, -⟩ := hS
  have hentry := FS.create_entry hp hnone (show (Entry.dir []).names = [] from rfl)
  have hpS : fsS.entry p = some (.dir (dirNames ++ [x])) := by
    rw [hframe p FS.not_prefix_of_child, hentry]; simp
  have hx : x ∉ dirNames := by simp [FS.mem_names_iff hp, hnone]
  have hrm : rmtree (p ++ [x]) fsS = (.ok (), fsS.removeTree p x) := by
    simp [rmtree, hT]
  rw [hrm]
  congr 1
  refine FS.ext fun q => ?_
  rw [FS.removeTree_entry hpS]
  split_ifs with h1 h2
  · exact (FS.entry_eq_none_below hnone h1).symm
  · rw [h2, hp, List.erase_append_right _ hx]; simp
  · rw [hframe q h1, hentry, if_neg (by rintro rfl; exact h1 (List.prefix_refl _)), if_neg h2]

/-! ## The store cycle -/

lemma isDirectory_ok {fs : FS} {d : Path} {names : List String} (h : fs.stat d = some (.dir names)) :
    isDirectory d fs = (.ok (), fs) := by
  simp [isDirectory, pathExists, isdir, h, bind, Io.bind_apply]

/-- **A store cycle that fails while staging changes nothing.**  Take experts whose names are
single path components.  If `is_directory` passes,
`mkdtemp` returns `tmp`, and the staging loop then raises — a backend's `state_dict()`, a
`save_safetensor`, a `mkdir` or an `os.symlink` — then `store_experts` raises the same
exception and leaves the whole file system as it was: every entry under the checkpoint
directory unchanged, and the staging directory gone. -/
theorem storeExperts_atomic (experts : PyDict ModuleBackend) (d : Path) (now : DateTime)
    (fs fsT fsS : FS) (tmp : Path) (err : PyError) (hnames : ∀ e ∈ experts.keys, PlainName e)
    (hd : ∃ names, fs.stat d = some (.dir names)) (hmk : mkdtemp env fs = (.ok tmp, fsT))
    (hstage : (experts.items.forM fun (expertName, expertBackend) =>
      stageExpert env tmp (now.isoformat "_") expertName expertBackend) fsT = (.error err, fsS)) :
    storeExperts env experts d now fs = (.error err, fs) ∧ fs.entry tmp = none := by
  obtain ⟨names, hd⟩ := hd
  obtain ⟨x, dirNames, rfl, hp, hnone, rfl, -⟩ := mkdtempFrom_ok hmk
  have hS := stagingLoop_keeps env experts.items hnames (now.isoformat "_") _
    (stagingFrame_create hp hnone)
  rw [hstage] at hS
  refine ⟨?_, hnone⟩
  unfold storeExperts withTemporaryDirectory Io.tryFinally
  rw [Io.bind_of_ok (isDirectory_ok hd), Io.bind_of_ok hmk]
  beta_reduce
  rw [Io.bind_of_error hstage]
  simp only [rmtree_restores hp hnone hS]

/-- The name `tempfile` draws first in the examples. -/
def sampleTempName : TempName := ⟨"abcdefgh", rfl, by decide⟩

/-- Temporary directories under `/tmp`, nothing refused. -/
def stagingEnv : Env := ⟨["tmp"], [sampleTempName], fun _ => false⟩

/-- A root holding the empty directories `/ckpt` and `/tmp`. -/
def sampleFS : FS := (FS.root.create [] "ckpt" (.dir [])).create [] "tmp" (.dir [])

/-- One expert whose backend raises in `state_dict()`. -/
def failingExperts : PyDict ModuleBackend :=
  ⟨[("e", ⟨"e", .mk (.other "Block" []) [], 1, 1, .error (.raised "state_dict")⟩)], by decide⟩

theorem storeExperts_atomic_failing_backend :
    ∃ fsT fsS tmp err, (∀ e ∈ failingExperts.keys, PlainName e) ∧
      (∃ names, sampleFS.stat ["ckpt"] = some (.dir names)) ∧
      mkdtemp stagingEnv sampleFS = (.ok tmp, fsT) ∧
      (failingExperts.items.forM fun (expertName, expertBackend) =>
        stageExpert stagingEnv tmp (sampleNow.isoformat "_") expertName expertBackend) fsT =
          (.error err, fsS) ∧
      storeExperts stagingEnv failingExperts ["ckpt"] sampleNow sampleFS = (.error err, sampleFS) ∧
      sampleFS.entry tmp = none :=
  ⟨_, _, _, _, by decide, ⟨[], rfl⟩, rfl, rfl,
    storeExperts_atomic failingExperts ["ckpt"] sampleNow sampleFS _ _ _ _ (by decide) ⟨[], rfl⟩ rfl
      rfl⟩

/-! ## A name that is more than one component -/

/-- One expert under the name `expertName`, whose backend exports two empty state dicts. -/
def namedExperts (expertName : String) : PyDict ModuleBackend :=
  ⟨[(expertName, ⟨expertName, .mk (.other "Block" []) [], 1, 1, .ok (⟨[], by simp⟩, ⟨[], by simp⟩)⟩)],
    by simp⟩

/-- What a staged expert's directory lists once the cycle at `sampleNow` has made it. -/
def sampleStagedNames : List String :=
  [moduleCheckpointFile (sampleNow.isoformat "_"), backendCheckpointFile (sampleNow.isoformat "_"),
    "module.safetensors", "checkpoint_last.safetensors"]

/-- **A name with `..`, or an absolute one, takes the staging out of the staging directory.**
`Path("/tmp/tmpabcdefgh") / "../x"` is looked up as `/tmp/x`, beside the staging directory and
outside the checkpoint directory `/ckpt`: the expert is staged there, `copy_tree` finds nothing
of it in the staging directory, the cleanup removes only that directory, and the cycle returns
leaving `/tmp/x` behind with the expert's four entries.  The name `/x` leaves `/x`. -/
theorem storeExperts_stages_outside :
    (¬ ["tmp", "tmpabcdefgh"] <+: ["tmp", "x"] ∧ ¬ ["ckpt"] <+: ["tmp", "x"] ∧
      sampleFS.entry ["tmp", "x"] = none ∧
      (storeExperts stagingEnv (namedExperts "../x") ["ckpt"] sampleNow sampleFS).1 = .ok () ∧
      (storeExperts stagingEnv (namedExperts "../x") ["ckpt"] sampleNow sampleFS).2.entry
        ["tmp", "x"] = some (.dir sampleStagedNames)) ∧
    (sampleFS.entry ["x"] = none ∧
      (storeExperts stagingEnv (namedExperts "/x") ["ckpt"] sampleNow sampleFS).1 = .ok () ∧
      (storeExperts stagingEnv (namedExperts "/x") ["ckpt"] sampleNow sampleFS).2.entry ["x"] =
        some (.dir sampleStagedNames)) := by
  decide

end MoeServer
