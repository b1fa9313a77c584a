import MoeServer.Checkpoints.Staging
import MoeServer.Checkpoints.CopyTree

/-!
# What a store cycle that returns leaves in the checkpoint directory

A cycle stages each expert `e` as `tmp/e` holding the two snapshot files and the two links to
them (`stagedDir`), then `copy_tree(tmp, d)` walks the staging tree: for each expert it makes
`d/e` if it is missing and copies the four names into it with `shutil.copy2`, which follows the
links, so the stable names arrive in `d/e` as regular files holding the newest snapshots.  Names
already in `d/e` keep their place in its listing and take the new contents; new names go last
(`snapshotDir`).

The copy reads below `tmp` and writes `d`'s listing and below each `d/e`.  Those are apart
when `tmp` did not exist before the cycle, `d` did, and no `d/e` is `tmp` or one of its
ancestors (`apart_of_fresh`) — `d` itself may be the temporary directory or above it, as long as
no expert's name collides with the staging directory's.  Then no write of the copy changes what
a later read sees, and `rmtree(tmp)` leaves every `d/e` alone.  The copy is taken apart one
level at a time with `copyTree_ok`.

* `stageExpert_ok`, `stageExperts_ok` — the staging loop that returned staged every expert.
* `copyFiles_ok`, `copyExpert_ok`, `copyExperts_ok` — the copy that returned wrote each expert's
  four files into its directory under `d`.
* **`storeExperts_ok`** — after a cycle that returns, each expert's directory under `d` holds
  what it held before with the cycle's four files written over it.
-/

namespace MoeServer

variable {env : Env}

/-! ## The staged and the copied directory -/

/-- The directory `tmp/e` as one pass of the staging loop leaves it: the two snapshot files and
the two links to them, in the order they are created. -/
def stagedDir (dir : Path) (timestamp : String) (m bk : StateDict) : PyDict Entry :=
  (((PyDict.empty.setItem (moduleCheckpointFile timestamp) (.file m)).setItem
    (backendCheckpointFile timestamp) (.file bk)).setItem "module.safetensors"
      (.symlink (dir ++ [moduleCheckpointFile timestamp]))).setItem "checkpoint_last.safetensors"
        (.symlink (dir ++ [backendCheckpointFile timestamp]))

/-- The staging loop creates the four names in this order. -/
lemma keys_stagedDir (dir : Path) {timestamp : String} (hts : timestamp ≠ "last") (m bk : StateDict) :
    (stagedDir dir timestamp m bk).keys = [moduleCheckpointFile timestamp,
      backendCheckpointFile timestamp, "module.safetensors", "checkpoint_last.safetensors"] := by
  have hm := moduleCheckpointFile_ne_stable timestamp
  have hb := backendCheckpointFile_ne_stable hts
  simp [stagedDir, PyDict.keys_setItem, hm.1.symm, hm.2.symm, hb.1.symm, hb.2.symm]

/-- The contents `D` of `d/e` with a cycle's four files copied over them: the module snapshot `m`
under `module_<timestamp>` and `module.safetensors`, the backend snapshot `bk` under
`checkpoint_<timestamp>` and `checkpoint_last.safetensors`. -/
def snapshotDir (timestamp : String) (m bk : StateDict) (D : PyDict Entry) : PyDict Entry :=
  (((D.setItem (moduleCheckpointFile timestamp) (.file m)).setItem
    (backendCheckpointFile timestamp) (.file bk)).setItem "module.safetensors" (.file m)).setItem
      "checkpoint_last.safetensors" (.file bk)

/-- Copying the four staged names over `D`, one after another, gives `snapshotDir`. -/
lemma foldl_snapshotDir (timestamp : String) (m bk : StateDict) (D : PyDict Entry) :
    [(moduleCheckpointFile timestamp, m), (backendCheckpointFile timestamp, bk),
      ("module.safetensors", m), ("checkpoint_last.safetensors", bk)].foldl
      (fun D p => D.setItem p.1 (.file p.2)) D = snapshotDir timestamp m bk D := by
  simp only [List.foldl_cons, List.foldl_nil, snapshotDir]

lemma get?_snapshotDir (timestamp : String) (m bk : StateDict) (D : PyDict Entry) (f : String) :
    (snapshotDir timestamp m bk D).get? f =
      if f = "checkpoint_last.safetensors" then some (.file bk)
      else if f = "module.safetensors" then some (.file m)
      else if f = backendCheckpointFile timestamp then some (.file bk)
      else if f = moduleCheckpointFile timestamp then some (.file m)
      else D.get? f := by
  simp only [snapshotDir, PyDict.get?_setItem]

/-- A directory under `d` before a cycle: missing, or holding `D`; either way every entry of `D`
is a regular file. -/
def HoldsFiles (fs : FS) (p : Path) (D : PyDict Entry) : Prop :=
  (fs.entry p = none ∧ D = PyDict.empty ∨ DirHolds fs p D) ∧ ∀ f, (D.get? f).all Entry.isFile

lemma HoldsFiles.agree {fs fs' : FS} {p : Path} {D : PyDict Entry} (hD : HoldsFiles fs p D)
    (h : fs.AgreeOn (p <+: ·) fs') : HoldsFiles fs' p D := by
  refine ⟨?_, hD.2⟩
  rcases hD.1 with ⟨hnone, rfl⟩ | hD
  · exact .inl ⟨(h p (List.prefix_refl _)).trans hnone, rfl⟩
  · exact .inr (hD.agree h)

lemma filesOnly_snapshotDir {D : PyDict Entry} (hD : ∀ f, (D.get? f).all Entry.isFile)
    (timestamp : String) (m bk : StateDict) (f : String) :
    ((snapshotDir timestamp m bk D).get? f).all Entry.isFile := by
  simp only [get?_snapshotDir, apply_ite (Option.all Entry.isFile), Option.all_some,
    Entry.isFile, hD f, ite_self]

/-! ## Paths -/

/-- Two children of one directory that are both prefixes of a path are the same child. -/
lemma prefix_child_inj {p q : Path} {a b : String} (ha : p ++ [a] <+: q) (hb : p ++ [b] <+: q) :
    a = b := by
  rcases List.prefix_or_prefix_of_prefix ha hb with h | h
  · simpa using h.eq_of_length (by simp)
  · simpa using (h.eq_of_length (by simp)).symm

/-- The staging directory is apart from an expert's directory `d/e`: it is new, `d` exists, and
`d/e` is not the staging directory or an ancestor of it.  Then nothing below `d/e` is below the
staging directory. -/
lemma apart_of_fresh {fs : FS} {d tmp : Path} {e : String} (hd : fs.entry d ≠ none)
    (htmp : fs.entry tmp = none) (hcoll : ¬ d ++ [e] <+: tmp) : ∀ r, ¬ tmp <+: d ++ e :: r := by
  intro r h
  rcases List.prefix_or_prefix_of_prefix h (by simp : d ++ [e] <+: d ++ e :: r) with h | h
  · rcases List.prefix_concat_iff.mp h with rfl | h
    · exact hcoll (List.prefix_refl _)
    · exact hd (FS.entry_eq_none_below htmp h)
  · exact hcoll h

/-- Below an expert's directory that is apart from the staging directory, nothing is below the
staging directory. -/
lemma not_below_of_apart {d tmp q : Path} {e : String} (hapart : ∀ r, ¬ tmp <+: d ++ e :: r)
    (hcoll : ¬ d ++ [e] <+: tmp) (hq : d ++ [e] <+: q) : ¬ tmp <+: q := fun h => by
  rcases List.prefix_or_prefix_of_prefix h hq with h | h
  · exact hapart [] h
  · exact hcoll h

/-! ## Staging -/

section Staging

variable {tmp : Path} {fs fs' : FS} {timestamp : String}

/-- **One pass of the staging loop that returned**: the backend's `state_dict()` returned, and
`tmp/e` holds the two snapshots and the links to them; nothing outside `tmp/e` changed but
`tmp`'s listing. -/
lemma stageExpert_ok {names : List String} {expertName : String} {expertBackend : ModuleBackend}
    (hname : PlainName expertName) (htmp : fs.entry tmp = some (.dir names))
    (h : stageExpert env tmp timestamp expertName expertBackend fs = (.ok (), fs')) :
    ∃ m bk, expertBackend.stateDict = .ok (m, bk) ∧
      fs'.entry tmp = some (.dir (names ++ [expertName])) ∧
      DirHolds fs' (tmp ++ [expertName]) (stagedDir (tmp ++ [expertName]) timestamp m bk) ∧
      fs.AgreeOn (fun q => q ≠ tmp ∧ ¬ tmp ++ [expertName] <+: q) fs' := by
  unfold stageExpert mkdir saveSafetensor symlink at h
  simp only [lookupName_plain hname, namePath_plain hname, Io.pure_bind] at h
  obtain ⟨⟨⟩, fs1, h1, h⟩ := Io.ok_of_bind h
  obtain ⟨⟨m, bk⟩, fs2, h2, h⟩ := Io.ok_of_bind h
  obtain ⟨hb, rfl⟩ : expertBackend.stateDict = .ok (m, bk) ∧ fs1 = fs2 := by
    simpa [Io.lift] using h2
  obtain ⟨⟨⟩, fs3, h3, h⟩ := Io.ok_of_bind h
  obtain ⟨⟨⟩, fs4, h4, h⟩ := Io.ok_of_bind h
  obtain ⟨⟨⟩, fs5, h5, h6⟩ := Io.ok_of_bind h
  obtain ⟨n, -, hn, -, hnone, -, hfs1⟩ := createNew_ok env h1
  simp only [List.dropLast_concat] at hn hfs1
  obtain rfl : n = expertName := by simpa using hn
  subst hfs1
  have hentry := FS.create_entry htmp hnone (show (Entry.dir []).names = [] from rfl)
  have w3 := openWrite_holds env (DirHolds.of_empty (by rw [hentry]; simp)) (by simp) h3
  have w4 := openWrite_holds env w3.1 (by simp [PyDict.get?_setItem]) h4
  have w5 := createNew_holds env w4.1 (by rfl) h5
  have w6 := createNew_holds env w5.1 (by rfl) h6
  have hframe : (fs.create tmp n (.dir [])).AgreeOn (¬ tmp ++ [n] <+: ·) fs' := fun q hq => by
    have hne : ∀ f, q ≠ tmp ++ [n] ∧ q ≠ tmp ++ [n] ++ [f] := fun f =>
      ⟨fun h => hq (h ▸ List.prefix_refl _), fun h => hq (h ▸ List.prefix_append _ _)⟩
    rw [w6.2 q (hne _), w5.2 q (hne _), w4.2 q (hne _), w3.2 q (hne _)]
  refine ⟨m, bk, hb, ?_, w6.1, fun q hq => ?_⟩
  · rw [hframe tmp FS.not_prefix_of_child, hentry]; simp
  · rw [hframe q hq.2, hentry, if_neg (show q ≠ tmp ++ [n] from fun h => hq.2 (h ▸ List.prefix_refl _)),
      if_neg hq.1]

/-- **The staging loop that returned** staged every expert of the dictionary, in its order. -/
lemma stageExperts_ok :
    ∀ (items : List (String × ModuleBackend)) (done : List String) {fs fs' : FS},
      (∀ e ∈ items.map Prod.fst, PlainName e) → fs.entry tmp = some (.dir done) →
      (items.forM fun (expertName, expertBackend) =>
        stageExpert env tmp timestamp expertName expertBackend) fs = (.ok (), fs') →
      fs'.entry tmp = some (.dir (done ++ items.map Prod.fst)) ∧
      fs.AgreeOn (fun q => q ≠ tmp ∧ ∀ n ∈ items.map Prod.fst, ¬ tmp ++ [n] <+: q) fs' ∧
      ∀ n b, (n, b) ∈ items → ∃ m bk, b.stateDict = .ok (m, bk) ∧
        DirHolds fs' (tmp ++ [n]) (stagedDir (tmp ++ [n]) timestamp m bk)
  | [], done, fs, fs', _, htmp, h => by
    obtain rfl : fs = fs' := congrArg Prod.snd h
    rw [List.map_nil, List.append_nil]
    exact ⟨htmp, FS.AgreeOn.refl _ _, fun _ _ h => absurd h (List.not_mem_nil _)⟩
  | (n, b) :: items, done, fs, fs', hnames, htmp, h => by
    rw [Io.forM_cons] at h
    obtain ⟨⟨⟩, fs1, h1, h⟩ := Io.ok_of_bind h
    obtain ⟨m, bk, hb, htmp1, hstaged, hframe1⟩ := stageExpert_ok (hnames n (.head _)) htmp h1
    obtain ⟨htmp', hframe, hrest⟩ :=
      stageExperts_ok items (done ++ [n]) (fun e he => hnames e (.tail _ he)) htmp1 h
    have hn : n ∉ items.map Prod.fst := by
      have := fs'.nodup _ _ htmp'
      simp only [List.append_assoc, List.singleton_append] at this
      exact (List.nodup_cons.mp (List.nodup_append.mp this).2.1).1
    refine ⟨by simpa using htmp', fun q hq => ?_, fun n' b' hmem => ?_⟩
    · rw [hframe q ⟨hq.1, fun n' hn' => hq.2 n' (.tail _ hn')⟩,
        hframe1 q ⟨hq.1, hq.2 n (.head _)⟩]
    · rcases List.mem_cons.mp hmem with h | hmem
      · obtain ⟨rfl, rfl⟩ := Prod.mk.inj h
        refine ⟨m, bk, hb, hstaged.agree fun q hq => hframe q ⟨?_, fun n'' hn'' hp => ?_⟩⟩
        · rintro rfl; exact FS.not_prefix_of_child hq
        · exact hn (prefix_child_inj hq hp ▸ hn'')
      · exact hrest n' b' hmem

end Staging

/-! ## Copying -/

section Copy

variable {tmp d : Path} {fs fs' : FS}

/-- `copy_tree`'s loop over the regular files (and links to them) of `src`, into `dst`: each
arrives as a regular file holding what `src`'s entry reads as. -/
lemma copyFiles_ok (fuel : Nat) {src dst : Path} (hsrc : tmp <+: src)
    (hapart : ∀ r, ¬ tmp <+: dst ++ r) :
    ∀ (files : List (String × StateDict)) (D : PyDict Entry) {fs fs' : FS},
      fs.LinksBelow tmp → DirHolds fs dst D → (∀ f, (D.get? f).all Entry.isFile) →
      (∀ p ∈ files, fs.stat (src ++ [p.1]) = some (.file p.2)) →
      ((files.map Prod.fst).forM fun item => do
        if ← isdir (src ++ [item]) then copyTree env fuel (src ++ [item]) (dst ++ [item])
        else copy2 env (src ++ [item]) (dst ++ [item])) fs = (.ok (), fs') →
      DirHolds fs' dst (files.foldl (fun D p => D.setItem p.1 (.file p.2)) D) ∧
        fs.AgreeOn (¬ dst <+: ·) fs'
  | [], D, fs, fs', _, hD, _, _, h => by
    obtain rfl : fs = fs' := congrArg Prod.snd h
    exact ⟨hD, FS.AgreeOn.refl _ _⟩
  | (f, c) :: files, D, fs, fs', hlinks, hD, hfiles, hstat, h => by
    rw [List.map_cons, Io.forM_cons] at h
    obtain ⟨⟨⟩, fs1, h1, h⟩ := Io.ok_of_bind h
    have hf := hstat (f, c) (.head _)
    have hisdir : isdir (src ++ [f]) fs = (.ok false, fs) := by
      simp only [isdir, Io.read_apply, hf]
    simp only [Io.bind_apply, hisdir, Bool.false_eq_true, if_false] at h1
    have w := copy2_holds env hD (hfiles f) hf h1
    have hout : fs.AgreeOn (¬ dst <+: ·) fs1 := w.2.mono fun q hq =>
      ⟨fun h => hq (h ▸ List.prefix_refl _), fun h => hq (h ▸ List.prefix_append _ _)⟩
    have hbelow : fs.AgreeOn (tmp <+: ·) fs1 := hout.mono fun q hq ⟨r, hr⟩ =>
      hapart r (hr ▸ hq)
    obtain ⟨hD', hout'⟩ := copyFiles_ok fuel hsrc hapart files _
      (fun q t hq ht => hlinks q t hq ((hbelow q hq).symm.trans ht)) w.1
      (fun g => by
        simp only [PyDict.get?_setItem, apply_ite (Option.all Entry.isFile), Option.all_some,
          Entry.isFile, hfiles g, ite_self])
      (fun p hp => (FS.stat_agree hlinks hbelow (hsrc.trans (List.prefix_append _ _))).trans
        (hstat p (.tail _ hp))) h
    exact ⟨hD', hout.trans hout'⟩

/-- What the four staged names read as. -/
lemma stat_staged {m bk : StateDict} {e timestamp : String} (hts : timestamp ≠ "last")
    (hstaged : DirHolds fs (tmp ++ [e]) (stagedDir (tmp ++ [e]) timestamp m bk)) :
    ∀ p ∈ [(moduleCheckpointFile timestamp, m), (backendCheckpointFile timestamp, bk),
      ("module.safetensors", m), ("checkpoint_last.safetensors", bk)],
      fs.stat (tmp ++ [e] ++ [p.1]) = some (.file p.2) := by
  have hne := backendCheckpointFile_ne_stable hts
  have hm : fs.entry (tmp ++ [e] ++ [moduleCheckpointFile timestamp]) = some (.file m) := by
    rw [hstaged.2]; simp [stagedDir, PyDict.get?_setItem]
  have hb : fs.entry (tmp ++ [e] ++ [backendCheckpointFile timestamp]) = some (.file bk) := by
    rw [hstaged.2]; simp [stagedDir, PyDict.get?_setItem, hne.1, hne.2]
  simp only [List.mem_cons, List.mem_singleton, List.not_mem_nil, or_false, forall_eq_or_imp,
    forall_eq]
  refine ⟨FS.stat_of_file hm, FS.stat_of_file hb,
    FS.stat_of_symlink (by rw [hstaged.2]; simp [stagedDir, PyDict.get?_setItem]) hm,
    FS.stat_of_symlink (by rw [hstaged.2]; simp [stagedDir, PyDict.get?_setItem]) hb⟩

/-- **`copy_tree(tmp/e, d/e)` that returned**: `d/e` holds what it held with the four staged
names copied over it, `d` is still a directory, and nothing outside `d/e` changed but `d`'s
listing. -/
lemma copyExpert_ok (fuel : Nat) {e timestamp : String} {m bk : StateDict} {D : PyDict Entry}
    (hts : timestamp ≠ "last") (hlinks : fs.LinksBelow tmp) (hdapart : ¬ tmp <+: d)
    (hapart : ∀ r, ¬ tmp <+: d ++ e :: r)
    (hstaged : DirHolds fs (tmp ++ [e]) (stagedDir (tmp ++ [e]) timestamp m bk))
    (hd : ∃ dn, fs.entry d = some (.dir dn)) (hD : HoldsFiles fs (d ++ [e]) D)
    (h : copyTree env (fuel + 1) (tmp ++ [e]) (d ++ [e]) fs = (.ok (), fs')) :
    DirHolds fs' (d ++ [e]) (snapshotDir timestamp m bk D) ∧
      fs.AgreeOn (fun q => q ≠ d ∧ ¬ d ++ [e] <+: q) fs' ∧ ∃ dn, fs'.entry d = some (.dir dn) := by
  obtain ⟨dn, hd⟩ := hd
  obtain ⟨fs1, h1, h⟩ := copyTree_ok h
  -- `d/e` exists after the `makedirs`, holding `D`, and only `d` and `d/e` changed
  have hmade : DirHolds fs1 (d ++ [e]) D ∧ fs.AgreeOn (fun q => q ≠ d ∧ q ≠ d ++ [e]) fs1 ∧
      ∃ dn, fs1.entry d = some (.dir dn) := by
    rcases hD.1 with ⟨hnone, rfl⟩ | hD
    · rw [FS.stat_of_none hnone] at h1
      simp only [Option.isSome_none, Bool.not_false, if_true] at h1
      rw [makedirs_child env (by rw [FS.stat_of_dir hd]; rfl)] at h1
      obtain ⟨n, -, hn, -, -, -, hfs1⟩ := createNew_ok env h1
      simp only [List.dropLast_concat] at hn hfs1
      obtain rfl : n = e := by simpa using hn
      subst hfs1
      have hentry := FS.create_entry hd hnone (show (Entry.dir []).names = [] from rfl)
      exact ⟨DirHolds.of_empty (by rw [hentry]; simp), fun q hq => FS.create_entry_of_ne hq.1 hq.2,
        dn ++ [n], by rw [hentry]; simp⟩
    · rw [FS.stat_of_dir hD.1] at h1
      obtain rfl : fs = fs1 := by simpa using h1
      exact ⟨hD, FS.AgreeOn.refl _ _, dn, hd⟩
  obtain ⟨hD1, hframe1, dn1, hd1⟩ := hmade
  have hbelow1 : fs.AgreeOn (tmp <+: ·) fs1 := hframe1.mono fun q hq =>
    ⟨fun h => hdapart (h ▸ hq), fun h => hapart [] (h ▸ hq)⟩
  have hlinks1 : fs1.LinksBelow tmp := fun q t hq ht => hlinks q t hq ((hbelow1 q hq).symm.trans ht)
  have h := h _ (by rw [FS.stat_agree hlinks hbelow1 (List.prefix_append _ _),
    FS.stat_of_dir hstaged.1])
  rw [keys_stagedDir _ hts] at h
  have hfiles := stat_staged hts hstaged
  obtain ⟨hD', hout⟩ := copyFiles_ok fuel (List.prefix_append tmp [e])
    (fun r => by simpa using hapart r) _ D hlinks1 hD1 hD.2
    (fun p hp => (FS.stat_agree hlinks hbelow1 ((List.prefix_append tmp [e]).trans
      (List.prefix_append _ _))).trans (hfiles p hp)) h
  rw [foldl_snapshotDir] at hD'
  refine ⟨hD', fun q hq => (hout q hq.2).trans (hframe1 q ⟨hq.1, fun h => hq.2 (h ▸ ?_)⟩),
    ?_⟩
  · exact List.prefix_refl _
  · exact ⟨dn1, (hout d FS.not_prefix_of_child).trans hd1⟩

/-- **`copy_tree(tmp, d)`'s loop over the staged experts, when it returned**: each expert's
directory under `d` holds what it held with its four staged names copied over it, `d` is still a
directory, and nothing outside those directories changed but `d`'s listing. -/
lemma copyExperts_ok (fuel : Nat) {timestamp : String} (hts : timestamp ≠ "last")
    (hdapart : ¬ tmp <+: d) :
    ∀ (names : List String) {fs fs' : FS}, names.Nodup →
      (∀ e ∈ names, ∀ r, ¬ tmp <+: d ++ e :: r) → fs.LinksBelow tmp →
      (∃ dn, fs.entry d = some (.dir dn)) →
      (∀ e ∈ names, (∃ m bk, DirHolds fs (tmp ++ [e]) (stagedDir (tmp ++ [e]) timestamp m bk)) ∧
        ∃ D, HoldsFiles fs (d ++ [e]) D) →
      (names.forM fun item => do
        if ← isdir (tmp ++ [item]) then copyTree env (fuel + 1) (tmp ++ [item]) (d ++ [item])
        else copy2 env (tmp ++ [item]) (d ++ [item])) fs = (.ok (), fs') →
      fs.AgreeOn (fun q => q ≠ d ∧ ∀ e ∈ names, ¬ d ++ [e] <+: q) fs' ∧
        (∃ dn, fs'.entry d = some (.dir dn)) ∧
        ∀ e ∈ names, ∀ m bk D, DirHolds fs (tmp ++ [e]) (stagedDir (tmp ++ [e]) timestamp m bk) →
          HoldsFiles fs (d ++ [e]) D → DirHolds fs' (d ++ [e]) (snapshotDir timestamp m bk D)
  | [], fs, fs', _, _, _, hd, _, h => by
    obtain rfl : fs = fs' := congrArg Prod.snd h
    exact ⟨FS.AgreeOn.refl _ _, hd, fun e he => absurd he (List.not_mem_nil e)⟩
  | e :: names, fs, fs', hnd, hapart, hlinks, hd, hpre, h => by
    rw [Io.forM_cons] at h
    obtain ⟨⟨⟩, fs1, h1, h⟩ := Io.ok_of_bind h
    obtain ⟨⟨m, bk, hstaged⟩, D, hD⟩ := hpre e (.head _)
    have hisdir : isdir (tmp ++ [e]) fs = (.ok true, fs) := by
      simp only [isdir, Io.read_apply, FS.stat_of_dir hstaged.1]
    simp only [Io.bind_apply, hisdir, if_true] at h1
    obtain ⟨-, hframe1, hd1⟩ :=
      copyExpert_ok fuel hts hlinks hdapart (hapart e (.head _)) hstaged hd hD h1
    have he : e ∉ names := (List.nodup_cons.mp hnd).1
    have hbelow1 : fs.AgreeOn (tmp <+: ·) fs1 := hframe1.mono fun q hq =>
      ⟨fun h => hdapart (h ▸ hq), fun ⟨r, hr⟩ => hapart e (.head _) r
        (by rw [← List.singleton_append, ← List.append_assoc, hr]; exact hq)⟩
    have hother : ∀ e' ∈ names, fs.AgreeOn (d ++ [e'] <+: ·) fs1 := fun e' he' =>
      hframe1.mono fun q hq => ⟨fun h => FS.not_prefix_of_child (h ▸ hq),
        fun hp => he (prefix_child_inj hp hq ▸ he')⟩
    obtain ⟨hframe, hd', hrest⟩ := copyExperts_ok fuel hts hdapart names (List.nodup_cons.mp hnd).2
      (fun e' he' => hapart e' (.tail _ he'))
      (fun q t hq ht => hlinks q t hq ((hbelow1 q hq).symm.trans ht)) hd1
      (fun e' he' => by
        obtain ⟨⟨m', bk', hs⟩, D', hD'⟩ := hpre e' (.tail _ he')
        exact ⟨⟨m', bk', hs.agree (hbelow1.mono fun q hq => (List.prefix_append _ _).trans hq)⟩,
          D', hD'.agree (hother e' he')⟩) h
    refine ⟨fun q hq => (hframe q ⟨hq.1, fun e' he' => hq.2 e' (.tail _ he')⟩).trans
      (hframe1 q ⟨hq.1, hq.2 e (.head _)⟩), hd', fun e' he' m' bk' D' hs hD' => ?_⟩
    rcases List.mem_cons.mp he' with rfl | he'
    · exact (copyExpert_ok fuel hts hlinks hdapart (hapart _ (.head _)) hs ⟨_, hd.choose_spec⟩ hD'
        h1).1.agree
        fun q hq => hframe q ⟨fun h => FS.not_prefix_of_child (h ▸ hq),
          fun e'' he'' hp => he (prefix_child_inj hq hp ▸ he'')⟩
    · exact hrest e' he' m' bk' D'
        (hs.agree (hbelow1.mono fun q hq => (List.prefix_append _ _).trans hq))
        (hD'.agree (hother e' he'))

end Copy

/-! ## The cycle -/

lemma isDirectory_of_dir {fs : FS} {d : Path} {dn : List String} (hd : fs.entry d = some (.dir dn)) :
    isDirectory d fs = (.ok (), fs) :=
  isDirectory_ok (FS.stat_of_dir hd)

/-- **A store cycle that returned** wrote each expert's four files into its directory under `d`:
the backend's `state_dict()` returned `(m, bk)`, and `d/e` holds what it held before with
`module_<t>` and `module.safetensors` holding `m`, `checkpoint_<t>` and
`checkpoint_last.safetensors` holding `bk`, for the cycle's timestamp `t`.  This needs each
expert's name to be one path component, its directory to be missing or to hold regular files
only, and no directory `mkdtemp` may make — `tmp` followed by a name it may draw, in the
temporary directory — to be an expert's directory `d/e` or to lie inside one. -/
theorem storeExperts_ok {experts : PyDict ModuleBackend} {d : Path} {now : DateTime} {fs fs' : FS}
    (hnames : ∀ e ∈ experts.keys, PlainName e) (hd : ∃ dn, fs.entry d = some (.dir dn))
    (hcoll : ∀ e ∈ experts.keys, ∀ n ∈ env.tempNames,
      ¬ d ++ [e] <+: env.tempdir ++ ["tmp" ++ n.name])
    (hpre : ∀ e ∈ experts.keys, ∃ D, HoldsFiles fs (d ++ [e]) D)
    (h : storeExperts env experts d now fs = (.ok (), fs')) :
    (∃ dn, fs'.entry d = some (.dir dn)) ∧
      ∀ e b, (e, b) ∈ experts.items → ∃ m bk, b.stateDict = .ok (m, bk) ∧
        ∀ D, HoldsFiles fs (d ++ [e]) D →
          DirHolds fs' (d ++ [e]) (snapshotDir (now.isoformat "_") m bk D) := by
  obtain ⟨dn, hd⟩ := hd
  unfold storeExperts withTemporaryDirectory at h
  rw [Io.bind_of_ok (isDirectory_of_dir hd)] at h
  obtain ⟨tmp, fsT, hmk, h⟩ := Io.ok_of_bind h
  obtain ⟨x, dirNames, rfl, hp, hnone, rfl, n, hn, rfl⟩ := mkdtempFrom_ok hmk
  obtain ⟨fsB, hbody, hrm⟩ := Io.tryFinally_ok h
  obtain ⟨⟨⟩, fsS, hstage, hcopy⟩ := Io.ok_of_bind hbody
  have hentryT := FS.create_entry hp hnone (show (Entry.dir []).names = [] from rfl)
  obtain ⟨htmpS, -, hstaged⟩ :=
    stageExperts_ok experts.items [] hnames (by rw [hentryT]; simp) hstage
  have hS := stagingLoop_keeps env experts.items hnames (now.isoformat "_") _
    (stagingFrame_create hp hnone)
  rw [hstage] at hS
  -- the staging directory lies apart from `d` and from every expert's directory
  have hcollx : ∀ e ∈ experts.keys, ¬ d ++ [e] <+: env.tempdir ++ ["tmp" ++ n.name] :=
    fun e he => hcoll e he n hn
  have hdapart : ¬ env.tempdir ++ ["tmp" ++ n.name] <+: d := fun h => by
    simp [FS.entry_eq_none_below hnone h] at hd
  have hapart : ∀ e ∈ experts.keys, ∀ r, ¬ env.tempdir ++ ["tmp" ++ n.name] <+: d ++ e :: r :=
    fun e he => apart_of_fresh (by simp [hd]) hnone (hcollx e he)
  have hnotT : ∀ e ∈ experts.keys, ∀ q, d ++ [e] <+: q →
      ¬ env.tempdir ++ ["tmp" ++ n.name] <+: q ∧ q ≠ env.tempdir := fun e he q hq =>
    ⟨not_below_of_apart (hapart e he) (hcollx e he) hq,
      fun h => hcollx e he ((h ▸ hq).trans (List.prefix_append _ _))⟩
  -- the staging leaves each `d/e` alone, and `d` a directory
  have hdS : ∀ e ∈ experts.keys, fs.AgreeOn (d ++ [e] <+: ·) fsS := fun e he q hq => by
    obtain ⟨hq1, hq2⟩ := hnotT e he q hq
    rw [hS.1 q hq1, FS.create_entry_of_ne hq2 (fun h => hq1 (by subst h; exact List.prefix_refl _))]
  have hdS' : ∃ dn', fsS.entry d = some (.dir dn') := by
    rw [hS.1 d hdapart, hentryT, if_neg (fun h => hdapart (by rw [h]))]
    split_ifs
    exacts [⟨_, rfl⟩, ⟨dn, hd⟩]
  obtain ⟨dnS, hdS'⟩ := hdS'
  rw [show pythonRecursionLimit = 998 + 1 + 1 from rfl] at hcopy
  obtain ⟨fs1, h1, hcopy⟩ := copyTree_ok hcopy
  obtain rfl : fsS = fs1 := by simpa [FS.stat_of_dir hdS'] using h1
  have hcopy := hcopy experts.keys (by simp [FS.stat_of_dir htmpS, PyDict.keys])
  have hstagedS : ∀ e ∈ experts.keys, ∃ m bk, DirHolds fsS (env.tempdir ++ ["tmp" ++ n.name] ++ [e])
      (stagedDir (env.tempdir ++ ["tmp" ++ n.name] ++ [e]) (now.isoformat "_") m bk) := fun e he => by
    obtain ⟨⟨e', b⟩, hmem, rfl⟩ := List.mem_map.mp he
    obtain ⟨m, bk, -, hs⟩ := hstaged e' b hmem
    exact ⟨m, bk, hs⟩
  obtain ⟨-, ⟨dnB, hdB⟩, hcopied⟩ := copyExperts_ok 998 (isoformat_ne_last now "_") hdapart
    experts.keys experts.keys_nodup hapart hS.2.2 ⟨dnS, hdS'⟩
    (fun e he => ⟨hstagedS e he, (hpre e he).imp fun D hD => hD.agree (hdS e he)⟩) hcopy
  -- the cleanup leaves each `d/e` alone, and `d` a directory
  have hrmB := rmtree_ok hrm
  have hdB' : ∀ e ∈ experts.keys, fsB.AgreeOn (d ++ [e] <+: ·) fs' := fun e he =>
    hrmB.mono (hnotT e he)
  refine ⟨?_, fun e b hmem => ?_⟩
  · by_cases hdt : d = env.tempdir
    · subst hdt; exact ⟨_, rmtree_parent hrm hdB⟩
    · exact ⟨dnB, (hrmB d ⟨hdapart, hdt⟩).trans hdB⟩
  obtain ⟨m, bk, hb, hs⟩ := hstaged e b hmem
  refine ⟨m, bk, hb, fun D hD => ?_⟩
  have he : e ∈ experts.keys := List.mem_map.mpr ⟨(e, b), hmem, rfl⟩
  exact (hcopied e he m bk D hs (hD.agree (hdS e he))).agree (hdB' e he)

end MoeServer
