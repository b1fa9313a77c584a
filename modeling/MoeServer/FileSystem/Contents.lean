import MoeServer.FileSystem.Calls

/-!
# Directory contents, and what a call that returns does to them

A directory's contents are a dictionary from names to entries: it lists the names in the order
they were created, and each name has its entry.  `DirHolds fs dir D` says that `dir` holds exactly
`D` (a name outside `D` has no entry, since `FS.listed` ties entries to listings).  A directory
grows as a Python `dict` does — a new name goes last, a name already there keeps its place — so
each call below that returns acts on `D` by `PyDict.setItem` and leaves every path other than
`dir` and the new one alone:

* `createNew_holds` — `mkdir`, `os.symlink`, and `open(…, "wb")` on a new name;
* `openWrite_holds` — `open(…, "wb")` on a new name or on a regular file;
* `copy2_holds` — `shutil.copy2` of a file to a name that is new or a regular file.

`FS.AgreeOn P fs fs'` is the frame: `fs'` has `fs`'s entry at every path satisfying `P`.  Reads
below a directory whose links all point below it see only entries below it, so `stat` there is
unchanged by any step that agrees below it (`stat_agree`).
-/

namespace MoeServer

/-- The directory `dir` holds exactly `D`: it lists `D`'s names, in order, and each name has the
entry `D` gives it. -/
def DirHolds (fs : FS) (dir : Path) (D : PyDict Entry) : Prop :=
  fs.entry dir = some (.dir D.keys) ∧ ∀ f, fs.entry (dir ++ [f]) = D.get? f

/-- Whether an entry is a regular file. -/
def Entry.isFile : Entry → Bool
  | .file _ => true
  | _ => false

/-- `fs'` has the entry of `fs` at every path satisfying `P`. -/
def FS.AgreeOn (P : Path → Prop) (fs fs' : FS) : Prop := ∀ q, P q → fs'.entry q = fs.entry q

/-- Every symbolic link below `p` points below `p`. -/
def FS.LinksBelow (p : Path) (fs : FS) : Prop :=
  ∀ q t, p <+: q → fs.entry q = some (.symlink t) → p <+: t

namespace FS

variable {P Q : Path → Prop} {fs fs1 fs2 : FS}

lemma AgreeOn.refl (P : Path → Prop) (fs : FS) : fs.AgreeOn P fs := fun _ _ => rfl

lemma AgreeOn.trans (h1 : AgreeOn P fs fs1) (h2 : AgreeOn P fs1 fs2) : AgreeOn P fs fs2 :=
  fun q hq => (h2 q hq).trans (h1 q hq)

lemma AgreeOn.mono (h : AgreeOn P fs fs1) (hPQ : ∀ q, Q q → P q) : AgreeOn Q fs fs1 :=
  fun q hq => h q (hPQ q hq)

/-- A link below `p` leads below `p` however many times it is followed. -/
lemma resolveWith_below {p : Path} (hl : fs.LinksBelow p) :
    ∀ fuel q t, p <+: q → fs.resolveWith fuel q = some t → p <+: t
  | 0, _, _, _, h => by simp [resolveWith] at h
  | fuel + 1, q, t, hq, h => by
    unfold resolveWith at h
    split at h
    · rename_i t' ht'; exact resolveWith_below hl fuel t' t (hl q t' hq ht') h
    · cases h; exact hq

lemma resolveWith_agree {p : Path} (hl : fs.LinksBelow p) (h : AgreeOn (p <+: ·) fs fs1) :
    ∀ fuel q, p <+: q → fs1.resolveWith fuel q = fs.resolveWith fuel q
  | 0, _, _ => rfl
  | fuel + 1, q, hq => by
    unfold resolveWith
    rw [h q hq]
    split
    · rename_i t ht; exact resolveWith_agree hl h fuel t (hl q t hq ht)
    · rfl

/-- `stat` below a directory whose links stay below it reads only entries below it. -/
lemma stat_agree {p q : Path} (hl : fs.LinksBelow p) (h : AgreeOn (p <+: ·) fs fs1)
    (hq : p <+: q) : fs1.stat q = fs.stat q := by
  unfold stat resolve
  rw [resolveWith_agree hl h _ q hq]
  cases hr : fs.resolveWith (maxSymlinks + 1) q with
  | none => rfl
  | some t => exact h t (resolveWith_below hl _ q t hq hr)

lemma stat_of_file {p : Path} {c : StateDict} (h : fs.entry p = some (.file c)) :
    fs.stat p = some (.file c) :=
  (stat_of_not_symlink (by simp [h])).trans h

lemma stat_of_dir {p : Path} {names : List String} (h : fs.entry p = some (.dir names)) :
    fs.stat p = some (.dir names) :=
  (stat_of_not_symlink (by simp [h])).trans h

lemma stat_of_none {p : Path} (h : fs.entry p = none) : fs.stat p = none :=
  (stat_of_not_symlink (by simp [h])).trans h

/-- A link to a regular file reads as that file. -/
lemma stat_of_symlink {p t : Path} {c : StateDict} (hp : fs.entry p = some (.symlink t))
    (ht : fs.entry t = some (.file c)) : fs.stat p = some (.file c) := by
  simp [stat, resolve, maxSymlinks, resolveWith, hp, ht]

end FS

namespace DirHolds

variable {fs fs' : FS} {dir : Path} {D : PyDict Entry} {f : String} {e : Entry}

/-- A name has an entry exactly when the dictionary has it. -/
lemma mem_keys_iff (hD : DirHolds fs dir D) : f ∈ D.keys ↔ fs.entry (dir ++ [f]) ≠ none := by
  rw [hD.2, Ne, PyDict.get?_eq_none_iff, not_not]

lemma of_empty (h : fs.entry dir = some (.dir [])) : DirHolds fs dir PyDict.empty :=
  ⟨h, fun f => by
    rw [PyDict.get?_empty, ← Option.not_isSome_iff_eq_none, ← FS.mem_names_iff h]
    exact List.not_mem_nil f⟩

/-- The entries of a directory holding `D` are as long as they agree below it. -/
lemma agree (hD : DirHolds fs dir D) (h : FS.AgreeOn (dir <+: ·) fs fs') : DirHolds fs' dir D :=
  ⟨(h dir (List.prefix_refl _)).trans hD.1,
    fun f => (h _ (List.prefix_append _ _)).trans (hD.2 f)⟩

lemma create (hD : DirHolds fs dir D) (hf : fs.entry (dir ++ [f]) = none) (he : e.names = []) :
    DirHolds (fs.create dir f e) dir (D.setItem f e) := by
  have hentry := FS.create_entry hD.1 hf he
  have hk : f ∉ D.keys := by simpa [hD.mem_keys_iff] using hf
  refine ⟨by rw [hentry]; simp [PyDict.keys_setItem, hk], fun g => ?_⟩
  rw [hentry, PyDict.get?_setItem]
  by_cases hg : g = f <;> simp [hg, hD.2]

lemma overwrite {old : StateDict} (hD : DirHolds fs dir D) (hf : D.get? f = some (.file old))
    (c : StateDict) : DirHolds (fs.overwrite (dir ++ [f]) c) dir (D.setItem f (.file c)) := by
  have hentry := @FS.overwrite_entry fs (dir ++ [f]) c old ((hD.2 f).trans hf)
  have hk : f ∈ D.keys := by simp [hD.mem_keys_iff, hD.2, hf]
  refine ⟨?_, fun g => ?_⟩
  · rw [hentry, if_neg (by simp), PyDict.keys_setItem, if_pos hk]; exact hD.1
  · rw [hentry, PyDict.get?_setItem]
    by_cases hg : g = f <;> simp [hg, hD.2]

end DirHolds

/-! ## Calls that return -/

section Calls

variable (env : Env) {fs fs' : FS} {dir : Path} {D : PyDict Entry} {f : String} {e : Entry}

/-- A write of `e` under the name `f`: the directory holds `D.setItem f e`, and no path other than
the directory and the new one changed. -/
def Wrote (fs fs' : FS) (dir : Path) (D : PyDict Entry) (f : String) (e : Entry) : Prop :=
  DirHolds fs' dir (D.setItem f e) ∧ FS.AgreeOn (fun q => q ≠ dir ∧ q ≠ dir ++ [f]) fs fs'

/-- **`mkdir`, `os.symlink` and `open(…, "wb")` on a new name**, when they return. -/
lemma createNew_holds {call : Syscall} (hD : DirHolds fs dir D) (he : e.names = [])
    (h : createNew env call (dir ++ [f]) e fs = (.ok (), fs')) : Wrote fs fs' dir D f e := by
  obtain ⟨n, -, hn, -, hnone, -, rfl⟩ := createNew_ok env h
  rw [List.dropLast_concat] at hn ⊢
  obtain rfl : n = f := by simpa using hn
  exact ⟨hD.create hnone he, fun q hq => FS.create_entry_of_ne hq.1 hq.2⟩

/-- **`open(…, "wb")` on a new name or a regular file**, when it returns. -/
lemma openWrite_holds {c : StateDict} (hD : DirHolds fs dir D) (hf : (D.get? f).all Entry.isFile)
    (h : openWrite env (dir ++ [f]) c fs = (.ok (), fs')) : Wrote fs fs' dir D f (.file c) := by
  have hns : ∀ t, fs.entry (dir ++ [f]) ≠ some (.symlink t) := by
    intro t ht; simp [← hD.2, ht, Entry.isFile] at hf
  unfold openWrite at h
  rw [FS.resolve_of_not_symlink hns] at h
  dsimp only at h
  split at h
  · rename_i old hold
    split at h
    · cases h
    · cases h
      exact ⟨hD.overwrite ((hD.2 f).symm.trans hold) c,
        fun q hq => by rw [FS.overwrite_entry hold, if_neg hq.2]⟩
  · cases h
  · cases h
  · exact createNew_holds env hD rfl h

/-- `shutil.copyfile` that returned wrote the source's contents through `open(dst, "wb")`: the
`samefile` check passed, since it raises otherwise. -/
lemma copyfile_ok {src dst : Path} {c : StateDict} (hsrc : fs.stat src = some (.file c))
    (h : copyfile env src dst fs = (.ok (), fs')) : openWrite env dst c fs = (.ok (), fs') := by
  have hread : readFile src fs = (.ok c, fs) := by simp [readFile, hsrc]
  unfold copyfile at h
  simp only [Io.bind_apply, samefile, Io.read_apply] at h
  split at h
  · simp [Io.bind_apply, Io.throw] at h
  · simpa [Io.bind_apply, hread] using h

/-- `shutil.copy2` to a path that is not a directory is `copyfile` to that path. -/
lemma copy2_of_not_isdir {src dst : Path} (hdir : isdir dst fs = (.ok false, fs)) :
    copy2 env src dst fs = copyfile env src dst fs := by
  simp only [copy2, Io.bind_apply, hdir, Bool.false_eq_true, if_false, Io.pure_apply]

/-- **`shutil.copy2(src, dir / f)`** of a regular file, to a name that is new or a regular file,
when it returns: the name now holds the file's contents. -/
lemma copy2_holds {src : Path} {c : StateDict} (hD : DirHolds fs dir D)
    (hf : (D.get? f).all Entry.isFile) (hsrc : fs.stat src = some (.file c))
    (h : copy2 env src (dir ++ [f]) fs = (.ok (), fs')) : Wrote fs fs' dir D f (.file c) := by
  have hns : ∀ t, fs.entry (dir ++ [f]) ≠ some (.symlink t) := by
    intro t ht; simp [← hD.2, ht, Entry.isFile] at hf
  have hdir : isdir (dir ++ [f]) fs = (.ok false, fs) := by
    rw [isdir, Io.read_apply, FS.stat_of_not_symlink hns, hD.2]
    cases hg : D.get? f with
    | none => rfl
    | some e => cases e <;> simp_all [Entry.isFile]
  rw [copy2_of_not_isdir env hdir] at h
  exact openWrite_holds env hD hf (copyfile_ok env hsrc h)

/-- `shutil.rmtree(p / n)` that returned changed nothing but the tree below `p / n` and the
listing of `p`. -/
lemma rmtree_ok {p : Path} {n : String} (h : rmtree (p ++ [n]) fs = (.ok (), fs')) :
    FS.AgreeOn (fun q => ¬ p ++ [n] <+: q ∧ q ≠ p) fs fs' := by
  rcases hent : fs.entry (p ++ [n]) with _ | ⟨_ | _ | names⟩ <;> simp [rmtree, hent] at h
  subst h
  intro q hq
  unfold FS.removeTree
  split
  · simp [FS.removeEntry, hq.1, hq.2]
  · rfl

/-- `rmtree(p / n)` that returned unlists `n` from the directory `p`. -/
lemma rmtree_parent {p : Path} {n : String} {names : List String}
    (h : rmtree (p ++ [n]) fs = (.ok (), fs')) (hp : fs.entry p = some (.dir names)) :
    fs'.entry p = some (.dir (names.erase n)) := by
  rcases hent : fs.entry (p ++ [n]) with _ | ⟨_ | _ | ns⟩ <;> simp [rmtree, hent] at h
  subst h
  rw [FS.removeTree_entry hp, if_neg FS.not_prefix_of_child, if_pos rfl]

/-- `os.makedirs(d / n)` under an existing `d` is `mkdir(d / n)`. -/
lemma makedirs_child {d : Path} {n : String} (hd : (fs.stat d).isSome) :
    makedirs env (d ++ [n]) fs = mkdir env (d ++ [n]) fs := by
  unfold makedirs
  rw [List.reverse_append, List.reverse_singleton, List.singleton_append, makedirsRev]
  by_cases h : d = []
  · subst h; simp [Io.bind_apply]
  · simp [h, Io.bind_apply, pathExists, hd]

/-- `os.makedirs(d / n)` with `d` missing makes `d` first, then `mkdir(d / n)`. -/
lemma makedirs_of_parent {d : Path} {n : String} (hne : d ≠ []) (hd : fs.stat d = none)
    (h : makedirs env d fs = (.ok (), fs')) : makedirs env (d ++ [n]) fs = mkdir env (d ++ [n]) fs' := by
  unfold makedirs at h ⊢
  rw [List.reverse_append, List.reverse_singleton, List.singleton_append, makedirsRev]
  simp [hne, Io.bind_apply, pathExists, hd, Io.tryCatch, h]

end Calls

end MoeServer
