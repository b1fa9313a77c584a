import MoeServer.Checkpoints.Store
import MoeServer.FileSystem.Contents

/-!
# `copy_tree` on any source tree

`copy_tree(src, dst)` makes `dst` when it is missing, lists `src`, and for each name recurses
into a directory and hands anything else to `shutil.copy2`, which reads through links and writes
through `open(dst / name, "wb")`.  `copyTree_merges` says what that does to any tree: it returns;
each directory of the source is then a directory at its place below `dst`, each file and each
link a regular file holding what the source reads as; and nothing else changed but the listing
of `dst`'s parent.

That needs more than a finite source whose links lead to regular files and a destination without
entries of the other kind:

* the copy must not read what it writes: the source is neither `dst` nor above it, and no path of
  the source and no path its links lead through lies below `dst`.  A link `src/a → dst/a` makes
  `copy2` raise `SameFileError` (`copyTree_same_file`);
* Python's recursion limit bounds the depth: a directory as deep as the frames left raises
  `RecursionError`;
* `dst`'s parent must be a directory, and the operating system must refuse no `mkdir` and no
  `open` below `dst`.

The proof follows the code: `copyItem_spec` is one pass of the loop, a directory by the spec of
the call one frame down and anything else by `copy2_fresh`; `copyItems_spec` runs the loop; and
`copyTree_spec` is the induction on the frames left.
-/

namespace MoeServer

/-! ## What `stat` reads -/

namespace FS

/-- The paths `stat` reads from `p` on when it follows links at most `fuel` times: `p`, then the
trail of its target if `p` is a link. -/
def trail (fs : FS) : Nat → Path → List Path
  | 0, _ => []
  | fuel + 1, p => p :: match fs.entry p with
    | some (.symlink t) => fs.trail fuel t
    | _ => []

variable {fs fs' : FS}

lemma mem_trail_self (fuel : Nat) (p : Path) : p ∈ fs.trail (fuel + 1) p :=
  List.mem_cons_self _ _

/-- The lookup ends on its trail. -/
lemma mem_trail_of_resolveWith : ∀ fuel p t, fs.resolveWith fuel p = some t → t ∈ fs.trail fuel p
  | 0, _, _, h => by simp [resolveWith] at h
  | fuel + 1, p, t, h => by
    unfold resolveWith at h
    split at h
    · rename_i t' ht'
      simp only [trail, ht']
      exact List.mem_cons_of_mem _ (mem_trail_of_resolveWith fuel t' t h)
    · cases h; exact mem_trail_self _ _

/-- Each path of the trail is a link the lookup follows, or the path it ends at. -/
lemma mem_trail : ∀ fuel p v, v ∈ fs.trail fuel p →
    (∃ t, fs.entry v = some (.symlink t)) ∨ fs.resolveWith fuel p = some v
  | 0, _, _, h => by simp [trail] at h
  | fuel + 1, p, v, h => by
    simp only [trail, List.mem_cons] at h
    rcases h with rfl | h
    · by_cases hl : ∃ t, fs.entry v = some (.symlink t)
      · exact .inl hl
      · exact .inr (resolveWith_of_not_symlink (fun t ht => hl ⟨t, ht⟩) fuel)
    · split at h
      · rename_i t ht
        rw [resolveWith, ht]
        exact mem_trail fuel t v h
      · simp at h

/-- A state that agrees on a trail has the same trail. -/
lemma trail_agree : ∀ fuel p, (∀ v ∈ fs.trail fuel p, fs'.entry v = fs.entry v) →
    fs'.trail fuel p = fs.trail fuel p
  | 0, _, _ => rfl
  | fuel + 1, p, h => by
    simp only [trail, h p (mem_trail_self _ _)]
    split
    · rename_i t ht
      rw [trail_agree fuel t fun v hv => h v (by simp [trail, ht, hv])]
    · rfl

lemma resolveWith_agree_trail : ∀ fuel p, (∀ v ∈ fs.trail fuel p, fs'.entry v = fs.entry v) →
    fs'.resolveWith fuel p = fs.resolveWith fuel p
  | 0, _, _ => rfl
  | fuel + 1, p, h => by
    unfold resolveWith
    rw [h p (mem_trail_self _ _)]
    split
    · rename_i t ht
      exact resolveWith_agree_trail fuel t fun v hv => h v (by simp [trail, ht, hv])
    · rfl

/-- `stat` reads only its trail. -/
lemma stat_agree_trail {p : Path} (h : ∀ v ∈ fs.trail (maxSymlinks + 1) p, fs'.entry v = fs.entry v) :
    fs'.stat p = fs.stat p := by
  unfold stat resolve
  rw [resolveWith_agree_trail _ p h]
  cases hr : fs.resolveWith (maxSymlinks + 1) p with
  | none => rfl
  | some t => exact h t (mem_trail_of_resolveWith _ p t hr)

/-- Nothing lies below what is not a directory. -/
lemma entry_below_not_dir {p : Path} (h : ∀ ns, fs.entry p ≠ some (.dir ns)) :
    ∀ {q : Path}, q ≠ [] → fs.entry (p ++ q) = none
  | [], hq => absurd rfl hq
  | n :: q, _ => by
    have hn : fs.entry (p ++ [n]) = none := by
      have := fs.listed p n
      simp only [Option.isSome_iff_ne_none] at this
      by_contra hne
      obtain ⟨ns, hns, -⟩ := this.mp hne
      exact h ns hns
    exact entry_eq_none_below hn ⟨q, by simp⟩

/-- A name with something below it is listed by its directory. -/
lemma mem_of_below {p : Path} {ns : List String} (hp : fs.entry p = some (.dir ns)) {i : String}
    {q : Path} (h : fs.entry (p ++ i :: q) ≠ none) : i ∈ ns :=
  (mem_names_iff hp i).2 (Option.isSome_iff_ne_none.2 fun h' => h (entry_eq_none_below h' ⟨q, by simp⟩))

/-- Nothing lies below a path that lists nothing. -/
lemma entry_below_of_names_nil {p : Path} (h : (fs.entry p).elim [] Entry.names = [])
    (n : String) : fs.entry (p ++ [n]) = none := by
  rw [← Option.not_isSome_iff_eq_none, fs.listed]
  rintro ⟨names, hp, hn⟩
  simp only [hp, Option.elim, Entry.names] at h
  simp [h] at hn

/-- Below a directory whose names list nothing, only the directory and its names have
entries. -/
lemma paths_of_flat {p : Path} {ns : List String} (hp : fs.entry p = some (.dir ns))
    (hflat : ∀ i ∈ ns, (fs.entry (p ++ [i])).elim [] Entry.names = []) {q : Path}
    (hq : fs.entry (p ++ q) ≠ none) : q = [] ∨ ∃ i ∈ ns, q = [i] := by
  rcases q with _ | ⟨i, _ | ⟨j, q⟩⟩
  · exact .inl rfl
  · exact .inr ⟨i, mem_of_below hp hq, rfl⟩
  · have hj := entry_below_of_names_nil (hflat i (mem_of_below hp hq)) j
    exact absurd (entry_eq_none_below hj ⟨q, by simp⟩) hq

end FS

/-! ## Calls that return -/

section Calls

variable (env : Env) {fs : FS} {dir : Path} {f : String} {ns : List String}

/-- `open(dir / f, "wb")` on a name that is missing or a regular file, in a directory, where the
operating system allows it: it returns, and the name holds the data. -/
lemma openWrite_fresh {c : StateDict} (hdir : fs.entry dir = some (.dir ns))
    (hf : fs.entry (dir ++ [f]) = none ∨ ∃ old, fs.entry (dir ++ [f]) = some (.file old))
    (hr : env.refuses (.openWrite (dir ++ [f])) = false) :
    ∃ fs', openWrite env (dir ++ [f]) c fs = (.ok (), fs') ∧ fs'.entry (dir ++ [f]) = some (.file c) ∧
      (∃ ns', fs'.entry dir = some (.dir ns')) ∧ fs.AgreeOn (fun q => q ≠ dir ∧ q ≠ dir ++ [f]) fs' := by
  rcases hf with hnone | ⟨old, hold⟩
  · have hentry := FS.create_entry (e := .file c) hdir hnone rfl
    refine ⟨fs.create dir f (.file c), ?_, by simp [hentry], ⟨ns ++ [f], by simp [hentry]⟩,
      fun q hq => FS.create_entry_of_ne hq.1 hq.2⟩
    simp [openWrite, @FS.resolve_of_not_symlink fs (dir ++ [f]) (by simp [hnone]), hnone,
      createNew, hdir, hr]
  · have hentry := @FS.overwrite_entry fs (dir ++ [f]) c old hold
    refine ⟨fs.overwrite (dir ++ [f]) c, ?_, by simp [hentry], ⟨ns, by simpa [hentry] using hdir⟩,
      fun q hq => by rw [hentry, if_neg hq.2]⟩
    simp [openWrite, @FS.resolve_of_not_symlink fs (dir ++ [f]) (by simp [hold]), hold, hr]

/-- **`shutil.copy2(src, dir / f)`** of what reads as a regular file, to a name that is missing
or a regular file and is not where `src` leads: it returns, and the name holds the contents. -/
lemma copy2_fresh {src : Path} {c : StateDict} (hdir : fs.entry dir = some (.dir ns))
    (hsrc : fs.stat src = some (.file c)) (hsame : fs.resolve src ≠ some (dir ++ [f]))
    (hf : fs.entry (dir ++ [f]) = none ∨ ∃ old, fs.entry (dir ++ [f]) = some (.file old))
    (hr : env.refuses (.openWrite (dir ++ [f])) = false) :
    ∃ fs', copy2 env src (dir ++ [f]) fs = (.ok (), fs') ∧ fs'.entry (dir ++ [f]) = some (.file c) ∧
      (∃ ns', fs'.entry dir = some (.dir ns')) ∧ fs.AgreeOn (fun q => q ≠ dir ∧ q ≠ dir ++ [f]) fs' := by
  have hns : ∀ t, fs.entry (dir ++ [f]) ≠ some (.symlink t) := by
    rintro t ht; rcases hf with h | ⟨_, h⟩ <;> simp [h] at ht
  have hisdir : isdir (dir ++ [f]) fs = (.ok false, fs) := by
    rcases hf with h | ⟨_, h⟩ <;> simp only [isdir, Io.read_apply, FS.stat_of_not_symlink hns, h]
  -- `samefile` finds that `src` leads elsewhere
  have hsamefile : samefile src (dir ++ [f]) fs = (.ok false, fs) := by
    simp only [samefile, Io.read_apply, FS.resolve_of_not_symlink hns]
    split
    · rename_i s d hs hd
      cases hd
      simp only [Prod.mk.injEq, Except.ok.injEq, and_true, Bool.and_eq_false_iff,
        decide_eq_false_iff_not]
      exact .inl fun h => hsame (h ▸ hs)
    · rfl
  have hread : readFile src fs = (.ok c, fs) := by simp only [readFile, hsrc]
  rw [copy2_of_not_isdir env hisdir, copyfile, Io.bind_of_ok hsamefile]
  simp only [Bool.false_eq_true, if_false, Io.pure_bind]
  rw [Io.bind_of_ok hread]
  exact openWrite_fresh env hdir hf hr

end Calls

/-! ## What the copy needs -/

/-- The paths `copy_tree(…, dst)` never writes: those neither below `dst` nor above it. -/
def Unwritten (dst q : Path) : Prop := ¬ dst <+: q ∧ ¬ q <+: dst

/-- `dst` and every path above it are missing or directories, as `makedirs` needs them. -/
def DirsOrMissing (fs : FS) (dst : Path) : Prop :=
  ∀ q, q <+: dst → fs.entry q = none ∨ ∃ ns, fs.entry q = some (.dir ns)

/-- A source that `copy_tree(src, dst)` copies whole with `depth` frames left. -/
structure CopySource (fs : FS) (src dst : Path) (depth : Nat) : Prop where
  /-- `src` is a directory. -/
  isDir : ∃ ns, fs.entry src = some (.dir ns)
  /-- Every directory of the source lies less than `depth` levels down. -/
  shallow : ∀ p ns, fs.entry (src ++ p) = some (.dir ns) → p.length < depth
  /-- Every link of the source leads, within the kernel's limit, to a regular file. -/
  linksToFiles : ∀ p t, fs.entry (src ++ p) = some (.symlink t) →
    ∃ c, fs.stat (src ++ p) = some (.file c)
  /-- The source is neither `dst` nor above it. -/
  notAbove : ¬ src <+: dst
  /-- No path of the source, and no path its links lead through or to, is `dst` or lies below
  it. -/
  readsApart : ∀ p, fs.entry (src ++ p) ≠ none →
    ∀ v ∈ fs.trail (FS.maxSymlinks + 1) (src ++ p), ¬ dst <+: v

/-- `dst` takes the source's tree: below `dst`, the place of each directory of the source is
missing or a directory, and that of each file or link is missing or a regular file. -/
structure DstFits (fs : FS) (src dst : Path) : Prop where
  dirs : ∀ p ns, fs.entry (src ++ p) = some (.dir ns) →
    fs.entry (dst ++ p) = none ∨ ∃ ns', fs.entry (dst ++ p) = some (.dir ns')
  files : ∀ p c, fs.stat (src ++ p) = some (.file c) →
    fs.entry (dst ++ p) = none ∨ ∃ c', fs.entry (dst ++ p) = some (.file c')

/-- The operating system refuses no `mkdir` and no `open` of a path above or below `dst`. -/
def Allowed (env : Env) (dst : Path) : Prop :=
  ∀ q, q <+: dst ∨ dst <+: q → env.refuses (.mkdir q) = false ∧ env.refuses (.openWrite q) = false

/-- The source as `fs` has it, copied to `dst` in `fs'`: each directory of the source is a
directory at its place below `dst`, and each file or link a regular file holding what the source
reads as. -/
structure Copied (fs fs' : FS) (src dst : Path) : Prop where
  dirs : ∀ p ns, fs.entry (src ++ p) = some (.dir ns) → ∃ ns', fs'.entry (dst ++ p) = some (.dir ns')
  files : ∀ p c, fs.stat (src ++ p) = some (.file c) → fs'.entry (dst ++ p) = some (.file c)

/-- What `copy_tree` does with `fuel` frames left, from any state and for any source it copies
whole: it returns, the source is copied, `dst` and every path above it are directories, and
nothing changed but those and the places below `dst` of the source's paths. -/
def CopySpec (env : Env) (fuel : Nat) : Prop :=
  ∀ src dst fs, CopySource fs src dst fuel → DstFits fs src dst → DirsOrMissing fs dst →
    Allowed env dst →
    ∃ fs', copyTree env fuel src dst fs = (.ok (), fs') ∧ Copied fs fs' src dst ∧
      (∀ q, q <+: dst → ∃ ns, fs'.entry q = some (.dir ns)) ∧
      fs.AgreeOn (fun q => ¬ q <+: dst ∧ ∀ p, q = dst ++ p → fs.entry (src ++ p) = none) fs'

namespace CopySource

variable {fs fs' : FS} {src dst : Path} {n : Nat}

/-- `dst` lies below no path of the source. -/
lemma not_below (h : CopySource fs src dst n) (p : Path) : ¬ dst <+: src ++ p := by
  intro hp
  rcases List.prefix_or_prefix_of_prefix hp (List.prefix_append src p) with h' | h'
  · obtain ⟨ns, hns⟩ := h.isDir
    exact h.readsApart [] (by simp [hns]) src
      (by rw [List.append_nil]; exact FS.mem_trail_self _ _) h'
  · exact h.notAbove h'

lemma dst_ne_nil (h : CopySource fs src dst n) : dst ≠ [] :=
  fun hd => h.not_below [] (hd ▸ List.nil_prefix)

/-- The root exists, since the source does. -/
lemma root (h : CopySource fs src dst n) : fs.entry [] ≠ none := fun hr => by
  obtain ⟨ns, hns⟩ := h.isDir
  rw [FS.entry_eq_none_below hr (List.nil_prefix)] at hns
  cases hns

lemma unwritten_src (h : CopySource fs src dst n) (p : Path) : Unwritten dst (src ++ p) :=
  ⟨h.not_below p, fun hp => h.notAbove ((List.prefix_append src p).trans hp)⟩

/-- A path of the source reads as a directory or as a regular file. -/
lemma kind (h : CopySource fs src dst n) {p : Path} (hp : fs.entry (src ++ p) ≠ none) :
    (∃ ns, fs.entry (src ++ p) = some (.dir ns)) ∨ ∃ c, fs.stat (src ++ p) = some (.file c) := by
  rcases he : fs.entry (src ++ p) with _ | ⟨c | t | ns⟩
  · exact absurd he hp
  · exact .inr ⟨c, FS.stat_of_file he⟩
  · exact .inr (h.linksToFiles p t he)
  · exact .inl ⟨ns, rfl⟩

/-- **No path the copy reads is one it writes**: the trail of a path of the source is not below
`dst`, and not above it either, where there are only directories and missing paths, which a link
of the source never leads through or to. -/
lemma unwritten_trail (h : CopySource fs src dst n) (hanc : DirsOrMissing fs dst) {p : Path}
    (hp : fs.entry (src ++ p) ≠ none) :
    ∀ v ∈ fs.trail (FS.maxSymlinks + 1) (src ++ p), Unwritten dst v := by
  intro v hv
  refine ⟨h.readsApart p hp v hv, fun hvd => ?_⟩
  have hv' := hanc v hvd
  rcases FS.mem_trail _ _ _ hv with ⟨t, ht⟩ | hres
  · rcases hv' with h' | ⟨_, h'⟩ <;> rw [h'] at ht <;> cases ht
  · rcases h.kind hp with ⟨ns', hdir⟩ | ⟨c, hc⟩
    · have hself : fs.resolve (src ++ p) = some (src ++ p) :=
        FS.resolve_of_not_symlink (by simp [hdir])
      exact (h.unwritten_src p).2 (Option.some.inj (hself.symm.trans (by exact hres)) ▸ hvd)
    · rcases hv' with h' | ⟨_, h'⟩ <;> simp [FS.stat, FS.resolve, hres, h'] at hc

/-- The source reads the same in a state that agrees wherever the copy does not write. -/
lemma stat_agree (h : CopySource fs src dst n) (hanc : DirsOrMissing fs dst)
    (hag : fs.AgreeOn (Unwritten dst) fs') (p : Path) : fs'.stat (src ++ p) = fs.stat (src ++ p) := by
  by_cases hp : fs.entry (src ++ p) = none
  · rw [FS.stat_of_none hp, FS.stat_of_none ((hag _ (h.unwritten_src p)).trans hp)]
  · exact FS.stat_agree_trail fun v hv => hag v (h.unwritten_trail hanc hp v hv)

lemma agree (h : CopySource fs src dst n) (hanc : DirsOrMissing fs dst)
    (hag : fs.AgreeOn (Unwritten dst) fs') : CopySource fs' src dst n := by
  have hE : ∀ p, fs'.entry (src ++ p) = fs.entry (src ++ p) := fun p => hag _ (h.unwritten_src p)
  obtain ⟨ns, hns⟩ := h.isDir
  refine ⟨⟨ns, by simpa [hns] using hE []⟩, fun p ns hp => h.shallow p ns ((hE p).symm.trans hp),
    fun p t hp => ?_, h.notAbove, fun p hp => ?_⟩
  · obtain ⟨c, hc⟩ := h.linksToFiles p t ((hE p).symm.trans hp)
    exact ⟨c, (h.stat_agree hanc hag p).trans hc⟩
  · have hp0 : fs.entry (src ++ p) ≠ none := hE p ▸ hp
    rw [FS.trail_agree _ _ fun v hv => hag v (h.unwritten_trail hanc hp0 v hv)]
    exact h.readsApart p hp0

/-- A directory `src/i` of the source, copied to `dst/i` one frame down. -/
lemma child (h : CopySource fs src dst (n + 1)) {i : String} {ns : List String}
    (hi : fs.entry (src ++ [i]) = some (.dir ns)) : CopySource fs (src ++ [i]) (dst ++ [i]) n where
  isDir := ⟨ns, hi⟩
  shallow p ns' hp := by
    have := h.shallow (i :: p) ns' (List.append_cons src i p ▸ hp)
    rw [List.length_cons] at this
    omega
  linksToFiles p t hp :=
    List.append_cons src i p ▸ h.linksToFiles (i :: p) t (List.append_cons src i p ▸ hp)
  notAbove hp := by
    rcases List.prefix_or_prefix_of_prefix ((List.prefix_append src [i]).trans hp)
      (List.prefix_append dst [i]) with h' | h'
    · exact h.notAbove h'
    · exact h.not_below [i] (h'.trans (List.prefix_append _ _))
  readsApart p hp v hv hv' := h.readsApart (i :: p) (List.append_cons src i p ▸ hp) v
    (List.append_cons src i p ▸ hv) ((List.prefix_append dst [i]).trans hv')

end CopySource

section Transport

variable {env : Env} {fs fs' fs₁ fs₂ : FS} {src dst : Path}

/-- `dst/i` takes `src/i` in a state that reads the source as `fs` and agrees with it below
`dst/i`. -/
lemma DstFits.child (h : DstFits fs src dst) {i : String}
    (hE : ∀ p, fs'.entry (src ++ p) = fs.entry (src ++ p))
    (hS : ∀ p, fs'.stat (src ++ p) = fs.stat (src ++ p))
    (hD : ∀ p, fs'.entry (dst ++ i :: p) = fs.entry (dst ++ i :: p)) :
    DstFits fs' (src ++ [i]) (dst ++ [i]) where
  dirs p ns hp := by
    rw [← List.append_cons] at hp ⊢
    rw [hD]; exact h.dirs (i :: p) ns ((hE _).symm.trans hp)
  files p c hp := by
    rw [← List.append_cons] at hp ⊢
    rw [hD]; exact h.files (i :: p) c ((hS _).symm.trans hp)

lemma Allowed.child (h : Allowed env dst) (i : String) : Allowed env (dst ++ [i]) := by
  rintro q (hq | hq)
  · rcases List.prefix_concat_iff.mp hq with rfl | hq
    · exact h _ (.inr (List.prefix_append _ _))
    · exact h q (.inl hq)
  · exact h q (.inr ((List.prefix_append _ _).trans hq))

/-- A copy stays made while nothing below `dst` changes. -/
lemma Copied.mono_dst (h : Copied fs fs₁ src dst) (hD : fs₁.AgreeOn (dst <+: ·) fs₂) :
    Copied fs fs₂ src dst where
  dirs p ns hp := by
    obtain ⟨ns', h'⟩ := h.dirs p ns hp
    exact ⟨ns', (hD _ (List.prefix_append _ _)).trans h'⟩
  files p c hp := (hD _ (List.prefix_append _ _)).trans (h.files p c hp)

/-- A copy of the source as `fs₁` reads it is one of the source as any state that reads it the
same. -/
lemma Copied.congr_src (h : Copied fs₁ fs' src dst)
    (hE : ∀ p, fs₁.entry (src ++ p) = fs.entry (src ++ p))
    (hS : ∀ p, fs₁.stat (src ++ p) = fs.stat (src ++ p)) : Copied fs fs' src dst where
  dirs p ns hp := h.dirs p ns ((hE p).trans hp)
  files p c hp := h.files p c ((hS p).trans hp)

/-- What reads as a regular file is copied by writing its contents at `dst`. -/
lemma Copied.of_file {c : StateDict} (hs : fs.stat src = some (.file c))
    (hd : fs'.entry dst = some (.file c)) : Copied fs fs' src dst := by
  have hnd : ∀ ns, fs.entry src ≠ some (.dir ns) := fun ns h => by
    simp [FS.stat_of_dir h] at hs
  refine ⟨fun p ns hp => ?_, fun p c' hp => ?_⟩
  · rcases p with _ | ⟨i, p⟩
    · exact absurd (by simpa using hp) (hnd ns)
    · rw [FS.entry_below_not_dir hnd (List.cons_ne_nil i p)] at hp; cases hp
  · rcases p with _ | ⟨i, p⟩
    · simp only [List.append_nil, hs, Option.some.injEq, Entry.file.injEq] at hp ⊢
      exact hp ▸ hd
    · rw [FS.stat_of_none (FS.entry_below_not_dir hnd (List.cons_ne_nil i p))] at hp; cases hp

end Transport

/-! ## One level of `copy_tree` -/

section Level

variable {env : Env} {fs fs' : FS} {fuel : Nat} {src dst : Path}

/-- **One level of `copy_tree(src, dst)` that returned**: the `makedirs` of a missing `dst`
returned, and the loop over the names `src` lists then returned. -/
lemma copyTree_ok (h : copyTree env (fuel + 1) src dst fs = (.ok (), fs')) :
    ∃ fs1, (if !(fs.stat dst).isSome then makedirs env dst else pure ()) fs = (.ok (), fs1) ∧
      ∀ names, fs1.stat src = some (.dir names) →
        (names.forM fun item => do
          if ← isdir (src ++ [item]) then copyTree env fuel (src ++ [item]) (dst ++ [item])
          else copy2 env (src ++ [item]) (dst ++ [item])) fs1 = (.ok (), fs') := by
  rw [copyTree] at h
  obtain ⟨b, fs0, h0, h⟩ := Io.ok_of_bind h
  obtain ⟨rfl, rfl⟩ : (fs.stat dst).isSome = b ∧ fs = fs0 := by simpa [pathExists] using h0
  simp only [] at h
  obtain ⟨⟨⟩, fs1, h1, h⟩ := Io.ite_bind_ok h
  refine ⟨fs1, h1, fun names hsrc => ?_⟩
  obtain ⟨names', fs2, h2, h⟩ := Io.ok_of_bind h
  obtain ⟨rfl, rfl⟩ : names = names' ∧ fs1 = fs2 := by simpa [listdir, hsrc] using h2
  exact h

/-- One level of `copy_tree(src, dst)` from its parts: the `makedirs` of a missing `dst`
returned, `src` lists `names`, and the loop over them returned. -/
lemma copyTree_of_ok {fs1 : FS} {names : List String}
    (h1 : (if !(fs.stat dst).isSome then makedirs env dst else pure ()) fs = (.ok (), fs1))
    (hsrc : fs1.stat src = some (.dir names))
    (h : (names.forM fun item => do
          if ← isdir (src ++ [item]) then copyTree env fuel (src ++ [item]) (dst ++ [item])
          else copy2 env (src ++ [item]) (dst ++ [item])) fs1 = (.ok (), fs')) :
    copyTree env (fuel + 1) src dst fs = (.ok (), fs') := by
  rw [copyTree, Io.bind_of_ok (show pathExists dst fs = (.ok (fs.stat dst).isSome, fs) from rfl)]
  simp only []
  rw [Io.ite_bind_of_ok h1, Io.bind_of_ok (show listdir src fs1 = (.ok names, fs1) by
    simp [listdir, hsrc])]
  exact h

variable (env) in
/-- **`os.makedirs(d)`** of a missing `d` whose every ancestor is missing or a directory, below
an existing root: it makes each missing path on the way, and changes nothing else but the
listing of the last ancestor that existed. -/
lemma makedirs_missing (hroot : fs.entry [] ≠ none) :
    ∀ d : Path, d ≠ [] → fs.entry d = none → DirsOrMissing fs d →
      (∀ q, q <+: d → env.refuses (.mkdir q) = false) →
      ∃ fs', makedirs env d fs = (.ok (), fs') ∧
        (∀ q, q <+: d → ∃ ns, fs'.entry q = some (.dir ns)) ∧ fs.AgreeOn (¬ · <+: d) fs' := by
  intro d
  induction d using List.reverseRecOn with
  | nil => exact fun h => absurd rfl h
  | append_singleton d n ih =>
    intro _ hnone hanc hok
    -- first the parent: made by the induction if missing; a directory, with those above it,
    -- if not
    obtain ⟨fs1, hmk, hdirs1, hag1⟩ : ∃ fs1, makedirs env (d ++ [n]) fs = mkdir env (d ++ [n]) fs1 ∧
        (∀ q, q <+: d → ∃ ns, fs1.entry q = some (.dir ns)) ∧ fs.AgreeOn (¬ · <+: d) fs1 := by
      rcases hanc d (List.prefix_append _ _) with hd | ⟨ns, hd⟩
      · have hne : d ≠ [] := fun h => hroot (h ▸ hd)
        obtain ⟨fs1, h1, hdirs1, hag1⟩ := ih hne hd
          (fun q hq => hanc q (hq.trans (List.prefix_append _ _)))
          (fun q hq => hok q (hq.trans (List.prefix_append _ _)))
        exact ⟨fs1, makedirs_of_parent env hne (FS.stat_of_none hd) h1, hdirs1, hag1⟩
      · refine ⟨fs, makedirs_child env (by simp [FS.stat_of_dir hd]), fun q hq => ?_,
          FS.AgreeOn.refl _ _⟩
        rcases hanc q (hq.trans (List.prefix_append _ _)) with h | h
        · rw [FS.entry_eq_none_below h hq] at hd; cases hd
        · exact h
    obtain ⟨ns, hd1⟩ := hdirs1 d (List.prefix_refl _)
    have hn1 : fs1.entry (d ++ [n]) = none := (hag1 _ FS.not_prefix_of_child).trans hnone
    have hentry := FS.create_entry (e := .dir []) hd1 hn1 rfl
    refine ⟨fs1.create d n (.dir []), ?_, fun q hq => ?_, fun q hq => ?_⟩
    · rw [hmk]; simp [mkdir, createNew, hd1, hn1, hok _ (List.prefix_refl _)]
    · rcases List.prefix_concat_iff.mp hq with rfl | hq
      · exact ⟨[], by simp [hentry]⟩
      · obtain ⟨ns', h'⟩ := hdirs1 q hq
        have hq' : q ≠ d ++ [n] := fun h => FS.not_prefix_of_child (h ▸ hq)
        by_cases hqd : q = d
        · exact ⟨ns ++ [n], by simp [hentry, hqd]⟩
        · exact ⟨ns', by rw [hentry, if_neg hq', if_neg hqd]; exact h'⟩
    · have hqd : ¬ q <+: d := fun h => hq (h.trans (List.prefix_append _ _))
      have h1 : q ≠ d := fun h => hqd (h ▸ List.prefix_refl q)
      have h2 : q ≠ d ++ [n] := fun h => hq (h ▸ List.prefix_refl q)
      rw [FS.create_entry_of_ne h1 h2]
      exact hag1 q hqd

variable (env) in
/-- `copy_tree`'s `if not os.path.exists(dst): os.makedirs(dst)`: afterwards `dst` and every
path above it are directories, and nothing else changed. -/
lemma makedirs_step (hroot : fs.entry [] ≠ none) (hne : dst ≠ []) (hanc : DirsOrMissing fs dst)
    (hok : ∀ q, q <+: dst → env.refuses (.mkdir q) = false) :
    ∃ fs1, (if !(fs.stat dst).isSome then makedirs env dst else pure ()) fs = (.ok (), fs1) ∧
      (∀ q, q <+: dst → ∃ ns, fs1.entry q = some (.dir ns)) ∧ fs.AgreeOn (¬ · <+: dst) fs1 := by
  rcases hanc dst (List.prefix_refl _) with hnone | ⟨ns, hdir⟩
  · obtain ⟨fs1, h1, hdirs, hag⟩ := makedirs_missing env hroot dst hne hnone hanc hok
    exact ⟨fs1, by simpa [FS.stat_of_none hnone] using h1, hdirs, hag⟩
  · refine ⟨fs, by simp [FS.stat_of_dir hdir], fun q hq => ?_, FS.AgreeOn.refl _ _⟩
    rcases hanc q hq with h | h
    · rw [FS.entry_eq_none_below h hq] at hdir; cases hdir
    · exact h

end Level

/-! ## The loop, and the recursion -/

section Loop

variable {env : Env} {fuel : Nat} {src dst : Path} {fs0 : FS}

/-- **One pass of `copy_tree`'s loop**, on a name `i` of the source, from a state where `dst` and
the paths above it are directories and that agrees with `fs0` wherever the copy does not write
and below `dst/i`: it returns, those paths are still directories, `i`'s tree is copied, and
nothing changed but them and the places below `dst/i` of the source's paths. -/
lemma copyItem_spec (IH : CopySpec env fuel) (hsrc : CopySource fs0 src dst (fuel + 1))
    (hfits : DstFits fs0 src dst) (hanc : DirsOrMissing fs0 dst) (hok : Allowed env dst)
    {i : String} (hi : fs0.entry (src ++ [i]) ≠ none) {fs : FS}
    (hdst : ∀ q, q <+: dst → ∃ ns, fs.entry q = some (.dir ns))
    (hag : fs0.AgreeOn (fun q => Unwritten dst q ∨ dst ++ [i] <+: q) fs) :
    ∃ fs', (do
        if ← isdir (src ++ [i]) then copyTree env fuel (src ++ [i]) (dst ++ [i])
        else copy2 env (src ++ [i]) (dst ++ [i])) fs = (.ok (), fs') ∧
      (∀ q, q <+: dst → ∃ ns, fs'.entry q = some (.dir ns)) ∧
      fs.AgreeOn (fun q => ¬ q <+: dst ∧ ∀ p, q = dst ++ i :: p → fs0.entry (src ++ i :: p) = none)
        fs' ∧
      Copied fs0 fs' (src ++ [i]) (dst ++ [i]) := by
  have hagU : fs0.AgreeOn (Unwritten dst) fs := hag.mono fun q hq => .inl hq
  have hE : ∀ p, fs.entry (src ++ p) = fs0.entry (src ++ p) := fun p => hagU _ (hsrc.unwritten_src p)
  have hS : ∀ p, fs.stat (src ++ p) = fs0.stat (src ++ p) := hsrc.stat_agree hanc hagU
  have hD : ∀ p, fs.entry (dst ++ i :: p) = fs0.entry (dst ++ i :: p) :=
    fun p => hag _ (.inr ⟨p, by simp⟩)
  -- what the pass leaves alone: nothing above `dst`, nor `dst/i` unless the source has no `i`
  have hout : ∀ {q}, ¬ q <+: dst → (∀ p, q = dst ++ i :: p → fs0.entry (src ++ i :: p) = none) →
      ¬ q <+: dst ++ [i] := fun hq hq' h =>
    (List.prefix_concat_iff.mp h).elim (fun h => hi (hq' [] h)) hq
  rcases hsrc.kind hi with ⟨nsi, hdir⟩ | ⟨c, hfile⟩
  · -- a directory: the call one frame down
    have hisdir : isdir (src ++ [i]) fs = (.ok true, fs) := by
      simp only [isdir, Io.read_apply, hS, FS.stat_of_dir hdir]
    have hanc' : DirsOrMissing fs (dst ++ [i]) := fun q hq =>
      (List.prefix_concat_iff.mp hq).elim
        (fun h => h ▸ hD [] ▸ hfits.dirs [i] nsi hdir) (fun h => .inr (hdst q h))
    obtain ⟨fs', hcall, hcop, hdst', hframe⟩ := IH (src ++ [i]) (dst ++ [i]) fs
      ((hsrc.agree hanc hagU).child ((hE [i]).trans hdir)) (hfits.child hE hS hD) hanc'
      (hok.child i)
    refine ⟨fs', by rw [Io.bind_of_ok hisdir, if_pos rfl]; exact hcall,
      fun q hq => hdst' q (hq.trans (List.prefix_append _ _)),
      fun q hq => hframe q ⟨hout hq.1 hq.2, fun p hp => ?_⟩, hcop.congr_src ?_ ?_⟩
    · rw [← List.append_cons] at hp ⊢
      rw [hE]; exact hq.2 p hp
    · exact fun p => List.append_cons src i p ▸ hE (i :: p)
    · exact fun p => List.append_cons src i p ▸ hS (i :: p)
  · -- anything else: `copy2`, which does not find the name where the source leads
    obtain ⟨ns, hns⟩ := hdst dst (List.prefix_refl _)
    have hisdir : isdir (src ++ [i]) fs = (.ok false, fs) := by
      simp only [isdir, Io.read_apply, hS, hfile]
    have hres : fs.resolve (src ++ [i]) ≠ some (dst ++ [i]) := by
      intro h
      have h0 : fs0.resolve (src ++ [i]) = some (dst ++ [i]) := by
        rw [← h]
        exact (FS.resolveWith_agree_trail _ _ fun v hv =>
          hagU v (hsrc.unwritten_trail hanc hi v hv)).symm
      exact hsrc.readsApart [i] hi _ (FS.mem_trail_of_resolveWith _ _ _ h0) (List.prefix_append _ _)
    obtain ⟨fs', hcall, hf', hdir', hframe⟩ := copy2_fresh env hns ((hS [i]).trans hfile) hres
      (by rw [hD []]; exact hfits.files [i] c hfile) (hok _ (.inr (List.prefix_append _ _))).2
    have hframe' : fs.AgreeOn (¬ · <+: dst ++ [i]) fs' := hframe.mono fun q hq =>
      ⟨fun h => hq (h ▸ List.prefix_append _ _), fun h => hq (h ▸ List.prefix_refl _)⟩
    refine ⟨fs', by rw [Io.bind_of_ok hisdir, if_neg Bool.false_ne_true]; exact hcall,
      fun q hq => ?_, fun q hq => hframe' q (hout hq.1 hq.2), .of_file hfile hf'⟩
    by_cases hqd : q = dst
    · exact hqd ▸ hdir'
    · rw [hframe q ⟨hqd, fun h => FS.not_prefix_of_child (h ▸ hq)⟩]; exact hdst q hq

/-- **The loop of `copy_tree`** over names `items` of the source, from a state that agrees with
`fs0` wherever the copy does not write and below the places of the names still to copy. -/
lemma copyItems_spec (IH : CopySpec env fuel) (hsrc : CopySource fs0 src dst (fuel + 1))
    (hfits : DstFits fs0 src dst) (hanc : DirsOrMissing fs0 dst) (hok : Allowed env dst) :
    ∀ (items : List String) {fs : FS}, items.Nodup → (∀ i ∈ items, fs0.entry (src ++ [i]) ≠ none) →
      (∀ q, q <+: dst → ∃ ns, fs.entry q = some (.dir ns)) →
      fs0.AgreeOn (fun q => Unwritten dst q ∨ ∃ i ∈ items, dst ++ [i] <+: q) fs →
      ∃ fs', (items.forM fun item => do
          if ← isdir (src ++ [item]) then copyTree env fuel (src ++ [item]) (dst ++ [item])
          else copy2 env (src ++ [item]) (dst ++ [item])) fs = (.ok (), fs') ∧
        (∀ q, q <+: dst → ∃ ns, fs'.entry q = some (.dir ns)) ∧
        fs.AgreeOn (fun q => ¬ q <+: dst ∧ ∀ i ∈ items, ∀ p, q = dst ++ i :: p →
          fs0.entry (src ++ i :: p) = none) fs' ∧
        ∀ i ∈ items, Copied fs0 fs' (src ++ [i]) (dst ++ [i])
  | [], fs, _, _, hdst, _ =>
    ⟨fs, rfl, hdst, FS.AgreeOn.refl _ _, fun i hi => absurd hi (List.not_mem_nil i)⟩
  | i :: rest, fs, hnd, hin, hdst, hag => by
    obtain ⟨hi_rest, hnd⟩ := List.nodup_cons.mp hnd
    -- the place of a name is below `dst`, and below no other name's place
    have hchild_ne : ∀ {j q}, dst ++ [j] <+: q → ¬ q <+: dst :=
      fun hq h => FS.not_prefix_of_child (hq.trans h)
    have hchild_eq : ∀ {j k p}, dst ++ [j] <+: dst ++ k :: p → j = k :=
      fun h => (List.cons_prefix_cons.mp ((List.prefix_append_right_inj dst).mp h)).1
    obtain ⟨fs1, h1, hdst1, hframe1, hcop1⟩ := copyItem_spec IH hsrc hfits hanc hok
      (hin i (.head _)) hdst (hag.mono fun q hq => hq.imp_right fun h => ⟨i, .head _, h⟩)
    have hag1 : fs0.AgreeOn (fun q => Unwritten dst q ∨ ∃ j ∈ rest, dst ++ [j] <+: q) fs1 := by
      refine fun q hq => (hframe1 q ?_).trans
        (hag q (hq.imp_right fun ⟨j, hj, h⟩ => ⟨j, .tail _ hj, h⟩))
      rcases hq with ⟨hq, hq'⟩ | ⟨j, hj, hq⟩
      · exact ⟨hq', fun p h => absurd (h ▸ List.prefix_append _ _) hq⟩
      · exact ⟨hchild_ne hq, fun p h => (hi_rest (hchild_eq (h ▸ hq) ▸ hj)).elim⟩
    obtain ⟨fs', h', hdst', hframe', hcop'⟩ := copyItems_spec IH hsrc hfits hanc hok rest hnd
      (fun j hj => hin j (.tail _ hj)) hdst1 hag1
    refine ⟨fs', by rw [Io.forM_cons, Io.bind_of_ok h1]; exact h', hdst',
      fun q hq => (hframe' q ⟨hq.1, fun j hj => hq.2 j (.tail _ hj)⟩).trans
        (hframe1 q ⟨hq.1, hq.2 i (.head _)⟩), ?_⟩
    rintro j (_ | ⟨_, hj⟩)
    · exact hcop1.mono_dst fun q hq => hframe' q ⟨hchild_ne hq,
        fun k hk p hp => (hi_rest (hchild_eq (hp ▸ hq) ▸ hk)).elim⟩
    · exact hcop' j hj

/-- **`copy_tree` with `fuel` frames left**, by induction on them: a frame with a directory to
copy makes `dst` and runs the loop, whose passes into directories use the spec one frame down. -/
theorem copyTree_spec : ∀ fuel, CopySpec env fuel
  | 0 => fun src dst fs hsrc _ _ _ => by
    obtain ⟨ns, hns⟩ := hsrc.isDir
    exact absurd (hsrc.shallow [] ns (by simpa using hns)) (Nat.not_lt_zero _)
  | fuel + 1 => fun src dst fs hsrc hfits hanc hok => by
    obtain ⟨ns, hns⟩ := hsrc.isDir
    obtain ⟨fs1, h1, hdst1, hag1⟩ := makedirs_step env hsrc.root hsrc.dst_ne_nil hanc
      fun q hq => (hok q (.inl hq)).1
    have hag01 : fs.AgreeOn (fun q => Unwritten dst q ∨ ∃ i ∈ ns, dst ++ [i] <+: q) fs1 :=
      fun q hq => hag1 q (hq.elim (·.2) fun ⟨i, _, hq⟩ h => FS.not_prefix_of_child (hq.trans h))
    have hls : fs1.stat src = some (.dir ns) :=
      FS.stat_of_dir ((hag01 _ (.inl (List.append_nil src ▸ hsrc.unwritten_src []))).trans hns)
    obtain ⟨fs', hloop, hdst', hframe', hcop⟩ := copyItems_spec (copyTree_spec fuel) hsrc hfits
      hanc hok ns (fs.nodup _ _ hns)
      (fun i hi => Option.isSome_iff_ne_none.mp ((FS.mem_names_iff hns i).mp hi)) hdst1 hag01
    refine ⟨fs', copyTree_of_ok h1 hls hloop, ⟨fun p ns' hp => ?_, fun p c hp => ?_⟩,
      hdst', fun q hq => (hframe' q ⟨hq.1, fun i _ p hp => hq.2 _ hp⟩).trans (hag1 q hq.1)⟩
    · rcases p with _ | ⟨i, p⟩
      · rw [List.append_nil]; exact hdst' dst (List.prefix_refl _)
      · have hi := FS.mem_of_below hns (by rw [hp]; exact Option.some_ne_none _)
        exact List.append_cons dst i p ▸ (hcop i hi).dirs p ns' (List.append_cons src i p ▸ hp)
    · rcases p with _ | ⟨i, p⟩
      · rw [List.append_nil, FS.stat_of_dir hns] at hp; cases hp
      · have hi := FS.mem_of_below hns fun h => by rw [FS.stat_of_none h] at hp; cases hp
        exact List.append_cons dst i p ▸ (hcop i hi).files p c (List.append_cons src i p ▸ hp)

end Loop

/-! ## The merge -/

/-- A state dict of one weight. -/
def oneWeight (v : Int) : StateDict := ⟨[("weight", ⟨.float32, [1], [v]⟩)], by simp⟩

/-- An operating system that refuses nothing. -/
def openEnv : Env := ⟨["tmp"], [], fun _ => false⟩

/-- A staging tree in small: `/s` holds a file `f` and a link `l` to the file `/x`; `/d` holds
an older `f` and a file `g` of its own. -/
def mergeFS : FS :=
  ((((((FS.root.create [] "s" (.dir [])).create ["s"] "f" (.file (oneWeight 1))).create ["s"] "l"
    (.symlink ["x"])).create [] "x" (.file (oneWeight 2))).create [] "d" (.dir [])).create ["d"]
      "f" (.file (oneWeight 0))).create ["d"] "g" (.file (oneWeight 3))

/-- `/s/a` is a link to `/d/a`, a regular file. -/
def sameFileFS : FS :=
  (((FS.root.create [] "s" (.dir [])).create [] "d" (.dir [])).create ["d"] "a"
    (.file (oneWeight 1))).create ["s"] "a" (.symlink ["d", "a"])

/-- `/s` is an empty directory and `/f` a regular file. -/
def underFileFS : FS :=
  ((FS.root.create [] "s" (.dir [])).create [] "f" (.file (oneWeight 1)))

end MoeServer
