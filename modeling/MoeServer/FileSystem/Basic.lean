import MoeServer.Python.Builtins

/-!
# The file system the checkpoints live in

A file system is a map from physical paths to entries: a regular file holding a serialized
state dict, a symbolic link to an absolute path, or a directory.  A directory records the names
of its entries in the order they were created, and that list is what `os.listdir` returns.

Well-formedness is part of the type: `FS.listed` says that a path has an entry exactly when its
parent is a directory listing its name, and `FS.nodup` that no directory lists a name twice.  A
value of `FS` therefore is a tree with consistent directory listings, and the three primitive
changes below keep it one:

* `FS.create` — a new entry under an existing directory, appended to its listing
  (`mkdir`, `symlink`, `open(…, "wb")` on a new name);
* `FS.overwrite` — new contents for a regular file (`open(…, "wb")` on an existing file);
* `FS.removeTree` — an entry and everything below it, unlisted from its parent (`rmtree`).

Paths are physical: a directory is reached through directories only, and a symbolic link is
followed only as the last component of a path (`FS.resolve`), as `stat` and `open` do.
Directories reached through a link are outside the model.  A link keeps the target's components
as `os.symlink` was given them and is followed to that physical path; a target spelled with `..`
is not walked, so such a link leads nowhere.
-/

namespace MoeServer

instance {α : Type} [DecidableEq α] : DecidableEq (PyDict α) := fun a b =>
  decidable_of_iff (a.items = b.items) ⟨fun h => by cases a; cases b; cases h; rfl,
    fun h => h ▸ rfl⟩

/-- What a path names. -/
inductive Entry
  /-- A regular file: a safetensors file, holding the state dict it was saved from. -/
  | file (data : StateDict)
  /-- A symbolic link, holding its target's components as they were given. -/
  | symlink (target : Path)
  /-- A directory, with the names of its entries in creation order. -/
  | dir (names : List String)
  deriving DecidableEq

/-- The names a directory lists; nothing for a file or a link. -/
def Entry.names : Entry → List String
  | .dir names => names
  | _ => []

/-- A file system whose directory listings agree with its entries. -/
structure FS where
  entry : Path → Option Entry
  listed : ∀ p n, (entry (p ++ [n])).isSome ↔ ∃ names, entry p = some (.dir names) ∧ n ∈ names
  nodup : ∀ p names, entry p = some (.dir names) → names.Nodup

namespace FS

@[ext] lemma ext {fs fs' : FS} (h : ∀ p, fs.entry p = fs'.entry p) : fs = fs' := by
  cases fs; cases fs'; congr; exact funext h

/-- A file system holding only the root directory, empty. -/
def root : FS where
  entry p := if p = [] then some (.dir []) else none
  listed p n := by simp
  nodup p names h := by
    by_cases hp : p = [] <;> simp_all

/-- A name is listed by its directory exactly when it has an entry. -/
lemma mem_names_iff {fs : FS} {p : Path} {names : List String} (h : fs.entry p = some (.dir names))
    (n : String) : n ∈ names ↔ (fs.entry (p ++ [n])).isSome := by
  rw [fs.listed]; simp [h]

/-- Nothing lies below a path without an entry. -/
lemma entry_append_of_none {fs : FS} {p : Path} (h : fs.entry p = none) (n : String) :
    fs.entry (p ++ [n]) = none := by
  have := fs.listed p n; simp_all

/-! ## Creating an entry -/

section Create

variable (fs : FS) (p : Path) (n : String) (e : Entry) (names : List String)

/-- The entries after adding `e` at `p ++ [n]` and listing `n` in the directory `p`. -/
def createEntry (q : Path) : Option Entry :=
  if q = p ++ [n] then some e else if q = p then some (.dir (names ++ [n])) else fs.entry q

variable {fs p n e names}

lemma createEntry_listed (hp : fs.entry p = some (.dir names)) (hn : fs.entry (p ++ [n]) = none)
    (he : e.names = []) (q : Path) (m : String) :
    (createEntry fs p n e names (q ++ [m])).isSome ↔
      ∃ names', createEntry fs p n e names q = some (.dir names') ∧ m ∈ names' := by
  have hpn : p ≠ p ++ [n] := by simp
  by_cases hq : q = p
  · subst hq
    by_cases hm : m = n
    · subst hm
      rw [createEntry, if_pos rfl, createEntry, if_neg hpn, if_pos rfl]
      exact iff_of_true rfl ⟨_, rfl, List.mem_append_right _ (List.mem_singleton_self m)⟩
    · have hne : q ++ [m] ≠ q ++ [n] := by simpa using hm
      have hne' : q ++ [m] ≠ q := by simp
      rw [createEntry, if_neg hne, if_neg hne', createEntry, if_neg hpn, if_pos rfl, fs.listed, hp]
      simp only [Option.some.injEq, Entry.dir.injEq, exists_eq_left', List.mem_append,
        List.mem_singleton, hm, or_false]
  · have hne : q ++ [m] ≠ p ++ [n] := fun h => hq (List.append_inj_left' h rfl)
    by_cases hq' : q = p ++ [n]
    · subst hq'
      have hne' : p ++ [n] ++ [m] ≠ p := fun h => by simpa using congrArg List.length h
      rw [createEntry, if_neg hne, if_neg hne', entry_append_of_none hn, createEntry, if_pos rfl]
      simp only [Option.isSome_none, Bool.false_eq_true, false_iff, not_exists, not_and,
        Option.some.injEq]
      rintro names' rfl hm
      exact List.not_mem_nil m ((show names' = [] from he) ▸ hm)
    · rw [createEntry, if_neg hne, createEntry, if_neg hq', if_neg hq]
      by_cases hqm : q ++ [m] = p
      · rw [if_pos hqm]
        exact iff_of_true rfl
          (by simpa only [hqm, hp, Option.isSome_some, true_iff] using fs.listed q m)
      · rw [if_neg hqm]
        exact fs.listed q m

lemma createEntry_nodup (hp : fs.entry p = some (.dir names)) (hn : fs.entry (p ++ [n]) = none)
    (he : e.names = []) (q : Path) (names' : List String)
    (h : createEntry fs p n e names q = some (.dir names')) : names'.Nodup := by
  unfold createEntry at h
  split_ifs at h with h1 h2
  · cases h; simp [Entry.names] at he; simp [he]
  · cases h
    refine (fs.nodup p names hp).append (List.nodup_singleton n) ?_
    simp only [List.disjoint_singleton, mem_names_iff hp, hn, Option.isSome_none]
    exact Bool.false_ne_true
  · exact fs.nodup q names' h

end Create

/-- A new entry `e` at `p ++ [n]`, listed last in the directory `p`: what `mkdir`, `symlink`
and `open(…, "wb")` on a new name do.  Changes nothing unless `p` is a directory without an
entry `n` and `e` lists nothing. -/
def create (fs : FS) (p : Path) (n : String) (e : Entry) : FS :=
  match hp : fs.entry p with
  | some (.dir names) =>
    if h : fs.entry (p ++ [n]) = none ∧ e.names = [] then
      { entry := createEntry fs p n e names
        listed := createEntry_listed hp h.1 h.2
        nodup := createEntry_nodup hp h.1 h.2 }
    else fs
  | _ => fs

lemma create_entry {fs : FS} {p : Path} {n : String} {e : Entry} {names : List String}
    (hp : fs.entry p = some (.dir names)) (hn : fs.entry (p ++ [n]) = none) (he : e.names = [])
    (q : Path) :
    (fs.create p n e).entry q =
      if q = p ++ [n] then some e else if q = p then some (.dir (names ++ [n])) else fs.entry q := by
  unfold create
  split
  · rename_i names' hp'
    rw [hp] at hp'; cases hp'
    rw [dif_pos ⟨hn, he⟩]; rfl
  · rename_i h; exact absurd hp (h _)

/-- `create` touches only the directory and the new path. -/
lemma create_entry_of_ne {fs : FS} {p : Path} {n : String} {e : Entry} {q : Path} (hp : q ≠ p)
    (hn : q ≠ p ++ [n]) : (fs.create p n e).entry q = fs.entry q := by
  unfold create
  split
  · split
    · simp [createEntry, hp, hn]
    · rfl
  · rfl

/-- Nothing lies anywhere below a path without an entry. -/
lemma entry_eq_none_below {fs : FS} {p q : Path} (h : fs.entry p = none) (hpq : p <+: q) :
    fs.entry q = none := by
  obtain ⟨r, rfl⟩ := hpq
  induction r using List.reverseRecOn with
  | nil => simpa using h
  | append_singleton r n ih => rw [← List.append_assoc]; exact entry_append_of_none ih n

/-! ## Overwriting a file -/

/-- New contents for the regular file at `q`; anything else is left alone. -/
def overwrite (fs : FS) (q : Path) (data : StateDict) : FS :=
  match h : fs.entry q with
  | some (.file _) =>
    { entry := fun r => if r = q then some (.file data) else fs.entry r
      listed := fun r m => by
        have key := fs.listed r m
        by_cases h1 : r ++ [m] = q
        · subst h1
          have hr : r ≠ r ++ [m] := by simp
          simp only [↓reduceIte, hr, Option.isSome_some, true_iff]
          exact key.mp (by simp [h])
        · by_cases h2 : r = q
          · subst h2; simp_all
          · simp only [if_neg h1, if_neg h2, key]
      nodup := fun r names hr => by
        by_cases h1 : r = q
        · simp [h1] at hr
        · exact fs.nodup r names (by simpa [h1] using hr) }
  | _ => fs

lemma overwrite_entry {fs : FS} {q : Path} {data old : StateDict} (h : fs.entry q = some (.file old))
    (r : Path) : (fs.overwrite q data).entry r = if r = q then some (.file data) else fs.entry r := by
  unfold overwrite
  split
  · rfl
  · rename_i h'; exact absurd h (h' _)

/-! ## Removing a tree -/

lemma not_prefix_of_child {p : Path} {n : String} : ¬ p ++ [n] <+: p :=
  fun h => absurd h.length_le (by simp)

section Remove

variable (fs : FS) (p : Path) (n : String) (names : List String)

/-- The entries after removing `p ++ [n]` with everything below it and unlisting `n`. -/
def removeEntry (q : Path) : Option Entry :=
  if p ++ [n] <+: q then none else if q = p then some (.dir (names.erase n)) else fs.entry q

variable {fs p n names}

lemma removeEntry_listed (hp : fs.entry p = some (.dir names)) (q : Path) (m : String) :
    (removeEntry fs p n names (q ++ [m])).isSome ↔
      ∃ names', removeEntry fs p n names q = some (.dir names') ∧ m ∈ names' := by
  by_cases hpre : p ++ [n] <+: q ++ [m]
  · rw [removeEntry, if_pos hpre]
    refine iff_of_false Bool.false_ne_true ?_
    rcases List.prefix_concat_iff.mp hpre with h | h
    · obtain ⟨rfl, hnm⟩ := List.append_inj' h rfl
      obtain rfl : n = m := by simpa using hnm
      rw [removeEntry, if_neg not_prefix_of_child, if_pos rfl]
      rintro ⟨_, ⟨⟩, hm⟩
      exact (fs.nodup p names hp).not_mem_erase hm
    · rw [removeEntry, if_pos h]
      exact fun ⟨_, h', _⟩ => Option.noConfusion h'
  · have hq : ¬ p ++ [n] <+: q := fun h => hpre (h.trans (List.prefix_append q [m]))
    rw [removeEntry, if_neg hpre, removeEntry, if_neg hq]
    by_cases hqp : q = p
    · subst hqp
      have hm : m ≠ n := by rintro rfl; exact hpre (List.prefix_refl _)
      have hne : q ++ [m] ≠ q := by simp
      rw [if_neg hne, if_pos rfl, fs.listed, hp]
      simp only [Option.some.injEq, Entry.dir.injEq, exists_eq_left', List.mem_erase_of_ne hm]
    · rw [if_neg hqp]
      by_cases hqm : q ++ [m] = p
      · rw [if_pos hqm]
        exact iff_of_true rfl
          (by simpa only [hqm, hp, Option.isSome_some, true_iff] using fs.listed q m)
      · rw [if_neg hqm]
        exact fs.listed q m

lemma removeEntry_nodup (hp : fs.entry p = some (.dir names)) (q : Path) (names' : List String)
    (h : removeEntry fs p n names q = some (.dir names')) : names'.Nodup := by
  unfold removeEntry at h
  split_ifs at h with h1 h2
  · cases h; exact (fs.nodup p names hp).erase n
  · exact fs.nodup q names' h

end Remove

/-- `p ++ [n]` and everything below it removed, and `n` unlisted from the directory `p`: what
`shutil.rmtree` does.  Changes nothing unless `p` is a directory. -/
def removeTree (fs : FS) (p : Path) (n : String) : FS :=
  match hp : fs.entry p with
  | some (.dir names) =>
    { entry := removeEntry fs p n names
      listed := removeEntry_listed hp
      nodup := removeEntry_nodup hp }
  | _ => fs

lemma removeTree_entry {fs : FS} {p : Path} {n : String} {names : List String}
    (hp : fs.entry p = some (.dir names)) (q : Path) :
    (fs.removeTree p n).entry q =
      if p ++ [n] <+: q then none else if q = p then some (.dir (names.erase n)) else fs.entry q := by
  unfold removeTree
  split
  · rename_i names' hp'; rw [hp] at hp'; cases hp'; rfl
  · rename_i h; exact absurd hp (h _)

/-! ## Following links -/

/-- The kernel's limit on symbolic links followed in one lookup. -/
def maxSymlinks : Nat := 40

/-- The path `stat` and `open` end at: symbolic links at the end of the path are followed, at
most `fuel` times; `none` past that (`ELOOP`). -/
def resolveWith (fs : FS) : Nat → Path → Option Path
  | 0, _ => none
  | fuel + 1, p =>
    match fs.entry p with
    | some (.symlink t) => fs.resolveWith fuel t
    | _ => some p

/-- `resolveWith` with the kernel's limit. -/
def resolve (fs : FS) (p : Path) : Option Path := fs.resolveWith (maxSymlinks + 1) p

/-- `os.stat(p)`: the entry a path ends at once links are followed. -/
def stat (fs : FS) (p : Path) : Option Entry := (fs.resolve p).bind fs.entry

lemma resolveWith_of_not_symlink {fs : FS} {p : Path} (h : ∀ t, fs.entry p ≠ some (.symlink t))
    (fuel : Nat) : fs.resolveWith (fuel + 1) p = some p := by
  unfold resolveWith
  split
  · rename_i t ht; exact absurd ht (h t)
  · rfl

lemma resolve_of_not_symlink {fs : FS} {p : Path} (h : ∀ t, fs.entry p ≠ some (.symlink t)) :
    fs.resolve p = some p :=
  resolveWith_of_not_symlink h _

lemma stat_of_not_symlink {fs : FS} {p : Path} (h : ∀ t, fs.entry p ≠ some (.symlink t)) :
    fs.stat p = fs.entry p := by
  simp [stat, resolve_of_not_symlink h]

end FS

end MoeServer
