import MoeServer.FileSystem.Basic

/-!
# System calls and the `Io` monad

`Io α` is a Python statement run against the file system: it returns a value or raises, and
in both cases leaves a file system behind, since an exception does not undo what was written
before it.  That is what makes failure atomicity a question at all, and why `Io.tryFinally`
(a `with` block's exit, a `finally` clause) runs its cleanup on the file system the body left.

The calls below are the ones `checkpoints.py` and `hf_loader.py` make, with the checks and
errors of their Python and POSIX definitions.  What the process cannot decide is in `Env`:
the directory `tempfile` uses, the names its random generator draws, and which calls the
operating system refuses (a full disk, a permission, an I/O error).

* `createNew` — the shared core of `mkdir`, `os.symlink` and `open(…, "wb")` on a new name:
  a new entry under an existing directory, at a path with no entry.
* `openWrite`, `readFile`, `listdir`, `pathExists`, `isdir` — links at the end of the path
  are followed.
* `makedirs`, `copyfile`, `copy2`, `rmtree`, `mkdtemp`, `withTemporaryDirectory` — the library
  functions, written over the calls above as the library writes them.
-/

namespace MoeServer

/-- A Python statement run against the file system: what it returned or raised, and the file
system it leaves. -/
def Io (α : Type) : Type := FS → Except PyError α × FS

namespace Io

variable {α β : Type}

instance : Monad Io where
  pure a := fun fs => (.ok a, fs)
  bind x f := fun fs =>
    match x fs with
    | (.ok a, fs') => f a fs'
    | (.error e, fs') => (.error e, fs')

/-- `raise e`. -/
def throw (e : PyError) : Io α := fun fs => (.error e, fs)

/-- A computation that does not touch the file system. -/
def lift (x : Except PyError α) : Io α := fun fs => (x, fs)

/-- Reading the file system. -/
def read (f : FS → α) : Io α := fun fs => (.ok (f fs), fs)

/-- `try: body finally: cleanup`.  The cleanup runs on whatever the body left; an exception
it raises replaces the body's outcome. -/
def tryFinally (body : Io α) (cleanup : Io Unit) : Io α := fun fs =>
  match body fs with
  | (r, fs') =>
    match cleanup fs' with
    | (.ok (), fs'') => (r, fs'')
    | (.error e, fs'') => (.error e, fs'')

/-- `try: body except: handler`. -/
def tryCatch (body : Io α) (handler : PyError → Io α) : Io α := fun fs =>
  match body fs with
  | (.error e, fs') => handler e fs'
  | r => r

@[simp] lemma pure_apply (a : α) (fs : FS) : (pure a : Io α) fs = (.ok a, fs) := rfl

@[simp] lemma throw_apply (e : PyError) (fs : FS) : (throw e : Io α) fs = (.error e, fs) := rfl

@[simp] lemma lift_apply (x : Except PyError α) (fs : FS) : lift x fs = (x, fs) := rfl

@[simp] lemma read_apply (f : FS → α) (fs : FS) : read f fs = (.ok (f fs), fs) := rfl

lemma bind_apply (x : Io α) (f : α → Io β) (fs : FS) :
    (x >>= f) fs = match x fs with
      | (.ok a, fs') => f a fs'
      | (.error e, fs') => (.error e, fs') := rfl

@[simp] lemma pure_bind (a : α) (f : α → Io β) : (pure a >>= f) = f a := rfl

lemma bind_of_ok {x : Io α} {f : α → Io β} {fs fs' : FS} {a : α} (h : x fs = (.ok a, fs')) :
    (x >>= f) fs = f a fs' := by
  rw [bind_apply, h]

lemma bind_of_error {x : Io α} {f : α → Io β} {fs fs' : FS} {e : PyError}
    (h : x fs = (.error e, fs')) : (x >>= f) fs = (.error e, fs') := by
  rw [bind_apply, h]

/-- A bind that returned normally ran both parts normally. -/
lemma ok_of_bind {x : Io α} {f : α → Io β} {fs fs'' : FS} {b : β}
    (h : (x >>= f) fs = (.ok b, fs'')) : ∃ a fs', x fs = (.ok a, fs') ∧ f a fs' = (.ok b, fs'') := by
  rw [bind_apply] at h
  split at h
  · exact ⟨_, _, ‹_›, h⟩
  · cases h

@[simp] lemma forM_nil (f : α → Io Unit) : ([] : List α).forM f = pure () := rfl

lemma forM_cons (f : α → Io Unit) (a : α) (l : List α) :
    (a :: l).forM f = (f a >>= fun _ => l.forM f) := rfl

/-- A statement `if c: x` followed by more, that returned, ran `if c: x` to a normal return. -/
lemma ite_bind_ok {c : Prop} [Decidable c] {x : Io Unit} {k : Unit → Io β} {fs fs'' : FS} {b : β}
    (h : (if c then x >>= k else pure () >>= k) fs = (.ok b, fs'')) :
    ∃ u fs', (if c then x else pure ()) fs = (.ok u, fs') ∧ k u fs' = (.ok b, fs'') := by
  by_cases hc : c
  · rw [if_pos hc] at h ⊢; exact ok_of_bind h
  · rw [if_neg hc] at h ⊢; exact ok_of_bind h

/-- A statement `if c: x` that returned, followed by more: the rest runs from where it left. -/
lemma ite_bind_of_ok {c : Prop} [Decidable c] {x : Io Unit} {k : Unit → Io β} {fs fs' : FS} {u : Unit}
    (h : (if c then x else pure ()) fs = (.ok u, fs')) :
    (if c then x >>= k else pure () >>= k) fs = k u fs' := by
  by_cases hc : c
  · rw [if_pos hc] at h ⊢; exact bind_of_ok h
  · rw [if_neg hc] at h ⊢; exact bind_of_ok h

/-- A `try`/`finally` that returned ran its body to a normal return and then its cleanup. -/
lemma tryFinally_ok {body : Io α} {cleanup : Io Unit} {fs fs'' : FS} {a : α}
    (h : tryFinally body cleanup fs = (.ok a, fs'')) :
    ∃ fs', body fs = (.ok a, fs') ∧ cleanup fs' = (.ok (), fs'') := by
  unfold tryFinally at h
  split at h
  rename_i r fs' hbody
  split at h
  · cases h; exact ⟨fs', hbody, ‹_›⟩
  · cases h

/-! ### Invariants of the file system -/

/-- `x` keeps the property `I` of the file system, whether it returns or raises. -/
def Keeps (I : FS → Prop) (x : Io α) : Prop := ∀ fs, I fs → I (x fs).2

variable {I : FS → Prop}

lemma keeps_pure (a : α) : Keeps I (pure a) := fun _ h => h

lemma keeps_throw (e : PyError) : Keeps I (throw e : Io α) := fun _ h => h

lemma keeps_lift (x : Except PyError α) : Keeps I (lift x) := fun _ h => h

lemma keeps_read (f : FS → α) : Keeps I (read f) := fun _ h => h

lemma keeps_bind {x : Io α} {f : α → Io β} (hx : Keeps I x) (hf : ∀ a, Keeps I (f a)) :
    Keeps I (x >>= f) := fun fs h => by
  rw [bind_apply]
  split
  · exact hf _ _ (by rename_i heq; simpa [heq] using hx fs h)
  · rename_i heq; simpa [heq] using hx fs h

lemma keeps_forM {l : List β} {f : β → Io Unit} (h : ∀ b ∈ l, Keeps I (f b)) :
    Keeps I (l.forM f) := by
  induction l with
  | nil => exact keeps_pure _
  | cons b l ih =>
    exact keeps_bind (h b (List.mem_cons_self _ _)) fun _ => ih fun b hb => h b (.tail _ hb)

end Io

/-- The characters `tempfile` draws names from. -/
def tempChars : List Char := "abcdefghijklmnopqrstuvwxyz0123456789_".data

/-- A name `tempfile`'s random generator yields: eight of `tempChars`. -/
structure TempName where
  name : String
  length_eq : name.length = 8
  chars : ∀ c ∈ name.data, c ∈ tempChars

/-- The system calls the operating system may refuse, by the path they act on. -/
inductive Syscall
  | mkdir (p : Path)
  | openWrite (p : Path)
  | symlink (p : Path)
  deriving DecidableEq

/-- What the process does not decide: `tempfile.gettempdir()`, the names `tempfile` draws, in
order, and the calls the operating system refuses. -/
structure Env where
  tempdir : Path
  tempNames : List TempName
  refuses : Syscall → Bool

section Calls

variable (env : Env)

/-- `os.path.exists(p)`. -/
def pathExists (p : Path) : Io Bool := Io.read fun fs => (fs.stat p).isSome

/-- `os.path.isdir(p)`. -/
def isdir (p : Path) : Io Bool := Io.read fun fs =>
  match fs.stat p with
  | some (.dir _) => true
  | _ => false

/-- A new entry `e` at `p`, by the call `call`: the parent must be a directory and `p` must have
no entry.  The shared core of `mkdir`, `os.symlink` and `open(…, "wb")` on a new name. -/
def createNew (call : Syscall) (p : Path) (e : Entry) : Io Unit := fun fs =>
  match p.getLast? with
  | none => (.error (.fileExistsError p), fs)
  | some n =>
    match fs.entry p.dropLast with
    | some (.dir _) =>
      if (fs.entry p).isSome then (.error (.fileExistsError p), fs)
      else if env.refuses call then (.error (.osError p), fs)
      else (.ok (), fs.create p.dropLast n e)
    | some _ => (.error (.notADirectoryError p), fs)
    | none => (.error (.fileNotFoundError p), fs)

/-- What `createNew` can do to the file system: nothing, or add the entry after its checks. -/
lemma createNew_state (call : Syscall) (p : Path) (e : Entry) (fs : FS) :
    (createNew env call p e fs).2 = fs ∨ ∃ n names, p.dropLast ++ [n] = p ∧
      fs.entry p.dropLast = some (.dir names) ∧ fs.entry p = none ∧
      createNew env call p e fs = (.ok (), fs.create p.dropLast n e) := by
  unfold createNew
  split
  · exact .inl rfl
  · rename_i n hn
    split
    · rename_i names hp
      split_ifs with h1 h2
      · exact .inl rfl
      · exact .inl rfl
      · exact .inr ⟨n, names, List.dropLast_append_getLast? _ hn, hp, by simpa using h1, rfl⟩
    · exact .inl rfl
    · exact .inl rfl

/-- A `createNew` that returned made the entry. -/
lemma createNew_ok {call : Syscall} {p : Path} {e : Entry} {fs fs' : FS} {u : Unit}
    (h : createNew env call p e fs = (.ok u, fs')) : ∃ n names, p.dropLast ++ [n] = p ∧
      fs.entry p.dropLast = some (.dir names) ∧ fs.entry p = none ∧ env.refuses call = false ∧
      fs' = fs.create p.dropLast n e := by
  unfold createNew at h
  split at h
  · cases h
  · rename_i n hn
    split at h
    · rename_i names hp
      split_ifs at h with h1 h2
      · cases h
      · cases h
      · cases h
        exact ⟨n, names, List.dropLast_append_getLast? _ hn, hp, by simpa using h1,
          by simpa using h2, rfl⟩
    · cases h
    · cases h

/-- A `createNew` that raised changed nothing. -/
lemma createNew_error {call : Syscall} {p : Path} {e : Entry} {fs fs' : FS} {err : PyError}
    (h : createNew env call p e fs = (.error err, fs')) : fs' = fs := by
  rcases createNew_state env call p e fs with h' | ⟨_, _, _, _, _, h'⟩
  · rw [h] at h'; exact h'
  · rw [h] at h'; cases h'

/-- `os.mkdir(p)`, and `Path.mkdir()` with its defaults. -/
def mkdir (p : Path) : Io Unit := createNew env (.mkdir p) p (.dir [])

/-- `os.symlink(target, link)`. -/
def symlink (target link : Path) : Io Unit := createNew env (.symlink link) link (.symlink target)

/-- `open(p, "wb")` and writing `data`: links at the end of `p` are followed; an existing
regular file is rewritten, a missing one created. -/
def openWrite (p : Path) (data : StateDict) : Io Unit := fun fs =>
  match fs.resolve p with
  | none => (.error (.osError p), fs)
  | some t =>
    match fs.entry t with
    | some (.file _) =>
      if env.refuses (.openWrite t) then (.error (.osError t), fs)
      else (.ok (), fs.overwrite t data)
    | some (.dir _) => (.error (.isADirectoryError p), fs)
    | some (.symlink _) => (.error (.osError p), fs)
    | none => createNew env (.openWrite t) t (.file data) fs

/-- `open(p, "rb")` and reading it back. -/
def readFile (p : Path) : Io StateDict := fun fs =>
  match fs.stat p with
  | some (.file data) => (.ok data, fs)
  | some (.dir _) => (.error (.isADirectoryError p), fs)
  | _ => (.error (.fileNotFoundError p), fs)

/-- `os.listdir(p)`. -/
def listdir (p : Path) : Io (List String) := fun fs =>
  match fs.stat p with
  | some (.dir names) => (.ok names, fs)
  | some _ => (.error (.notADirectoryError p), fs)
  | none => (.error (.fileNotFoundError p), fs)

/-- `shutil.rmtree(p)`. -/
def rmtree (p : Path) : Io Unit := fun fs =>
  match p.getLast?, fs.entry p with
  | some n, some (.dir _) => (.ok (), fs.removeTree p.dropLast n)
  | _, some (.dir _) => (.error (.osError p), fs)
  | _, some (.file _) => (.error (.notADirectoryError p), fs)
  | _, some (.symlink _) => (.error (.osError p), fs)
  | _, none => (.error (.fileNotFoundError p), fs)

/-- `os.makedirs(name)` with `exist_ok=False`, over the components of `name` read from the
leaf up, the order in which its recursion peels them.  A parent that is missing is made
first, a `FileExistsError` from that is ignored, and the leaf is made with `mkdir`. -/
def makedirsRev : List String → Io Unit
  | [] => mkdir env []
  | n :: up => do
    -- `head and tail and not path.exists(head)`: the root always exists
    if up ≠ [] then
      if !(← pathExists up.reverse) then
        Io.tryCatch (makedirsRev up) fun
          | .fileExistsError _ => pure ()
          | e => Io.throw e
    mkdir env (up.reverse ++ [n])

/-- `os.makedirs(name)`. -/
def makedirs (p : Path) : Io Unit := makedirsRev env p.reverse

/-- `os.path.samefile(src, dst)`, `False` when either is missing, as `shutil` uses it. -/
def samefile (src dst : Path) : Io Bool := Io.read fun fs =>
  match fs.resolve src, fs.resolve dst with
  | some s, some d => s = d && (fs.entry s).isSome
  | _, _ => false

/-- `shutil.copyfile(src, dst)`: the contents of the file `src` ends at, written through
`open(dst, "wb")`. -/
def copyfile (src dst : Path) : Io Unit := do
  if ← samefile src dst then Io.throw (.sameFileError src dst)
  let data ← readFile src
  openWrite env dst data

/-- `shutil.copy2(src, dst)`: into `dst` itself, or under it when it is a directory.  The
metadata `copystat` copies is not modelled. -/
def copy2 (src dst : Path) : Io Unit := do
  let dst ← do
    if ← isdir dst then pure (dst ++ [src.getLast?.getD ""]) else pure dst
  copyfile env src dst

/-- `tempfile.mkdtemp()`: try `gettempdir()/tmp<name>` for each name the generator draws, the
next one when the path exists; when the names run out, `FileExistsError`. -/
def mkdtempFrom : List TempName → Io Path
  | [] => Io.throw (.fileExistsError env.tempdir)
  | name :: names => fun fs =>
    let file := env.tempdir ++ ["tmp" ++ name.name]
    match mkdir env file fs with
    | (.ok (), fs') => (.ok file, fs')
    | (.error (.fileExistsError _), fs') => mkdtempFrom names fs'
    | (.error e, fs') => (.error e, fs')

/-- `tempfile.mkdtemp()`. -/
def mkdtemp : Io Path := mkdtempFrom env env.tempNames

/-- `with TemporaryDirectory() as tmpdirname: body`: the directory is made on entry and
removed with everything in it on exit, however the body ends. -/
def withTemporaryDirectory {α : Type} (body : Path → Io α) : Io α := do
  let tmpdirname ← mkdtemp env
  Io.tryFinally (body tmpdirname) (rmtree tmpdirname)

end Calls

end MoeServer
