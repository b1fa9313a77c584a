import MoeServer.FileSystem.Calls

/-!
# A name under a directory

`store_experts` makes each expert's directory as `Path(tmpdirname) / expert_name`, and
`load_expert` reads `checkpoint_dir / expert_name / "module.safetensors"`.  An expert's name is
whatever the uid pattern rendered, so it may hold `/`, `.` or `..`, or start with `/`.

pathlib's `/` splits the name at `/` and drops empty and `.` components, keeping `..`
(`nameParts`); an absolute name replaces the directory.  The kernel then looks the path up when a
call is made on it (`FS.walk`): `..` steps to the parent, the root being its own parent; every
other component but the last must lead to a directory, through links as `stat` follows them;
and the call acts on the last component under the directory the walk stands in.

The directory itself is a path the caller holds physically — what `mkdtemp` returned, a checked
checkpoint directory — so the walk starts there.

* `lookupName_plain` — a name that is one component, neither `.` nor `..`, lands right under the
  directory, whatever the file system holds, and is spelled as that path (`namePath_plain`).
-/

namespace MoeServer

/-- The components pathlib reads in a name: the parts between `/`s, without the empty ones and
`.`. -/
def nameParts (name : String) : List String :=
  ((name.data.splitOn '/').map String.mk).filter fun c => c != "" && c != "."

/-- pathlib reads a name as absolute when it starts with `/`. -/
def isAbsolute (name : String) : Bool := name.data.head? == some '/'

/-- A name that is one path component: not empty, without `/`, and neither `.` nor `..`. -/
def PlainName (name : String) : Prop :=
  name ≠ "" ∧ '/' ∉ name.data ∧ name ≠ "." ∧ name ≠ ".."

instance (name : String) : Decidable (PlainName name) :=
  inferInstanceAs (Decidable (_ ∧ _ ∧ _ ∧ _))

/-- The kernel's lookup of the components `parts` from the directory `cur`: the path the call
acts on, or what the call raises when a component on the way is missing (`ENOENT`), is no
directory (`ENOTDIR`), or its links loop (`ELOOP`). -/
def FS.walk (fs : FS) : Path → List String → Except PyError Path
  | cur, [] => .ok cur
  | cur, c :: rest =>
    if c = ".." then fs.walk cur.dropLast rest
    else if rest = [] then .ok (cur ++ [c])
    else match fs.resolve (cur ++ [c]) with
      | none => .error (.osError (cur ++ [c]))
      | some t => match fs.entry t with
        | some (.dir _) => fs.walk t rest
        | some _ => .error (.notADirectoryError (cur ++ [c]))
        | none => .error (.fileNotFoundError (cur ++ [c]))

/-- `Path(dir) / name / rest…` as the kernel finds it when a call is made on it. -/
def FS.lookup (fs : FS) (dir : Path) (name : String) (rest : List String) :
    Except PyError Path :=
  fs.walk (if isAbsolute name then [] else dir) (nameParts name ++ rest)

/-- `Path(dir) / name`, looked up by the call made on it: it raises what that call would. -/
def lookupName (dir : Path) (name : String) : Io Path := fun fs => (fs.lookup dir name [], fs)

/-- `Path(dir) / name` as pathlib spells it, before any lookup: the name's components after
`dir`, or in its place when the name is absolute, `..` kept.  This is the text `os.symlink`
stores as a link's target. -/
def namePath (dir : Path) (name : String) : Path :=
  (if isAbsolute name then [] else dir) ++ nameParts name

section Plain

variable {name : String}

lemma nameParts_plain (h : PlainName name) : nameParts name = [name] := by
  obtain ⟨hne, hslash, hdot, -⟩ := h
  have hsplit : name.data.splitOn '/' = [name.data] :=
    List.splitOnP_eq_single _ _ fun c hc heq => hslash (beq_iff_eq.mp heq ▸ hc)
  simp [nameParts, hsplit, hne, hdot]

lemma isAbsolute_plain (h : PlainName name) : isAbsolute name = false := by
  cases hd : name.data with
  | nil => simp [isAbsolute, hd]
  | cons c cs =>
    have hc : c ≠ '/' := fun hc => h.2.1 (by simp [hd, hc])
    simp [isAbsolute, hd, hc]

/-- **A plain name lands right under the directory**, whatever the file system holds. -/
lemma lookupName_plain (h : PlainName name) (dir : Path) :
    lookupName dir name = pure (dir ++ [name]) := by
  funext fs
  simp [lookupName, FS.lookup, isAbsolute_plain h, nameParts_plain h, FS.walk, h.2.2.2]

/-- A plain name is spelled as the path it lands on. -/
lemma namePath_plain (h : PlainName name) (dir : Path) : namePath dir name = dir ++ [name] := by
  simp [namePath, isAbsolute_plain h, nameParts_plain h]

/-- Under a plain name that is a directory, a further component is looked up right there. -/
lemma FS.lookup_plain_dir {fs : FS} {dir : Path} {names : List String} (h : PlainName name)
    (hd : fs.entry (dir ++ [name]) = some (.dir names)) (f : String) (hf : f ≠ "..") :
    fs.lookup dir name [f] = .ok (dir ++ [name, f]) := by
  have hr : fs.resolve (dir ++ [name]) = some (dir ++ [name]) :=
    FS.resolve_of_not_symlink (by simp [hd])
  simp [FS.lookup, isAbsolute_plain h, nameParts_plain h, FS.walk, h.2.2.2, hf, hr, hd]

end Plain

end MoeServer
