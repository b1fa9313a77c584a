import Mathlib.Data.List.Infix
import Mathlib.Data.List.Nodup

/-!
# The Python values the server code passes around

The modules under `src/hivemind/moe/server` are Python, and most of what can go wrong in them
is Python going wrong: a missing dictionary key, a positional argument too few, an assertion,
a `range` that is empty.  This file fixes the vocabulary every other file uses.

* `PyError` — the exceptions the modelled code raises or lets through, with the data each
  message is built from.  A model function that can raise returns `Except PyError _`.
* `PyDict` — a `dict` with string keys: items in insertion order, **each key once**, the
  invariant carried as a field so that no function can build a dictionary with a repeated key.
  `PyDict.setItem` is `d[k] = v`, which keeps the position of a key already present.
* `pyRange` — `range(start, stop)` over the integers, empty when `stop ≤ start`.
* `bindPositional` — how CPython binds positional arguments to the parameters of a `def`
  without defaults, raising `TypeError` before the body runs when the count is off.
* `pyIn` — `needle in haystack` on strings, a contiguous substring test.

Tensors are carried, never computed with: `Tensor` records an element type, a shape and the
stored values, and a state dict is a `PyDict Tensor`.
-/

namespace MoeServer

/-- A physical path: the names of the directories from the root down, then the entry's own
name.  `[]` is the root. -/
abbrev Path := List String

/-- The exceptions the modelled code raises or lets through.  File-system errors carry the path
the operating system reports; the others the text or key their message is built from. -/
inductive PyError
  | assertionError (msg : String)
  | typeError (msg : String)
  | keyError (key : String)
  | valueError (msg : String)
  | nameError (msg : String)
  | runtimeError (msg : String)
  | indexError (msg : String)
  | recursionError
  | fileExistsError (path : Path)
  | fileNotFoundError (path : Path)
  | notADirectoryError (path : Path)
  | isADirectoryError (path : Path)
  | sameFileError (src dst : Path)
  /-- The operating system refusing a call: disk full, permission denied, an I/O error. -/
  | osError (path : Path)
  /-- An exception from code outside this repository (a backend, the DHT, the runtime). -/
  | raised (what : String)
  deriving DecidableEq, Repr

instance {α : Type} [DecidableEq α] : DecidableEq (Except PyError α)
  | .ok a, .ok b => decidable_of_iff (a = b) (by simp)
  | .error a, .error b => decidable_of_iff (a = b) (by simp)
  | .ok _, .error _ => isFalse (by simp)
  | .error _, .ok _ => isFalse (by simp)

/-- A computation followed by another returned: both did. -/
lemma bind_eq_ok {α β : Type} {x : Except PyError α} {f : α → Except PyError β} {b : β} :
    x >>= f = .ok b ↔ ∃ a, x = .ok a ∧ f a = .ok b := by
  cases x <;> simp [bind, Except.bind]

/-- The element types the code names; `torch.float16` is the one it casts to. -/
inductive DType
  | float16
  | bfloat16
  | float32
  | other (name : String)
  deriving DecidableEq, Repr

/-- `torch.is_floating_point`. -/
def DType.isFloatingPoint : DType → Bool
  | .other _ => false
  | _ => true

/-- A tensor as this code handles it: moved between dictionaries, files and modules, cast,
compared, never computed with. -/
structure Tensor where
  dtype : DType
  shape : List Nat
  data : List Int
  deriving DecidableEq, Repr

/-! ## Dictionaries -/

/-- A Python `dict` with string keys: its items in insertion order, each key once. -/
structure PyDict (α : Type) where
  items : List (String × α)
  nodup : (items.map Prod.fst).Nodup

/-- A state dict: parameter names to tensors, in the order the module registers them. -/
abbrev StateDict := PyDict Tensor

namespace PyDict

variable {α : Type}

/-- `{}`. -/
def empty : PyDict α := ⟨[], List.nodup_nil⟩

/-- `d.keys()`. -/
def keys (d : PyDict α) : List String := d.items.map Prod.fst

/-- `d.get(k)`. -/
def get? (d : PyDict α) (k : String) : Option α := d.items.lookup k

/-- `d[k]`: the value, or `KeyError(k)`. -/
def getItem (d : PyDict α) (k : String) : Except PyError α :=
  match d.get? k with
  | some v => .ok v
  | none => .error (.keyError k)

lemma getItem_eq_ok {d : PyDict α} {k : String} {v : α} : d.getItem k = .ok v ↔ d.get? k = some v := by
  unfold getItem
  split <;> simp_all

lemma map_fst_replace (items : List (String × α)) (k : String) (v : α) :
    (items.map fun p => if p.1 = k then (k, v) else p).map Prod.fst = items.map Prod.fst := by
  induction items with
  | nil => rfl
  | cons p ps ih => by_cases h : p.1 = k <;> simp [h, ih]

/-- `d[k] = v`: a key already present keeps its position and takes the new value; a new key
goes last. -/
def setItem (d : PyDict α) (k : String) (v : α) : PyDict α :=
  if h : k ∈ d.keys then
    ⟨d.items.map (fun p => if p.1 = k then (k, v) else p), by
      rw [map_fst_replace]; exact d.nodup⟩
  else
    ⟨d.items ++ [(k, v)], by
      rw [List.map_append, List.nodup_append]
      exact ⟨d.nodup, List.nodup_singleton _, List.disjoint_singleton.mpr h⟩⟩

/-- Building a dictionary by `d[k] = v` for each pair in turn, as a `for` loop does. -/
def ofPairs (ps : List (String × α)) : PyDict α :=
  ps.foldl (fun d p => d.setItem p.1 p.2) empty

@[simp] lemma keys_empty : (empty : PyDict α).keys = [] := rfl

@[simp] lemma get?_empty (k : String) : (empty : PyDict α).get? k = none := rfl

lemma keys_setItem (d : PyDict α) (k : String) (v : α) :
    (d.setItem k v).keys = if k ∈ d.keys then d.keys else d.keys ++ [k] := by
  unfold setItem keys
  split_ifs with h
  · exact map_fst_replace _ _ _
  · simp

lemma keys_nodup (d : PyDict α) : d.keys.Nodup := d.nodup

lemma items_setItem_of_not_mem {d : PyDict α} {k : String} (h : k ∉ d.keys) (v : α) :
    (d.setItem k v).items = d.items ++ [(k, v)] := by
  simp [setItem, h]

lemma items_foldl_setItem (ps : List (String × α)) (d : PyDict α)
    (h : (d.keys ++ ps.map Prod.fst).Nodup) :
    (ps.foldl (fun d p => d.setItem p.1 p.2) d).items = d.items ++ ps := by
  induction ps generalizing d with
  | nil => simp
  | cons p ps ih =>
    have hp : p.1 ∉ d.keys := fun hm => (List.nodup_append.mp h).2.2 hm (List.mem_cons_self _ _)
    have hkeys : (d.setItem p.1 p.2).keys = d.keys ++ [p.1] := by simp [keys_setItem, hp]
    rw [List.foldl_cons, ih _ (by simpa [hkeys] using h), items_setItem_of_not_mem hp]
    simp

lemma lookup_cons_of_ne {k a : String} (h : k ≠ a) (b : α) (l : List (String × α)) :
    ((a, b) :: l).lookup k = l.lookup k := by
  rw [List.lookup_cons, beq_false_of_ne h]

lemma lookup_eq_none_iff (l : List (String × α)) (k : String) :
    l.lookup k = none ↔ k ∉ l.map Prod.fst := by
  induction l with
  | nil => simp
  | cons p l ih =>
    obtain ⟨a, b⟩ := p
    by_cases h : k = a
    · subst h
      simp only [List.lookup_cons, beq_self_eq_true, List.map_cons, List.mem_cons, true_or,
        not_true_eq_false, iff_false]
      exact Option.some_ne_none _
    · rw [lookup_cons_of_ne h, ih, List.map_cons, List.mem_cons, not_or]
      exact (and_iff_right h).symm

lemma lookup_map_replace (l : List (String × α)) (k g : String) (v : α) :
    (l.map fun p => if p.1 = k then (k, v) else p).lookup g =
      if g = k ∧ k ∈ l.map Prod.fst then some v else l.lookup g := by
  induction l with
  | nil => simp
  | cons p l ih =>
    obtain ⟨a, b⟩ := p
    by_cases ha : a = k
    · -- the head is the key: replaced
      subst ha
      rw [List.map_cons, if_pos rfl]
      by_cases hg : g = a
      · subst hg
        simp only [List.lookup_cons, beq_self_eq_true, true_and, List.map_cons, List.mem_cons,
          true_or, if_true]
      · rw [lookup_cons_of_ne hg, ih, lookup_cons_of_ne hg, if_neg (fun h => hg h.1),
          if_neg (fun h => hg h.1)]
    · -- the head is another key: kept
      rw [List.map_cons, if_neg ha]
      by_cases hg : g = a
      · subst hg
        simp only [List.lookup_cons, beq_self_eq_true, ha, false_and, if_false]
      · rw [lookup_cons_of_ne hg, ih, lookup_cons_of_ne hg]
        simp only [List.map_cons, List.mem_cons, Ne.symm ha, false_or]

lemma get?_eq_none_iff (d : PyDict α) (k : String) : d.get? k = none ↔ k ∉ d.keys :=
  lookup_eq_none_iff _ _

lemma get?_setItem (d : PyDict α) (k : String) (v : α) (g : String) :
    (d.setItem k v).get? g = if g = k then some v else d.get? g := by
  unfold setItem get?
  split_ifs with hk hg hg
  · exact (lookup_map_replace _ _ _ _).trans (if_pos ⟨hg, hk⟩)
  · exact (lookup_map_replace _ _ _ _).trans (if_neg fun h => hg h.1)
  · subst hg
    have : d.items.lookup g = none := (lookup_eq_none_iff _ _).mpr hk
    simp [List.lookup_append, this]
  · rw [List.lookup_append, lookup_cons_of_ne hg, List.lookup_nil, Option.or_none]

lemma mem_items_of_get? {d : PyDict α} {k : String} {v : α} (h : d.get? k = some v) :
    (k, v) ∈ d.items := by
  obtain ⟨l₁, l₂, hl, -⟩ := List.lookup_eq_some_iff.mp h
  rw [hl]; exact List.mem_append_right _ (List.mem_cons_self _ _)

/-- A dictionary display `{k1: v1, k2: v2, …}` with distinct keys keeps its items as written. -/
lemma items_ofPairs {ps : List (String × α)} (h : (ps.map Prod.fst).Nodup) :
    (ofPairs ps).items = ps :=
  items_foldl_setItem ps empty (by simpa using h)

end PyDict

/-! ## Builtins -/

/-- `range(start, stop)`: `start, start + 1, …, stop - 1`, empty when `stop ≤ start`. -/
def pyRange (start stop : Int) : List Int :=
  (List.range (stop - start).toNat).map fun i : Nat => start + (i : Int)

@[simp] lemma length_pyRange (start stop : Int) :
    (pyRange start stop).length = (stop - start).toNat := by
  simp [pyRange]

lemma mem_pyRange {start stop x : Int} : x ∈ pyRange start stop ↔ start ≤ x ∧ x < stop := by
  simp only [pyRange, List.mem_map, List.mem_range]
  constructor
  · rintro ⟨i, hi, rfl⟩; omega
  · intro h; exact ⟨(x - start).toNat, by omega, by omega⟩

lemma nodup_pyRange (start stop : Int) : (pyRange start stop).Nodup :=
  (List.nodup_range _).map fun a b h => by omega

/-- `needle in haystack` for strings: `needle` occurs in `haystack` as a contiguous run. -/
def pyIn (needle haystack : String) : Bool :=
  decide (needle.data <:+: haystack.data)

/-- The list of names in a `TypeError` for missing arguments, as CPython writes it:
`'a'`, `'a' and 'b'`, `'a', 'b', and 'c'`. -/
def quotedNames : List String → String
  | [] => ""
  | [a] => "'" ++ a ++ "'"
  | [a, b] => "'" ++ a ++ "' and '" ++ b ++ "'"
  | a :: rest => "'" ++ a ++ "', " ++ quotedNames rest

/-- The `TypeError` a call raises when the parameters `missing` received no argument. -/
def missingArguments (fn : String) (missing : List String) : PyError :=
  .typeError (fn ++ "() missing " ++ toString missing.length ++ " required positional argument"
    ++ (if missing.length = 1 then "" else "s") ++ ": " ++ quotedNames missing)

/-- Binding positional arguments to the parameters of a `def` none of which has a default:
each parameter takes the argument at its position.  Too few or too many arguments is a
`TypeError`, raised before any of the body runs. -/
def bindPositional {α : Type} (fn : String) (params : List String) (args : List α) :
    Except PyError (List (String × α)) :=
  if args.length < params.length then .error (missingArguments fn (params.drop args.length))
  else if params.length < args.length then
    .error (.typeError (fn ++ "() takes " ++ toString params.length
      ++ " positional arguments but " ++ toString args.length ++ " were given"))
  else .ok (params.zip args)

lemma bindPositional_of_lt {α : Type} {fn : String} {params : List String} {args : List α}
    (h : args.length < params.length) :
    bindPositional fn params args = .error (missingArguments fn (params.drop args.length)) := by
  simp [bindPositional, h]

end MoeServer
