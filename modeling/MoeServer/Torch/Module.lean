import MoeServer.Python.Builtins

/-!
# `torch.nn.Module` trees

Every expert is an `nn.Module`: an object of some class, with parameters of its own and child
modules registered under names.  The code walks that tree in two places — the quantization pass
replaces linear layers along `named_children()`, and `load_state_dict` writes a state dict into
the parameters by dotted name — so a module is modelled as the tree itself.

`ModuleClass` keeps what the code reads of a module's class: for `nn.Linear` and the two
`bitsandbytes` replacements (both subclasses of `nn.Linear`), the feature counts, the weight and
bias and the `requires_grad` flag; for any other class its name and parameters.  A module of
any class may have children, as in torch.

`Module.getSubmodule` finds the submodule at a dotted path, given as its list of names.  `stateDict` and
`loadStateDict` are torch's `state_dict()` and strict `load_state_dict(…)`.  The load writes each
entry into its parameter with `param.copy_(input_param)`, which keeps the parameter's dtype and
shape and takes the entry's values (`Tensor.loadFrom`).  So a strict load that succeeds reads
back as the loaded dictionary's tensors in the dtypes of the module's own parameters
(`Module.lookup_of_loadStateDict`).
-/

namespace MoeServer

/-- The attributes of a linear layer the code reads and sets. -/
structure LinearLayer where
  inFeatures : Nat
  outFeatures : Nat
  weight : Tensor
  bias : Option Tensor
  requiresGrad : Bool
  deriving DecidableEq, Repr

/-- A module's class, with the attributes of it the code reads. -/
inductive ModuleClass
  /-- `nn.Linear`, or a subclass of it other than the two below. -/
  | linear (layer : LinearLayer)
  /-- `bnb.nn.Linear8bitLt(…, has_fp16_weights, threshold)`. -/
  | linear8bitLt (layer : LinearLayer) (hasFp16Weights : Bool) (threshold : Nat)
  /-- `bnb.nn.Linear4bit(…, compute_dtype, compress_statistics, quant_type)`. -/
  | linear4bit (layer : LinearLayer) (computeDtype : DType) (compressStatistics : Bool)
      (quantType : String)
  /-- Any other class, by name, with its own parameters. -/
  | other (name : String) (params : List (String × Tensor))
  deriving DecidableEq

/-- A parameter after `_load_from_state_dict` has looked its name up in the state dict: with an
entry, `param.copy_(input_param)`, so the parameter keeps its dtype and shape and takes the
entry's values (cast to its dtype, which the model, carrying values unchanged, does not show);
without one, the parameter as it was. -/
def Tensor.loadFrom (param : Tensor) : Option Tensor → Tensor
  | some inputParam => { param with data := inputParam.data }
  | none => param

/-- The weight and bias of a linear layer, loaded from the state dict's entries under `pre`. -/
def LinearLayer.loadInto (l : LinearLayer) (sd : StateDict) (pre : String) : LinearLayer :=
  { l with
    weight := l.weight.loadFrom (sd.get? (pre ++ "weight"))
    bias := l.bias.map fun b => b.loadFrom (sd.get? (pre ++ "bias")) }

/-- A tensor cast by `.to(dtype)`: floating-point tensors change type, others stay. -/
def Tensor.castTo (t : Tensor) (d : DType) : Tensor :=
  if t.dtype.isFloatingPoint then { t with dtype := d } else t

/-- A linear layer with its weight and bias cast. -/
def LinearLayer.castTo (l : LinearLayer) (d : DType) : LinearLayer :=
  { l with weight := l.weight.castTo d, bias := l.bias.map (·.castTo d) }

namespace ModuleClass

/-- `isinstance(module, nn.Linear)`: the `bitsandbytes` layers subclass `nn.Linear`. -/
def isLinear : ModuleClass → Bool
  | .other _ _ => false
  | _ => true

/-- The linear layer's attributes, for a class that has them. -/
def layer? : ModuleClass → Option LinearLayer
  | .linear l | .linear8bitLt l _ _ | .linear4bit l _ _ _ => some l
  | .other _ _ => none

/-- The module's own parameters, by name, in registration order. -/
def params : ModuleClass → List (String × Tensor)
  | .other _ ps => ps
  | c => match c.layer? with
    | some l => ("weight", l.weight) :: (l.bias.map fun b => [("bias", b)]).getD []
    | none => []

/-- Loading the own parameters from the state dict's entries under `pre ++ name`.  The load
pre-hook `bitsandbytes` registers on `Linear8bitLt` (it pops `<prefix>weight_format` from the
state dict) is left out: results about loads into converted models are stated for 4-bit
configurations. -/
def loadParams (sd : StateDict) (pre : String) : ModuleClass → ModuleClass
  | .linear l => .linear (l.loadInto sd pre)
  | .linear8bitLt l h t => .linear8bitLt (l.loadInto sd pre) h t
  | .linear4bit l d c q => .linear4bit (l.loadInto sd pre) d c q
  | .other n ps => .other n (ps.map fun (k, t) => (k, t.loadFrom (sd.get? (pre ++ k))))

/-- The own parameters cast by `.to(dtype)`. -/
def castParams (d : DType) : ModuleClass → ModuleClass
  | .linear l => .linear (l.castTo d)
  | .linear8bitLt l h t => .linear8bitLt (l.castTo d) h t
  | .linear4bit l cd c q => .linear4bit (l.castTo d) cd c q
  | .other n ps => .other n (ps.map fun (k, t) => (k, t.castTo d))

end ModuleClass

/-- An `nn.Module`: its class, and its children registered under names, in order. -/
inductive Module where
  | mk (cls : ModuleClass) (children : List (String × Module))

namespace Module

/-- An empty module of an unnamed class, as a default value. -/
instance : Inhabited Module := ⟨mk (.other "" []) []⟩

/-- The module's class. -/
def cls : Module → ModuleClass
  | mk c _ => c

/-- The module's registered children. -/
def children : Module → List (String × Module)
  | mk _ cs => cs

@[simp] lemma cls_mk (c : ModuleClass) (cs : List (String × Module)) : (mk c cs).cls = c := rfl

@[simp] lemma children_mk (c : ModuleClass) (cs : List (String × Module)) :
    (mk c cs).children = cs := rfl

/-- The child registered under `n`, as attribute access finds it. -/
def child? (m : Module) (n : String) : Option Module := m.children.lookup n

/-- `get_submodule(target)`, with the dotted target given as its list of names; `none` where
torch raises. -/
def getSubmodule : Module → List String → Option Module
  | m, [] => some m
  | m, n :: path => (m.child? n).bind (·.getSubmodule path)

@[simp] lemma getSubmodule_nil (m : Module) : m.getSubmodule [] = some m := rfl

lemma getSubmodule_cons (m : Module) (n : String) (path : List String) :
    m.getSubmodule (n :: path) = (m.child? n).bind (·.getSubmodule path) := rfl

/-- A module without children has no submodule below it. -/
@[simp] lemma getSubmodule_leaf (c : ModuleClass) (n : String) (path : List String) :
    (mk c []).getSubmodule (n :: path) = none := rfl

lemma getSubmodule_append (m : Module) (p q : List String) :
    m.getSubmodule (p ++ q) = (m.getSubmodule p).bind (·.getSubmodule q) := by
  induction p generalizing m with
  | nil => rfl
  | cons n p ih =>
    simp only [List.cons_append, getSubmodule_cons]
    cases m.child? n <;> simp [ih]

mutual
/-- `named_modules()`: the module itself under the empty path, then every submodule below it
under its path, depth first in registration order. -/
def namedModules : Module → List (List String × Module)
  | mk c cs => ([], mk c cs) :: namedChildren cs

/-- The submodules of each child in turn, their paths starting with the child's name. -/
def namedChildren : List (String × Module) → List (List String × Module)
  | [] => []
  | (n, m) :: cs => (m.namedModules.map fun (p, d) => (n :: p, d)) ++ namedChildren cs
end

mutual
/-- `state_dict()`: every parameter under its dotted name, the module's own first. -/
def stateDictItems : Module → List (String × Tensor)
  | mk c cs => c.params ++ childItems cs

/-- The children's parameters, each prefixed by the child's name. -/
def childItems : List (String × Module) → List (String × Tensor)
  | [] => []
  | (n, m) :: cs => (m.stateDictItems.map fun (k, t) => (n ++ "." ++ k, t)) ++ childItems cs
end

mutual
/-- Writing a state dict into the parameters, the module's own under `pre`. -/
def loadFrom (sd : StateDict) (pre : String) : Module → Module
  | mk c cs => mk (c.loadParams sd pre) (loadChildren sd pre cs)

/-- The same for each child, under `pre ++ name ++ "."`. -/
def loadChildren (sd : StateDict) (pre : String) : List (String × Module) → List (String × Module)
  | [] => []
  | (n, m) :: cs => (n, m.loadFrom sd (pre ++ n ++ ".")) :: loadChildren sd pre cs
end

/-- `load_state_dict(sd)` with `strict=True`: the keys must be exactly the module's own, and
each tensor must have the shape of the parameter it is copied into; then every parameter is
loaded from its entry. -/
def loadStateDict (m : Module) (sd : StateDict) : Except PyError Module :=
  let own := m.stateDictItems
  if (own.all fun (k, t) => (sd.get? k).map Tensor.shape == some t.shape) &&
      sd.keys.all (fun k => own.any (·.1 == k)) then
    .ok (m.loadFrom sd "")
  else .error (.runtimeError "Error(s) in loading state_dict")

mutual
/-- `module.to(dtype)`: every floating-point parameter cast. -/
def toDtype (d : DType) : Module → Module
  | mk c cs => mk (c.castParams d) (toDtypeChildren d cs)

/-- The same for each child. -/
def toDtypeChildren (d : DType) : List (String × Module) → List (String × Module)
  | [] => []
  | (n, m) :: cs => (n, m.toDtype d) :: toDtypeChildren d cs
end

end Module

/-! ## A strict load reads back -/

namespace ModuleClass

/-- Each own parameter is loaded from the state dict's entry under `pre ++ name`. -/
lemma params_loadParams (sd : StateDict) (pre : String) (c : ModuleClass) :
    (c.loadParams sd pre).params = c.params.map fun kt => (kt.1, kt.2.loadFrom (sd.get? (pre ++ kt.1))) := by
  cases c with
  | other n ps => simp [loadParams, params]
  | _ l => rcases l with ⟨_, _, _, _ | _, _⟩ <;> rfl

end ModuleClass

namespace Module

mutual
/-- After loading `sd` under `pre`, each parameter is loaded from the entry under its full
name. -/
lemma stateDictItems_loadFrom (sd : StateDict) : ∀ (pre : String) (m : Module),
    (m.loadFrom sd pre).stateDictItems =
      m.stateDictItems.map fun kt => (kt.1, kt.2.loadFrom (sd.get? (pre ++ kt.1)))
  | pre, mk c cs => by
    rw [loadFrom, stateDictItems, stateDictItems, ModuleClass.params_loadParams,
      childItems_loadChildren, List.map_append]

lemma childItems_loadChildren (sd : StateDict) : ∀ (pre : String) (cs : List (String × Module)),
    childItems (loadChildren sd pre cs) =
      (childItems cs).map fun kt => (kt.1, kt.2.loadFrom (sd.get? (pre ++ kt.1)))
  | _, [] => rfl
  | pre, (n, m) :: cs => by
    rw [loadChildren, childItems, childItems, stateDictItems_loadFrom, childItems_loadChildren,
      List.map_append, List.map_map, List.map_map]
    congr 1
    refine List.map_congr_left fun kt _ => ?_
    simp [String.append_assoc]
end

/-- Loading every entry of a list of parameters keeps the names, so a name is found where it
was, loaded. -/
lemma lookup_map_loadFrom (sd : StateDict) (k : String) : ∀ l : List (String × Tensor),
    (l.map fun kt => (kt.1, kt.2.loadFrom (sd.get? kt.1))).lookup k =
      (l.lookup k).map fun t => t.loadFrom (sd.get? k)
  | [] => rfl
  | (a, t) :: l => by
    by_cases hk : k = a
    · subst hk
      simp only [List.map_cons, List.lookup_cons_self, Option.map_some']
    · rw [List.map_cons, PyDict.lookup_cons_of_ne hk, PyDict.lookup_cons_of_ne hk,
        lookup_map_loadFrom sd k l]

/-- What the check of a strict load says of each name: the state dict has an entry exactly where
the module has a parameter, of that parameter's shape. -/
lemma shape_get?_of_check {own : List (String × Tensor)} {sd : StateDict}
    (h : ((own.all fun (k, t) => (sd.get? k).map Tensor.shape == some t.shape) &&
      sd.keys.all fun k => own.any (·.1 == k)) = true) (k : String) :
    (sd.get? k).map Tensor.shape = (own.lookup k).map Tensor.shape := by
  simp only [Bool.and_eq_true, List.all_eq_true] at h
  obtain ⟨hown, hkeys⟩ := h
  cases hk : own.lookup k with
  | some t =>
    obtain ⟨l₁, l₂, hl, -⟩ := List.lookup_eq_some_iff.mp hk
    exact beq_iff_eq.mp (hown (k, t) (hl ▸ List.mem_append_right l₁ (List.mem_cons_self _ _)))
  | none =>
    -- a strict load has no entry the module lacks
    rw [Option.map_none', Option.map_eq_none', PyDict.get?_eq_none_iff]
    intro hmem
    obtain ⟨kt, hkt, hkk⟩ := List.any_eq_true.mp (hkeys k hmem)
    exact (PyDict.lookup_eq_none_iff _ _).mp hk (beq_iff_eq.mp hkk ▸ List.mem_map_of_mem Prod.fst hkt)

/-- **A strict load reads back.**  When `load_state_dict(sd)` succeeds, the module's
`state_dict()` holds, under exactly the names `sd` has, the shapes and values `sd` holds there,
each in the dtype the module's own parameter had. -/
lemma lookup_of_loadStateDict {m x : Module} {sd : StateDict} (h : m.loadStateDict sd = .ok x)
    (k : String) :
    (x.stateDictItems.lookup k).map (fun t => (t.shape, t.data)) =
        (sd.get? k).map (fun t => (t.shape, t.data)) ∧
      (x.stateDictItems.lookup k).map Tensor.dtype = (m.stateDictItems.lookup k).map Tensor.dtype := by
  unfold loadStateDict at h
  dsimp only at h
  split_ifs at h with hcheck
  cases h
  have hshape := shape_get?_of_check hcheck k
  simp only [stateDictItems_loadFrom, String.empty_append, lookup_map_loadFrom]
  revert hshape
  cases m.stateDictItems.lookup k <;> cases sd.get? k <;> simp [Tensor.loadFrom, eq_comm]

end Module

end MoeServer
