import MoeServer.Quantization.Replace

/-!
# What the quantization pass computes

`_replace_with_bnb_layers` threads one mutable list through its recursion, mutates the tree
while iterating over it, and recurses into children it has already replaced.  This file says
what all that amounts to, without the list:

* `convertNode` — each child is replaced by its `bitsandbytes` layer when the exclusion test
  converts it, and is otherwise kept, with its own children converted in turn.  The test is
  made on the child's path from the top of the walk.
* `replacedNode` — the flag: some child anywhere converts, counting the children of a linear
  layer that was itself replaced, which the code still visits.

**`replaceNode_eq`** shows the code computes exactly these, that the key list comes back
as it went in (unchanged when it was given, the empty list when the call had to create it), and
which key list each call of the loop's first `if` is given.
The file on paths proves the rest about `convertNode` and carries it over by that theorem.
-/

namespace MoeServer

/-- The layer replacing a linear `module`: `Linear8bitLt` when the configuration asks for 8 bits,
`Linear4bit` otherwise. -/
def bnbLayer (cfg : BnbQuantizationConfig) (module : LinearLayer) : ModuleClass :=
  if cfg.loadIn8bit then .linear8bitLt (loadedLayer module) false cfg.llmInt8Threshold
  else .linear4bit (loadedLayer module) cfg.bnb4bitComputeDtype cfg.bnb4bitUseDoubleQuant
    cfg.bnb4bitQuantType

/-- A configuration has one width, so building the replacement never raises. -/
lemma bnbModule_eq (cfg : BnbQuantizationConfig) (module : LinearLayer) :
    bnbModule cfg module = .ok (bnbLayer cfg module) := by
  have := cfg.oneWidth
  unfold bnbModule bnbLayer
  cases h8 : cfg.loadIn8bit <;> cases h4 : cfg.loadIn4bit <;> simp_all

/-- The replacement for a module of class `cls`, when it is linear. -/
def ModuleClass.bnbFor (cfg : BnbQuantizationConfig) (cls : ModuleClass) : ModuleClass :=
  match cls.layer? with
  | some l => bnbLayer cfg l
  | none => cls

section Spec

variable (cfg : BnbQuantizationConfig) (modulesToNotConvert : List String)

mutual
/-- **The converted tree**: the module at path `pre` with its children converted. -/
def convertNode (pre : List String) : Module → Module
  | .mk cls cs => .mk cls (convertChildren pre cs)

/-- The children of the module at `pre`, each converted in turn. -/
def convertChildren (pre : List String) : List (String × Module) → List (String × Module)
  | [] => []
  | c :: rest => convertChild pre c :: convertChildren pre rest

/-- One child of the module at `pre`: its `bitsandbytes` layer, without children, when the test
converts it; otherwise the child with its own children converted. -/
def convertChild (pre : List String) : String × Module → String × Module
  | (n, m) => (n, if converts modulesToNotConvert (pre ++ [n]) n m.cls then
      .mk (m.cls.bnbFor cfg) [] else convertNode (pre ++ [n]) m)
end

mutual
/-- **The flag**: some child below the module at `pre` converts, including below a child that
was itself replaced. -/
def replacedNode (pre : List String) : Module → Bool
  | .mk _ cs => replacedChildren pre cs

/-- The flag over a list of children. -/
def replacedChildren (pre : List String) : List (String × Module) → Bool
  | [] => false
  | (n, m) :: rest =>
    converts modulesToNotConvert (pre ++ [n]) n m.cls || replacedNode (pre ++ [n]) m ||
      replacedChildren pre rest
end

/-- The path exists below the module at `pre`, and no module along it, the one at its end
included, converts.  With nothing excluded: no module along it is an `nn.Linear`. -/
def keptAlong (pre : List String) (m : Module) : List String → Bool
  | [] => true
  | n :: path => match m.child? n with
    | some c => !converts modulesToNotConvert (pre ++ [n]) n c.cls && keptAlong (pre ++ [n]) c path
    | none => false

end Spec

variable {cfg : BnbQuantizationConfig} {modulesToNotConvert : List String}

@[simp] lemma convertNode_mk (pre : List String) (cls : ModuleClass) (cs : List (String × Module)) :
    convertNode cfg modulesToNotConvert pre (.mk cls cs) =
      .mk cls (convertChildren cfg modulesToNotConvert pre cs) := by
  rw [convertNode]

@[simp] lemma convertChildren_nil (pre : List String) :
    convertChildren cfg modulesToNotConvert pre [] = [] := by
  rw [convertChildren]

@[simp] lemma convertChildren_cons (pre : List String) (c : String × Module)
    (rest : List (String × Module)) :
    convertChildren cfg modulesToNotConvert pre (c :: rest) =
      convertChild cfg modulesToNotConvert pre c :: convertChildren cfg modulesToNotConvert pre rest := by
  rw [convertChildren]

lemma convertChild_eq (pre : List String) (n : String) (m : Module) :
    convertChild cfg modulesToNotConvert pre (n, m) =
      (n, if converts modulesToNotConvert (pre ++ [n]) n m.cls then .mk (m.cls.bnbFor cfg) []
        else convertNode cfg modulesToNotConvert (pre ++ [n]) m) := by
  rw [convertChild]

@[simp] lemma replacedNode_leaf (pre : List String) (cls : ModuleClass) :
    replacedNode modulesToNotConvert pre (.mk cls []) = false := by
  rw [replacedNode, replacedChildren]

/-! ## The code computes the abstract pass -/

lemma converts_layer? {keys : List String} {name : String} {cls : ModuleClass}
    (h : converts modulesToNotConvert keys name cls) : ∃ l, cls.layer? = some l := by
  cases cls <;> simp_all [converts, ModuleClass.isLinear, ModuleClass.layer?]

lemma replaceLinear_eq (keys : List String) (name : String) (module : Module) :
    replaceLinear cfg modulesToNotConvert keys name module =
      .ok (if converts modulesToNotConvert keys name module.cls then .mk (module.cls.bnbFor cfg) []
        else module, converts modulesToNotConvert keys name module.cls) := by
  unfold replaceLinear ModuleClass.bnbFor
  split
  · split <;> simp_all [bnbModule_eq, bind, Except.bind, pure, Except.pure]
  · cases hc : converts modulesToNotConvert keys name module.cls
    · rfl
    · obtain ⟨l, hl⟩ := converts_layer? hc; simp_all

lemma popLast_append (keys : List String) (n : String) : popLast (keys ++ [n]) = .ok keys := by
  simp [popLast]

mutual
/-- **The code computes the converted tree and the flag**, and leaves the key list as it found
it (or, when it had to create it, empty); it enters the loop's first `if` once for every
submodule below the module, in `named_modules()` order, with the key list spelling the
submodule's path after the entry segments. -/
theorem replaceNode_eq : ∀ (ks : Option (List String)) (m : Module),
    replaceNode cfg modulesToNotConvert ks m =
      .ok (convertNode cfg modulesToNotConvert (ks.getD []) m,
        replacedNode modulesToNotConvert (ks.getD []) m,
        if m.children.isEmpty then ks else some (ks.getD []),
        m.namedModules.tail.map fun pc => (ks.getD [] ++ pc.1, pc.2))
  | ks, .mk cls cs => by
    rw [replaceNode, replaceChildren_eq ks cs]
    simp only [bind, Except.bind, pure, Except.pure, convertNode_mk, replacedNode, Module.children_mk,
      Module.namedModules, List.tail_cons]

/-- The loop over the children, from any child on. -/
theorem replaceChildren_eq : ∀ (ks : Option (List String)) (cs : List (String × Module)),
    replaceChildren cfg modulesToNotConvert ks cs =
      .ok (convertChildren cfg modulesToNotConvert (ks.getD []) cs,
        replacedChildren modulesToNotConvert (ks.getD []) cs,
        if cs.isEmpty then ks else some (ks.getD []),
        (Module.namedChildren cs).map fun pc => (ks.getD [] ++ pc.1, pc.2))
  | ks, [] => by rw [replaceChildren, convertChildren, replacedChildren]; rfl
  | ks, (n, .mk cls mcs) :: rest => by
    have hbelow := replaceNode_eq (some (ks.getD [] ++ [n])) (.mk cls mcs)
    have hrest := replaceChildren_eq (some (ks.getD [])) rest
    rw [replaceChildren, replaceLinear_eq, hbelow, convertChildren, convertChild, replacedChildren]
    simp only [Option.getD_some] at hrest
    by_cases hc : converts modulesToNotConvert (ks.getD [] ++ [n]) n cls <;> cases mcs <;>
      simp only [bind, Except.bind, pure, Except.pure, Module.children_mk, Module.cls_mk, hc,
        List.length_nil, List.length_cons, gt_iff_lt, Nat.lt_irrefl, Nat.succ_pos, ↓reduceIte,
        Option.getD_some, popLast_append, hrest, List.isEmpty_cons, ite_self, Bool.false_eq_true,
        Bool.or_false, Bool.true_or, Bool.false_or, convertNode_mk, convertChildren_nil,
        convertChildren_cons, replacedNode_leaf, Module.namedChildren, Module.namedModules,
        List.tail_cons, List.map_cons, List.map_nil, List.map_append, List.map_map, Function.comp_def,
        List.append_assoc, List.singleton_append, List.cons_append, List.nil_append]
end

end MoeServer
