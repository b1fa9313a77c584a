import MoeServer.Quantization.Spec

/-!
# The quantized tree, path by path

What the pass leaves at a dotted path (`getSubmodule_convertNode_child`): along a path none of
whose modules converts, the result holds the same modules; at the first module that converts
stands its replacement, which has no children, so every path further down is gone; and no path
appears that was not there.  From that:

* **`quantization_replaces_linear`** — with nothing excluded, an `nn.Linear` at a path with no
  `nn.Linear` above it becomes a frozen `Linear4bit` holding the original weight and bias, any
  other module keeps its class and its children's names, no path appears, and the flag says
  whether the model has an `nn.Linear` anywhere below the top.  A linear layer with children
  of its own loses them (`quantization_drops_below_linear`).
* **`replaceWithBnbLayers_excludes`** — an entry `k` of the exclusion list keeps a linear layer
  when it is the layer's own name, the whole dotted key, or occurs in the key followed by a dot:
  a substring test, so `"ock"` keeps `block.w1` (`replaceWithBnbLayers_excludes_mid_segment`).
* **`replaceNode_key_stack`** — the one list `current_key_name` that every level of the
  recursion appends to and pops from comes back from each call as it went in, and the walk's
  record of the calls of its first `if` shows the list spelling, at each of them, the full path
  of the child the exclusion test is about.
-/

namespace MoeServer

variable {cfg : BnbQuantizationConfig} {modulesToNotConvert : List String}

/-! ## The converted tree, path by path -/

lemma lookup_convertChildren (pre : List String) (cs : List (String × Module)) (n : String) :
    (convertChildren cfg modulesToNotConvert pre cs).lookup n =
      (cs.lookup n).map fun c => (convertChild cfg modulesToNotConvert pre (n, c)).2 := by
  induction cs with
  | nil => rfl
  | cons c rest ih =>
    obtain ⟨k, m⟩ := c
    simp only [convertChildren_cons, convertChild_eq, List.lookup_cons]
    cases h : n == k
    · exact ih
    · rw [beq_iff_eq.mp h]; rfl

lemma child?_convertNode (pre : List String) (m : Module) (n : String) :
    (convertNode cfg modulesToNotConvert pre m).child? n =
      (m.child? n).map fun c => (convertChild cfg modulesToNotConvert pre (n, c)).2 := by
  cases m
  exact lookup_convertChildren _ _ _

/-- Along a path that keeps every module, the converted tree holds the converted modules. -/
lemma getSubmodule_convertNode_kept (path pre : List String) (m : Module)
    (h : keptAlong modulesToNotConvert pre m path) :
    (convertNode cfg modulesToNotConvert pre m).getSubmodule path =
      (m.getSubmodule path).map (convertNode cfg modulesToNotConvert (pre ++ path)) := by
  induction path generalizing pre m with
  | nil => simp
  | cons n path ih =>
    simp only [keptAlong] at h
    split at h
    · next c hc =>
      simp only [Bool.and_eq_true, Bool.not_eq_true'] at h
      simp [Module.getSubmodule_cons, child?_convertNode, hc, convertChild_eq, h.1, ih _ _ h.2]
    · exact absurd h Bool.false_ne_true

/-- **The module at the end of a kept path, one step further down**: its child `n` as the pass
leaves it, and whatever lies below that child. -/
theorem getSubmodule_convertNode_child {pre q : List String} {n : String} {m c : Module}
    (hkept : keptAlong modulesToNotConvert pre m q) (hc : m.getSubmodule (q ++ [n]) = some c)
    (rest : List String) :
    (convertNode cfg modulesToNotConvert pre m).getSubmodule (q ++ n :: rest) =
      (convertChild cfg modulesToNotConvert (pre ++ q) (n, c)).2.getSubmodule rest := by
  rw [Module.getSubmodule_append] at hc ⊢
  rw [getSubmodule_convertNode_kept q pre m hkept]
  cases hp : m.getSubmodule q with
  | none => simp [hp] at hc
  | some p =>
    simp only [hp, Option.some_bind, Module.getSubmodule_cons, Module.getSubmodule_nil,
      Option.bind_some] at hc
    simp [Module.getSubmodule_cons, child?_convertNode, hc]

/-- The pass adds no path. -/
lemma getSubmodule_convertNode_none (path pre : List String) (m : Module)
    (h : m.getSubmodule path = none) :
    (convertNode cfg modulesToNotConvert pre m).getSubmodule path = none := by
  induction path generalizing pre m with
  | nil => simp at h
  | cons n path ih =>
    rw [Module.getSubmodule_cons] at h ⊢
    rw [child?_convertNode]
    cases hc : m.child? n with
    | none => rfl
    | some c =>
      simp only [hc, Option.some_bind] at h
      simp only [Option.map_some', Option.some_bind, convertChild_eq]
      split
      · cases path with
        | nil => simp at h
        | cons _ _ => rfl
      · exact ih _ _ h

@[simp] lemma cls_convertNode (pre : List String) (m : Module) :
    (convertNode cfg modulesToNotConvert pre m).cls = m.cls := by
  cases m; rfl

lemma names_convertChildren (pre : List String) (cs : List (String × Module)) :
    (convertChildren cfg modulesToNotConvert pre cs).map Prod.fst = cs.map Prod.fst := by
  induction cs with
  | nil => simp
  | cons c rest ih => obtain ⟨n, m⟩ := c; simp [convertChild_eq, ih]

@[simp] lemma names_convertNode (pre : List String) (m : Module) :
    (convertNode cfg modulesToNotConvert pre m).children.map Prod.fst = m.children.map Prod.fst := by
  cases m; exact names_convertChildren _ _

/-! ## With nothing excluded: `quantization` -/

lemma isLinear_eq_isSome (cls : ModuleClass) : cls.isLinear = cls.layer?.isSome := by
  cases cls <;> rfl

@[simp] lemma converts_nil (keys : List String) (name : String) (cls : ModuleClass) :
    converts [] keys name cls = cls.isLinear := by
  simp [converts, excludedKey]

mutual
theorem replacedNode_nil : ∀ (pre : List String) (m : Module),
    replacedNode [] pre m = (Module.namedChildren m.children).any (·.2.cls.isLinear)
  | pre, .mk _ cs => by rw [replacedNode, replacedChildren_nil]; rfl

theorem replacedChildren_nil : ∀ (pre : List String) (cs : List (String × Module)),
    replacedChildren [] pre cs = (Module.namedChildren cs).any (·.2.cls.isLinear)
  | pre, [] => by rw [replacedChildren, Module.namedChildren]; rfl
  | pre, (n, .mk cls mcs) :: rest => by
    rw [replacedChildren, Module.namedChildren, replacedNode_nil, replacedChildren_nil,
      Module.namedModules]
    simp [List.any_map, Function.comp_def, Bool.or_assoc]
end

lemma quantization_eq (model : Module) :
    quantization model = .ok ⟨convertNode baseQuantConfig [] [] model, true, false⟩ := by
  simp [quantization, replaceWithBnbLayers, replaceNode_eq, bind, Except.bind, pure, Except.pure,
    baseQuantConfig]

/-- **`quantization` on any model.**  Below a path with no `nn.Linear` along it: an `nn.Linear`
becomes a frozen `Linear4bit` with the original weight and bias and no children, and any other
module keeps its class and its children's names.  No path appears that the model did not have,
and `_replace_with_bnb_layers` reports a replacement exactly when some proper submodule, at any
depth, is an `nn.Linear`. -/
theorem quantization_replaces_linear (model : Module) :
    ∃ qm : QuantizedModel, quantization model = .ok qm ∧
      (replaceNode baseQuantConfig [] none model).map (·.2.1) =
        .ok (model.namedModules.tail.any (·.2.cls.isLinear)) ∧
      (∀ q n c, keptAlong [] [] model q → model.getSubmodule (q ++ [n]) = some c →
        (qm.model.getSubmodule (q ++ [n])).map (fun r => (r.cls, r.children.map Prod.fst)) =
          some (match c.cls.layer? with
            | some l => (.linear4bit (loadedLayer l) .float16 true "nf4", [])
            | none => (c.cls, c.children.map Prod.fst))) ∧
      ∀ path, model.getSubmodule path = none → qm.model.getSubmodule path = none := by
  refine ⟨_, quantization_eq model, ?flag, fun q n c hkept hc => ?path,
    fun path => getSubmodule_convertNode_none path [] model⟩
  case flag =>
    cases model
    simp [replaceNode_eq, replacedNode_nil, Module.namedModules, Except.map]
  case path =>
    rw [getSubmodule_convertNode_child hkept hc [], convertChild_eq, converts_nil,
      isLinear_eq_isSome]
    cases h : c.cls.layer? <;>
      simp [h, ModuleClass.bnbFor, bnbLayer, baseQuantConfig]

/-- A linear layer of two inputs and three outputs, with a bias. -/
def sampleLayer : LinearLayer :=
  ⟨2, 3, ⟨.float32, [3, 2], [1, 2, 3, 4, 5, 6]⟩, some ⟨.float32, [3], [0, 0, 0]⟩, true⟩

/-- A model whose child `a` is a linear layer with a linear layer `b` of its own, as a subclass
of `nn.Linear` that registers submodules has. -/
def nestedLinear : Module :=
  .mk (.other "Model" []) [("a", .mk (.linear sampleLayer) [("b", .mk (.linear sampleLayer) [])])]

/-- The linear layer at `a.b` is not replaced at its path: the path is gone. -/
theorem quantization_drops_below_linear :
    (nestedLinear.getSubmodule ["a", "b"]).map (·.cls.isLinear) = some true ∧
      (quantization nestedLinear).map (fun qm => (qm.model.getSubmodule ["a", "b"]).isSome) =
        .ok false := by
  decide

/-! ## The exclusion test -/

lemma pyIn_iff (needle haystack : String) :
    pyIn needle haystack ↔ needle.data <:+: haystack.data := decide_eq_true_iff

/-- `key + "." in s` already gives `key in s`, so the test is `key + "." in s or key == s`. -/
lemma excludedKey_iff (s : String) :
    excludedKey modulesToNotConvert s ↔
      ∃ k ∈ modulesToNotConvert, (k ++ ".").data <:+: s.data ∨ k = s := by
  simp only [excludedKey, List.any_eq_true, Bool.or_eq_true, Bool.and_eq_true, beq_iff_eq, pyIn_iff]
  refine exists_congr fun k => and_congr_right fun _ => or_congr_left ⟨And.right, fun h => ⟨?_, h⟩⟩
  exact (List.prefix_append k.data ['.']).isInfix.trans (by simpa using h)

lemma converts_iff (keys : List String) (name : String) (cls : ModuleClass) :
    converts modulesToNotConvert keys name cls ↔ cls.isLinear ∧
      ¬(name ∈ modulesToNotConvert ∨ ∃ k ∈ modulesToNotConvert,
        (k ++ ".").data <:+: (".".intercalate keys).data ∨ k = ".".intercalate keys) := by
  rw [← excludedKey_iff]
  simp [converts, not_or, and_assoc]

lemma replaceWithBnbLayers_eq (model : Module) (cfg : BnbQuantizationConfig) :
    replaceWithBnbLayers model cfg (some modulesToNotConvert) =
      .ok (convertNode cfg modulesToNotConvert [] model) := by
  simp [replaceWithBnbLayers, replaceNode_eq, bind, Except.bind, pure, Except.pure]

/-- **The exclusion list, at every linear layer the walk keeps its path to.**  The layer at
`q ++ [n]` stays as it was exactly when an entry is its name `n`, is its whole dotted key, or
occurs in the key followed by a dot — anywhere in it, not only at a segment boundary. -/
theorem replaceWithBnbLayers_excludes (cfg : BnbQuantizationConfig)
    (modulesToNotConvert : List String) (model : Module) (q : List String) (n : String)
    (c : Module) (hkept : keptAlong modulesToNotConvert [] model q)
    (hc : model.getSubmodule (q ++ [n]) = some c) (hlinear : c.cls.isLinear) :
    (replaceWithBnbLayers model cfg (some modulesToNotConvert)).map
        (fun r => (r.getSubmodule (q ++ [n])).map Module.cls) =
      .ok (some (if n ∈ modulesToNotConvert ∨ ∃ k ∈ modulesToNotConvert,
          (k ++ ".").data <:+: (".".intercalate (q ++ [n])).data ∨ k = ".".intercalate (q ++ [n])
        then c.cls else c.cls.bnbFor cfg)) := by
  have hpath : (convertNode cfg modulesToNotConvert [] model).getSubmodule (q ++ [n]) =
      (convertChild cfg modulesToNotConvert ([] ++ q) (n, c)).2.getSubmodule [] :=
    getSubmodule_convertNode_child hkept hc []
  rw [List.nil_append] at hpath
  rw [replaceWithBnbLayers_eq, Except.map, hpath, convertChild_eq]
  by_cases hex : n ∈ modulesToNotConvert ∨ ∃ k ∈ modulesToNotConvert,
      (k ++ ".").data <:+: (".".intercalate (q ++ [n])).data ∨ k = ".".intercalate (q ++ [n])
  · rw [if_pos hex, if_neg fun h => ((converts_iff _ _ _).mp h).2 hex]
    simp
  · rw [if_neg hex, if_pos ((converts_iff _ _ _).mpr ⟨hlinear, hex⟩)]
    rfl

/-- A model with a linear layer `w1` inside a block. -/
def blockModel : Module :=
  .mk (.other "Model" []) [("block", .mk (.other "Block" []) [("w1", .mk (.linear sampleLayer) [])])]

theorem replaceWithBnbLayers_converts_block_w1 :
    (replaceWithBnbLayers blockModel baseQuantConfig (some ["lm_head"])).map
        (fun r => (r.getSubmodule ["block", "w1"]).map Module.cls) =
      .ok (some ((ModuleClass.linear sampleLayer).bnbFor baseQuantConfig)) := by
  have h := replaceWithBnbLayers_excludes baseQuantConfig ["lm_head"] blockModel ["block"] "w1"
    (.mk (.linear sampleLayer) []) (by decide) rfl rfl
  rwa [if_neg (by decide)] at h

/-- The entry `"ock"` is no segment of `block.w1`, nor a leading run of segments, nor the layer's
name, yet it keeps the layer: `"ock."` occurs in `"block.w1"`. -/
theorem replaceWithBnbLayers_excludes_mid_segment :
    ¬(∃ k ∈ ["ock"], k = "w1" ∨ k = "block.w1" ∨ k = "block") ∧
      (replaceWithBnbLayers blockModel baseQuantConfig (some ["ock"])).map
          (fun r => (r.getSubmodule ["block", "w1"]).map Module.cls) =
        .ok (some (.linear sampleLayer)) := by
  decide

/-! ## The key list at each exclusion test -/

/-- **The key-path stack discipline.**  A call of `_replace_with_bnb_layers` that returns leaves a
given list `current_key_name` holding what it held on entry.  And the walk enters the loop's
first `if` once for every submodule below the model, in `named_modules()` order, giving it the
list as it then stands: the caller's initial segments followed by that submodule's path from the
model, at every depth, and when the call had to create the list itself.  That `if` is where the
exclusion test reads `".".join(current_key_name)` (`converts`). -/
theorem replaceNode_key_stack (cfg : BnbQuantizationConfig) (modulesToNotConvert : List String)
    (ks : Option (List String)) (m m' : Module) (b : Bool) (ks' : Option (List String))
    (calls : List (List String × Module))
    (h : replaceNode cfg modulesToNotConvert ks m = .ok (m', b, ks', calls)) :
    (∀ l, ks = some l → ks' = some l) ∧
      calls = m.namedModules.tail.map fun pc => (ks.getD [] ++ pc.1, pc.2) := by
  rw [replaceNode_eq] at h
  simp only [Except.ok.injEq, Prod.mk.injEq] at h
  obtain ⟨-, -, rfl, rfl⟩ := h
  refine ⟨fun l hl => ?_, rfl⟩
  subst hl
  split <;> rfl

/-- In `blockModel`, with no list given, the walk enters the test for `block` with `["block"]`
and for `block.w1` one level down with `["block", "w1"]`. -/
theorem replaceNode_key_stack_block_w1 :
    ∃ m' b ks' calls, replaceNode baseQuantConfig [] none blockModel = .ok (m', b, ks', calls) ∧
      calls.map Prod.fst = [["block"], ["block", "w1"]] ∧
      (∀ l, (none : Option (List String)) = some l → ks' = some l) ∧
      calls = blockModel.namedModules.tail.map fun pc => (([] : List String) ++ pc.1, pc.2) :=
  ⟨_, _, _, _, rfl, rfl, replaceNode_key_stack baseQuantConfig [] none blockModel _ _ _ _ rfl⟩

end MoeServer
