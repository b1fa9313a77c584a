import MoeServer.Quantization.Paths

/-!
# The quantization pass and the weights

`Server._make_expert(load_in_4bit=True, ...)` quantizes a freshly built expert, and
`_load_expert_weights` then loads a state dict into the quantized expert; `store_experts` saves
its `state_dict()`.  The pass is invisible to both, as long as every `nn.Linear` below the
model is a leaf — as torch's `nn.Linear` and the `bitsandbytes` layers are (`leafLinearChildren`;
below a linear layer with children the pass drops the subtree, `quantization_drops_below_linear`):

* **`replaceWithBnbLayers_stateDict`** — the converted model's `state_dict()` has the same names,
  in the same order, holding the same tensors: a replacement layer carries the weight and bias
  of the layer it replaced.
* **`replaceWithBnbLayers_loadStateDict`** — with a 4-bit configuration, quantizing and then
  loading a state dict is loading and then quantizing: the load into the converted model fails
  exactly when the load into the original fails, and otherwise gives the converted model of the
  loaded one.
* **`replaceWithBnbLayers_idempotent`** — a `bitsandbytes` layer is itself an `nn.Linear`, so a
  second pass replaces it again, by the same layer: the pass is idempotent, on any model.

Each is proved on the abstract pass `convertNode`, child by child along its mutual recursion,
and carried to the code by `replaceNode_eq`.
-/

namespace MoeServer

mutual
/-- Every `nn.Linear` at or below the module has no children of its own. -/
def leafLinear : Module → Bool
  | .mk cls cs => (!cls.isLinear || cs.isEmpty) && leafLinearChildren cs

/-- Every `nn.Linear` among the modules `cs` and below them has no children of its own. -/
def leafLinearChildren : List (String × Module) → Bool
  | [] => true
  | (_, m) :: cs => leafLinear m && leafLinearChildren cs
end

lemma leafLinearChildren_cons (n : String) (cls : ModuleClass) (cs rest : List (String × Module)) :
    leafLinearChildren ((n, .mk cls cs) :: rest) =
      ((!cls.isLinear || cs.isEmpty) && leafLinearChildren cs && leafLinearChildren rest) := by
  rw [leafLinearChildren, leafLinear]

/-! ## The replacement layer -/

section Layer

variable (cfg : BnbQuantizationConfig)

/-- The replacement layer has the parameters of the layer it replaces. -/
@[simp] lemma params_bnbFor (cls : ModuleClass) : (cls.bnbFor cfg).params = cls.params := by
  cases cls <;> simp only [ModuleClass.bnbFor, ModuleClass.layer?, bnbLayer] <;>
    split <;> rfl

@[simp] lemma isLinear_bnbFor (cls : ModuleClass) : (cls.bnbFor cfg).isLinear = cls.isLinear := by
  cases cls <;> simp only [ModuleClass.bnbFor, ModuleClass.layer?, bnbLayer] <;>
    split <;> rfl

@[simp] lemma isLinear_loadParams (sd : StateDict) (pre : String) (cls : ModuleClass) :
    (cls.loadParams sd pre).isLinear = cls.isLinear := by
  cases cls <;> rfl

/-- Loading into the replacement layer is replacing the loaded layer. -/
lemma bnbFor_loadParams (sd : StateDict) (pre : String) (cls : ModuleClass) :
    (cls.bnbFor cfg).loadParams sd pre = (cls.loadParams sd pre).bnbFor cfg := by
  cases cls <;> cases h8 : cfg.loadIn8bit <;>
    simp only [ModuleClass.bnbFor, ModuleClass.layer?, ModuleClass.loadParams, bnbLayer, h8,
      Bool.false_eq_true, ↓reduceIte] <;> rfl

/-- Building a replacement from a replacement gives it back. -/
@[simp] lemma bnbFor_bnbFor (cls : ModuleClass) : (cls.bnbFor cfg).bnbFor cfg = cls.bnbFor cfg := by
  cases cls <;> cases h8 : cfg.loadIn8bit <;>
    simp only [ModuleClass.bnbFor, ModuleClass.layer?, bnbLayer, h8, Bool.false_eq_true,
      ↓reduceIte] <;> rfl

variable (modulesToNotConvert : List String) (keys : List String) (name : String)

/-- The test reads a class only through `isinstance(module, nn.Linear)`. -/
lemma converts_congr {cls cls' : ModuleClass} (h : cls'.isLinear = cls.isLinear) :
    converts modulesToNotConvert keys name cls' = converts modulesToNotConvert keys name cls := by
  rw [converts, converts, h]

lemma isLinear_of_converts {cls : ModuleClass} (h : converts modulesToNotConvert keys name cls) :
    cls.isLinear := by
  simp only [converts, Bool.and_eq_true] at h
  exact h.1.1

end Layer

/-! ## What the abstract pass keeps -/

section Convert

variable {cfg : BnbQuantizationConfig} {modulesToNotConvert : List String}

mutual
theorem stateDictItems_convertNode : ∀ (pre : List String) (m : Module),
    leafLinearChildren m.children →
      (convertNode cfg modulesToNotConvert pre m).stateDictItems = m.stateDictItems
  | pre, .mk cls cs, h => by
    rw [convertNode_mk, Module.stateDictItems, Module.stateDictItems,
      childItems_convertChildren pre cs h]

theorem childItems_convertChildren : ∀ (pre : List String) (cs : List (String × Module)),
    leafLinearChildren cs →
      Module.childItems (convertChildren cfg modulesToNotConvert pre cs) = Module.childItems cs
  | _, [], _ => by rw [convertChildren_nil]
  | pre, (n, .mk cls cs) :: rest, h => by
    rw [leafLinearChildren_cons] at h
    simp only [Bool.and_eq_true] at h
    obtain ⟨⟨hleaf, hcs⟩, hrest⟩ := h
    rw [convertChildren_cons, convertChild_eq, Module.childItems, Module.childItems,
      childItems_convertChildren pre rest hrest, Module.cls_mk]
    split
    · -- a converted child is linear, hence a leaf
      rename_i hconv
      obtain rfl : cs = [] := by
        simpa [isLinear_of_converts modulesToNotConvert _ _ hconv] using hleaf
      rw [Module.stateDictItems, Module.stateDictItems, params_bnbFor]
    · rw [stateDictItems_convertNode (pre ++ [n]) (.mk cls cs) hcs]
end

variable (sd : StateDict)

mutual
theorem loadFrom_convertNode : ∀ (pre : List String) (p : String) (m : Module),
    (convertNode cfg modulesToNotConvert pre m).loadFrom sd p =
      convertNode cfg modulesToNotConvert pre (m.loadFrom sd p)
  | pre, p, .mk cls cs => by
    rw [convertNode_mk, Module.loadFrom, Module.loadFrom, convertNode_mk,
      loadChildren_convertChildren pre p cs]

theorem loadChildren_convertChildren : ∀ (pre : List String) (p : String)
    (cs : List (String × Module)),
    Module.loadChildren sd p (convertChildren cfg modulesToNotConvert pre cs) =
      convertChildren cfg modulesToNotConvert pre (Module.loadChildren sd p cs)
  | _, _, [] => by rw [convertChildren_nil, Module.loadChildren, convertChildren_nil]
  | pre, p, (n, .mk cls cs) :: rest => by
    rw [convertChildren_cons, convertChild_eq, Module.loadChildren, Module.loadChildren,
      convertChildren_cons, convertChild_eq, loadChildren_convertChildren pre p rest,
      Module.loadFrom, Module.cls_mk, Module.cls_mk,
      converts_congr _ _ _ (isLinear_loadParams sd _ cls)]
    by_cases hconv : converts modulesToNotConvert (pre ++ [n]) n cls
    · rw [if_pos hconv, if_pos hconv, Module.loadFrom, Module.loadChildren,
        bnbFor_loadParams]
    · rw [if_neg hconv, if_neg hconv, loadFrom_convertNode (pre ++ [n]) _ (.mk cls cs),
        Module.loadFrom]
end

/-- Strict `load_state_dict` on the converted model: the same check, on the same state dict
names and shapes, and the converted model of the loaded one. -/
lemma loadStateDict_convertNode (pre : List String) (m : Module)
    (h : leafLinearChildren m.children) :
    (convertNode cfg modulesToNotConvert pre m).loadStateDict sd =
      (m.loadStateDict sd).map (convertNode cfg modulesToNotConvert pre) := by
  unfold Module.loadStateDict
  dsimp only
  rw [stateDictItems_convertNode pre m h, apply_ite (Except.map _), loadFrom_convertNode]
  rfl

mutual
theorem convertNode_convertNode : ∀ (pre : List String) (m : Module),
    convertNode cfg modulesToNotConvert pre (convertNode cfg modulesToNotConvert pre m) =
      convertNode cfg modulesToNotConvert pre m
  | pre, .mk cls cs => by
    rw [convertNode_mk, convertNode_mk, convertChildren_convertChildren pre cs]

theorem convertChildren_convertChildren : ∀ (pre : List String) (cs : List (String × Module)),
    convertChildren cfg modulesToNotConvert pre (convertChildren cfg modulesToNotConvert pre cs) =
      convertChildren cfg modulesToNotConvert pre cs
  | _, [] => by rw [convertChildren_nil, convertChildren_nil]
  | pre, (n, m) :: rest => by
    rw [convertChildren_cons, convertChildren_cons, convertChildren_convertChildren pre rest,
      convertChild_eq pre n m]
    by_cases hconv : converts modulesToNotConvert (pre ++ [n]) n m.cls
    · -- the replacement is an `nn.Linear` at the same path: replaced again, by itself
      rw [if_pos hconv, convertChild_eq, Module.cls_mk,
        converts_congr _ _ _ (isLinear_bnbFor cfg m.cls), if_pos hconv, bnbFor_bnbFor]
    · rw [if_neg hconv, convertChild_eq, cls_convertNode, if_neg hconv,
        convertNode_convertNode (pre ++ [n]) m]
end

end Convert

/-! ## The pass as the code runs it -/

/-- `replace_with_bnb_layers` on any arguments computes the abstract pass. -/
lemma replaceWithBnbLayers_convert (model : Module) (cfg : BnbQuantizationConfig)
    (modulesToNotConvert currentKeyName : Option (List String)) :
    replaceWithBnbLayers model cfg modulesToNotConvert currentKeyName =
      .ok (convertNode cfg (modulesToNotConvert.getD []) (currentKeyName.getD []) model) := by
  simp [replaceWithBnbLayers, replaceNode_eq, bind, Except.bind, pure, Except.pure]

section Pass

variable (model : Module) (cfg : BnbQuantizationConfig)
  (modulesToNotConvert currentKeyName : Option (List String))

/-- **The state dict survives the pass.**  When every `nn.Linear` below the model is a leaf,
the converted model's `state_dict()` lists the same names, in the same order, with the same
tensors. -/
theorem replaceWithBnbLayers_stateDict (hleaf : leafLinearChildren model.children) :
    (replaceWithBnbLayers model cfg modulesToNotConvert currentKeyName).map
      Module.stateDictItems = .ok model.stateDictItems := by
  rw [replaceWithBnbLayers_convert, Except.map, stateDictItems_convertNode _ model hleaf]

/-- **Quantizing and then loading is loading and then quantizing.**  For a 4-bit configuration
(the one `quantization` uses), when every `nn.Linear` below the model is a leaf, strict
`load_state_dict(sd)` on the converted model raises exactly when it raises on the model, and
otherwise returns the converted model of the loaded one.  An 8-bit configuration is left out:
`bitsandbytes` registers a load pre-hook on `Linear8bitLt` that rewrites the state dict first. -/
theorem replaceWithBnbLayers_loadStateDict (sd : StateDict) (h4 : cfg.loadIn4bit = true)
    (hleaf : leafLinearChildren model.children) :
    (replaceWithBnbLayers model cfg modulesToNotConvert currentKeyName).bind
        (·.loadStateDict sd) =
      (model.loadStateDict sd).bind
        (replaceWithBnbLayers · cfg modulesToNotConvert currentKeyName) := by
  simp only [replaceWithBnbLayers_convert, Except.bind]
  rw [loadStateDict_convertNode sd _ model hleaf]
  cases model.loadStateDict sd <;> rfl

/-- **The pass is idempotent.**  On any model, a second `replace_with_bnb_layers` with the same
arguments returns what the first returned. -/
theorem replaceWithBnbLayers_idempotent :
    (replaceWithBnbLayers model cfg modulesToNotConvert currentKeyName).bind
        (replaceWithBnbLayers · cfg modulesToNotConvert currentKeyName) =
      replaceWithBnbLayers model cfg modulesToNotConvert currentKeyName := by
  simp only [replaceWithBnbLayers_convert, Except.bind, convertNode_convertNode]

end Pass

/-- A feed-forward block: two linear layers of two inputs and two outputs, with a bias. -/
def ffnBlock : Module :=
  let layer : LinearLayer := ⟨2, 2, ⟨.float32, [2, 2], [1, 0, 0, 1]⟩, some ⟨.float32, [2], [0, 0]⟩,
    true⟩
  .mk (.other "FeedforwardBlock" []) [("w1", .mk (.linear layer) []), ("w2", .mk (.linear layer) [])]

theorem replaceWithBnbLayers_stateDict_ffnBlock :
    leafLinearChildren ffnBlock.children ∧
      (replaceWithBnbLayers ffnBlock baseQuantConfig none none).map Module.stateDictItems =
        .ok ffnBlock.stateDictItems :=
  ⟨by decide, replaceWithBnbLayers_stateDict ffnBlock baseQuantConfig none none (by decide)⟩

theorem replaceWithBnbLayers_loadStateDict_ffnBlock :
    baseQuantConfig.loadIn4bit = true ∧ leafLinearChildren ffnBlock.children ∧
      (replaceWithBnbLayers ffnBlock baseQuantConfig none none).bind (·.loadStateDict PyDict.empty) =
        (ffnBlock.loadStateDict PyDict.empty).bind
          (replaceWithBnbLayers · baseQuantConfig none none) :=
  ⟨rfl, by decide, replaceWithBnbLayers_loadStateDict ffnBlock baseQuantConfig none none
    PyDict.empty rfl (by decide)⟩

end MoeServer
