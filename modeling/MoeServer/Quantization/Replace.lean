import MoeServer.Torch.Module

/-!
# `bnb_quantization.py`: replacing linear layers

`quantization(model)` sets two flags on the model, runs `replace_with_bnb_layers` with the
fixed 4-bit configuration `BASE_QUANT_CONFIG`, and walks the state dict casting floating-point
parameters — except that `param.to(dtype)` returns a new tensor, which is dropped, so the walk
changes nothing.

`_replace_with_bnb_layers(model, config, modules_to_not_convert, current_key_name)` walks
`model.named_children()`.  For each child it pushes the child's name on the shared list
`current_key_name`; if the child is an `nn.Linear` whose name is not excluded and whose dotted
key passes the exclusion test, it builds a `bitsandbytes` layer, copies the weight and bias
into it, freezes it and `setattr`s it in the child's place; then, if the child had children, it
recurses into the child — the object it held before any replacement — with the same list; last
it pops the name.  The function returns the model and whether anything was replaced, and
`has_been_replaced` is or-ed over every child and every recursive call.

The model keeps all of that: the shared list is threaded through the recursion and returned
(`replaceChildren` returns it with the new children and the flag), the recursion runs on the
child as it was before the `setattr`, and `list.pop` on an empty list raises `IndexError`.  It
also records what the code does not return: the key list and the child of each call of the
loop's first `if`, so that what the exclusion test reads can be stated from the walk itself.
-/

namespace MoeServer

/-- `BnbQuantizationConfig`, with the fields `_replace_with_bnb_layers` reads and accelerate's
defaults for them.  Its `__post_init__` raises unless exactly one of the two widths is chosen,
so a configuration that exists has one. -/
structure BnbQuantizationConfig where
  loadIn8bit : Bool
  /-- `llm_int8_threshold`, `6.0` by default; only ever copied into a layer. -/
  llmInt8Threshold : Nat := 6
  loadIn4bit : Bool
  bnb4bitQuantType : String := "fp4"
  bnb4bitUseDoubleQuant : Bool := false
  bnb4bitComputeDtype : DType := .float16
  oneWidth : loadIn8bit ≠ loadIn4bit

/-- `BASE_QUANT_CONFIG`. -/
def baseQuantConfig : BnbQuantizationConfig :=
  { loadIn8bit := false, loadIn4bit := true, bnb4bitComputeDtype := .float16,
    bnb4bitUseDoubleQuant := true, bnb4bitQuantType := "nf4", oneWidth := Bool.false_ne_true }

/-- A freshly constructed layer's weight and bias: `in_features` by `out_features`, not yet
holding any values of the layer it will replace. -/
def freshLayer (inFeatures outFeatures : Nat) (bias : Bool) : LinearLayer :=
  { inFeatures, outFeatures
    weight := ⟨.float32, [outFeatures, inFeatures], []⟩
    bias := if bias then some ⟨.float32, [outFeatures], []⟩ else none
    requiresGrad := true }

/-- A fresh layer after `weight.data = module.weight.data`, the same for the bias, and
`requires_grad_(False)`. -/
def loadedLayer (module : LinearLayer) : LinearLayer :=
  { freshLayer module.inFeatures module.outFeatures module.bias.isSome with
    weight := module.weight, bias := module.bias, requiresGrad := false }

/-- The `bitsandbytes` layer built for a linear `module`: `Linear8bitLt` when the configuration
asks for 8 bits, `Linear4bit` for 4, and `ValueError` for neither.  Its weight and bias data are
then set to the module's and it is frozen (`loadedLayer`). -/
def bnbModule (cfg : BnbQuantizationConfig) (module : LinearLayer) : Except PyError ModuleClass :=
  if cfg.loadIn8bit then .ok (.linear8bitLt (loadedLayer module) false cfg.llmInt8Threshold)
  else if cfg.loadIn4bit then
    .ok (.linear4bit (loadedLayer module) cfg.bnb4bitComputeDtype cfg.bnb4bitUseDoubleQuant
      cfg.bnb4bitQuantType)
  else .error (.valueError "load_in_8bit and load_in_4bit can't be both False")

/-- The exclusion test on a linear child's dotted key `current_key_name_str`: some `key` occurs
in it followed by a dot, or equals it. -/
def excludedKey (modulesToNotConvert : List String) (currentKeyNameStr : String) : Bool :=
  modulesToNotConvert.any fun key =>
    (pyIn key currentKeyNameStr && pyIn (key ++ ".") currentKeyNameStr) ||
      key == currentKeyNameStr

/-- Whether the loop converts a child named `name` whose class is `cls`, with the key list
`keys` after the child's name was pushed. -/
def converts (modulesToNotConvert : List String) (keys : List String) (name : String)
    (cls : ModuleClass) : Bool :=
  cls.isLinear && !(modulesToNotConvert.contains name) &&
    !excludedKey modulesToNotConvert (".".intercalate keys)

/-- `current_key_name.pop(-1)`. -/
def popLast (keys : List String) : Except PyError (List String) :=
  if keys = [] then .error (.indexError "pop from empty list") else .ok keys.dropLast

/-- The loop body's first `if`: the child replaced by its `bitsandbytes` layer when it is an
`nn.Linear` the test converts, and whether it was. -/
def replaceLinear (cfg : BnbQuantizationConfig) (modulesToNotConvert : List String)
    (keys : List String) (name : String) (module : Module) : Except PyError (Module × Bool) :=
  match module.cls.layer? with
  | some layer =>
    if converts modulesToNotConvert keys name module.cls then do
      let bnb ← bnbModule cfg layer
      pure (Module.mk bnb [], true)
    else pure (module, false)
  | none => pure (module, false)

mutual
/-- `_replace_with_bnb_layers(model, config, modules_to_not_convert, current_key_name)`: the
model with its children replaced, `has_been_replaced`, and the key list as the call leaves it.
The fourth component is kept by the model alone: each call the walk makes of the loop's first
`if` (`replaceLinear`), in order, with the key list and the child it passes, which is where the
exclusion test reads the list. -/
def replaceNode (cfg : BnbQuantizationConfig) (modulesToNotConvert : List String)
    (currentKeyName : Option (List String)) : Module →
      Except PyError (Module × Bool × Option (List String) × List (List String × Module))
  | .mk cls cs => do
    let (cs, hasBeenReplaced, currentKeyName, calls) ←
      replaceChildren cfg modulesToNotConvert currentKeyName cs
    pure (.mk cls cs, hasBeenReplaced, currentKeyName, calls)

/-- The loop over `model.named_children()`, from the given child on. -/
def replaceChildren (cfg : BnbQuantizationConfig) (modulesToNotConvert : List String) :
    Option (List String) → List (String × Module) →
      Except PyError
        (List (String × Module) × Bool × Option (List String) × List (List String × Module))
  | currentKeyName, [] => pure ([], false, currentKeyName, [])
  | currentKeyName, (name, module) :: rest => do
    let keys := currentKeyName.getD [] ++ [name]
    let (child, replaced) ← replaceLinear cfg modulesToNotConvert keys name module
    let (child, replacedBelow, keysAfter, callsBelow) ←
      if module.children.length > 0 then do
        let (below, r, keysAfter, callsBelow) ←
          replaceNode cfg modulesToNotConvert (some keys) module
        pure (if replaced then child else below, r, keysAfter, callsBelow)
      else pure (child, false, some keys, [])
    let keysAfter ← popLast (keysAfter.getD [])
    let (rest, replacedRest, keysAfter, callsRest) ←
      replaceChildren cfg modulesToNotConvert (some keysAfter) rest
    pure ((name, child) :: rest, replaced || replacedBelow || replacedRest, keysAfter,
      (keys, module) :: callsBelow ++ callsRest)
end

/-- `replace_with_bnb_layers(model, config, modules_to_not_convert, current_key_name)`. -/
def replaceWithBnbLayers (model : Module) (cfg : BnbQuantizationConfig)
    (modulesToNotConvert : Option (List String) := none)
    (currentKeyName : Option (List String) := none) : Except PyError Module := do
  let (model, _) ← replaceNode cfg (modulesToNotConvert.getD []) currentKeyName model
  pure model

/-- What `quantization(model)` returns: the model, with the two attributes it sets on it. -/
structure QuantizedModel where
  model : Module
  isLoadedIn4bit : Bool
  isLoadedIn8bit : Bool

/-- `quantization(model)`.  The closing loop over `model.state_dict()` casts each floating-point
parameter with `param.to(dtype)` and discards the result, so it leaves the model as it is. -/
def quantization (model : Module) : Except PyError QuantizedModel := do
  let model ← replaceWithBnbLayers model baseQuantConfig
  pure ⟨model, baseQuantConfig.loadIn4bit, baseQuantConfig.loadIn8bit⟩

end MoeServer
