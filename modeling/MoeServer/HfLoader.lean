import MoeServer.Python.Decimal
import MoeServer.Torch.Module

/-!
# `hf_loader.py`: expert weights from a Hugging Face repository

`_load_weights_from_hf(expert, expert_id, layer_id, repo_id)` downloads the repository's index
`model.safetensors.index.json`, reads its `weight_map` (tensor name to shard file), and for each
of the three source keys `mixtral_rules(layer_id, expert_id)` names downloads the shard holding
it, takes the tensor, and stores it under the expert's own key.  It ends with
`expert.load_state_dict(module_state_dict)`.

The network is `Hub`: what the index download and each shard download return, or raise.

* `mixtralKey_injective` — the source key renders the layer, the expert and the matrix name
  apart: an integer's decimal form has no `.`, so the dots in the key fall where the pattern
  puts them.  **`mixtralRules_disjoint`**: experts at different (layer, expert) pairs read
  disjoint sets of source keys.
* **`loadWeightsFromHf_eq`** — when the repository stores the three tensors, the loader calls
  `load_state_dict` with exactly `{"block.wK.weight": shard(weight_map[k_K])[k_K]}`.
-/

namespace MoeServer

/-- The repository as the loader reaches it: `snapshot_download` of the index followed by
`json.load(...)["weight_map"]`, and `hf_hub_download` of a shard followed by `load_file`.
Each can raise. -/
structure Hub where
  weightsMap : String → Except PyError (PyDict String)
  shard : String → String → Except PyError StateDict

/-- One source key of `mixtral_rules`:
`f"model.layers.{layer_id}.block_sparse_moe.experts.{expert_id}.{w}.weight"`. -/
def mixtralKey (layerId expertId : Int) (w : String) : String :=
  "model.layers." ++ toString layerId ++ ".block_sparse_moe.experts." ++ toString expertId ++
    "." ++ w ++ ".weight"

/-- `mixtral_rules(layer_id, expert_id)`: each source key to the expert's own key. -/
def mixtralRules (layerId expertId : Int) : PyDict String :=
  PyDict.ofPairs [(mixtralKey layerId expertId "w1", "block.w1.weight"),
    (mixtralKey layerId expertId "w2", "block.w2.weight"),
    (mixtralKey layerId expertId "w3", "block.w3.weight")]

/-- `get_state_dict_by_key(key, weigths_map, repo_id)`: the shard file holding `key`. -/
def getStateDictByKey (hub : Hub) (key : String) (weigthsMap : PyDict String) (repoId : String) :
    Except PyError StateDict := do
  let filename ← weigthsMap.getItem key
  hub.shard repoId filename

/-- `get_expert_state_dict(state_dict, key)`. -/
def getExpertStateDict (stateDict : StateDict) (key : String) : Except PyError Tensor :=
  stateDict.getItem key

/-- The loop of `_load_weights_from_hf` over `rule.items()`, filling `module_state_dict`. -/
def collectWeights (hub : Hub) (weightsMap : PyDict String) (repoId : String) :
    List (String × String) → StateDict → Except PyError StateDict
  | [], moduleStateDict => .ok moduleStateDict
  | (key, expertKey) :: rest, moduleStateDict => do
    let stateDict ← getStateDictByKey hub key weightsMap repoId
    let value ← getExpertStateDict stateDict key
    collectWeights hub weightsMap repoId rest (moduleStateDict.setItem expertKey value)

/-- `_load_weights_from_hf(expert, expert_id, layer_id, repo_id)`: the expert after
`load_state_dict`. -/
def loadWeightsFromHf (hub : Hub) (expert : Module) (expertId layerId : Int) (repoId : String) :
    Except PyError Module := do
  let weightsMap ← hub.weightsMap repoId
  let rule := mixtralRules layerId expertId
  let moduleStateDict ← collectWeights hub weightsMap repoId rule.items PyDict.empty
  expert.loadStateDict moduleStateDict

/-! ## Source keys -/

/-- **The source key names its layer, expert and matrix apart.** -/
theorem mixtralKey_injective {l l' e e' : Int} {w w' : String}
    (h : mixtralKey l e w = mixtralKey l' e' w') : l = l' ∧ e = e' ∧ w = w' := by
  have hd := congrArg String.data h
  simp -proj only [mixtralKey, string_data_append, List.append_assoc] at hd
  have hb : ".block_sparse_moe.experts.".data = '.' :: "block_sparse_moe.experts.".data := rfl
  have hdot : ".".data = ['.'] := rfl
  rw [hb, hdot, List.singleton_append] at hd
  obtain ⟨hl, hd⟩ := append_cons_inj (dot_not_mem_int_toString l) (dot_not_mem_int_toString l')
    (List.append_cancel_left hd)
  obtain ⟨he, hd⟩ := append_cons_inj (dot_not_mem_int_toString e) (dot_not_mem_int_toString e')
    (List.append_cancel_left hd)
  exact ⟨int_toString_injective (String.ext hl), int_toString_injective (String.ext he),
    String.ext (List.append_cancel_right hd)⟩

/-- The rule's items, in the order of the dictionary display. -/
lemma mixtralRules_items (layerId expertId : Int) : (mixtralRules layerId expertId).items =
    [(mixtralKey layerId expertId "w1", "block.w1.weight"),
      (mixtralKey layerId expertId "w2", "block.w2.weight"),
      (mixtralKey layerId expertId "w3", "block.w3.weight")] := by
  have ne : ∀ {w w'}, w ≠ w' → mixtralKey layerId expertId w ≠ mixtralKey layerId expertId w' :=
    fun hw h => hw (mixtralKey_injective h).2.2
  refine PyDict.items_ofPairs ?_
  simp only [List.map_cons, List.map_nil, List.nodup_cons, List.mem_cons, List.mem_singleton,
    List.not_mem_nil, or_false, not_or, List.nodup_nil, and_true, not_false_eq_true]
  exact ⟨⟨ne (show "w1" ≠ "w2" by decide), ne (show "w1" ≠ "w3" by decide)⟩,
    ne (show "w2" ≠ "w3" by decide)⟩

/-- **Experts at different (layer, expert) pairs read disjoint sets of source keys.** -/
theorem mixtralRules_disjoint {l l' e e' : Int} (h : (l, e) ≠ (l', e')) :
    (mixtralRules l e).keys.Disjoint (mixtralRules l' e').keys := by
  intro k hk hk'
  simp only [PyDict.keys, mixtralRules_items, List.map_cons, List.map_nil, List.mem_cons,
    List.not_mem_nil, or_false] at hk hk'
  rcases hk with rfl | rfl | rfl <;> rcases hk' with h' | h' | h' <;>
    exact h (by obtain ⟨rfl, rfl, -⟩ := mixtralKey_injective h'; rfl)

/-! ## The loader -/

/-- The repository stores `t` under `key`: the index names a shard for `key`, the shard
downloads, and holds `t` under `key`. -/
def Hub.Stores (hub : Hub) (repoId : String) (weightsMap : PyDict String) (key : String)
    (t : Tensor) : Prop :=
  ∃ filename sd, weightsMap.get? key = some filename ∧ hub.shard repoId filename = .ok sd ∧
    sd.get? key = some t

/-- An expert's three weight matrices, under the expert's own keys. -/
def expertWeights (t1 t2 t3 : Tensor) : StateDict :=
  ⟨[("block.w1.weight", t1), ("block.w2.weight", t2), ("block.w3.weight", t3)], by
    simp only [List.map_cons, List.map_nil]; decide⟩

lemma collectWeights_cons {hub : Hub} {weightsMap : PyDict String} {repoId key expertKey : String}
    {t : Tensor} (h : hub.Stores repoId weightsMap key t) (rest : List (String × String))
    (sd : StateDict) :
    collectWeights hub weightsMap repoId ((key, expertKey) :: rest) sd =
      collectWeights hub weightsMap repoId rest (sd.setItem expertKey t) := by
  obtain ⟨filename, shard, hf, hs, ht⟩ := h
  simp [collectWeights, getStateDictByKey, getExpertStateDict, PyDict.getItem, hf, hs, ht,
    bind, Except.bind]

/-- **What the loader hands to `load_state_dict`**: when the repository stores the three
matrices of layer `layerId`, expert `expertId`, the expert's `block.wK.weight` is
`shard(weight_map[k_K])[k_K]`, and nothing else is in the dictionary. -/
theorem loadWeightsFromHf_eq {hub : Hub} {repoId : String} {weightsMap : PyDict String}
    {expertId layerId : Int} {t1 t2 t3 : Tensor} (hmap : hub.weightsMap repoId = .ok weightsMap)
    (h1 : hub.Stores repoId weightsMap (mixtralKey layerId expertId "w1") t1)
    (h2 : hub.Stores repoId weightsMap (mixtralKey layerId expertId "w2") t2)
    (h3 : hub.Stores repoId weightsMap (mixtralKey layerId expertId "w3") t3) (expert : Module) :
    loadWeightsFromHf hub expert expertId layerId repoId =
      expert.loadStateDict (expertWeights t1 t2 t3) := by
  simp only [loadWeightsFromHf, hmap, mixtralRules_items, collectWeights_cons h1,
    collectWeights_cons h2, collectWeights_cons h3, bind, Except.bind]
  rfl

/-- A turn of the loop that the rest of the loop follows read its tensor from the repository. -/
lemma collectWeights_cons_ok {hub : Hub} {weightsMap : PyDict String}
    {repoId key expertKey : String} {rest : List (String × String)} {sd r : StateDict}
    (h : collectWeights hub weightsMap repoId ((key, expertKey) :: rest) sd = .ok r) :
    ∃ t, hub.Stores repoId weightsMap key t ∧
      collectWeights hub weightsMap repoId rest (sd.setItem expertKey t) = .ok r := by
  obtain ⟨shard, hshard, h⟩ := bind_eq_ok.mp h
  obtain ⟨t, ht, h⟩ := bind_eq_ok.mp h
  obtain ⟨filename, hf, hs⟩ := bind_eq_ok.mp hshard
  exact ⟨t, ⟨filename, shard, PyDict.getItem_eq_ok.mp hf, hs, PyDict.getItem_eq_ok.mp ht⟩, h⟩

/-- **What a load that returned read**: the index, and the three tensors of the expert's own
(layer, expert) pair, loaded strictly into the expert. -/
lemma loadWeightsFromHf_ok {hub : Hub} {expert m : Module} {expertId layerId : Int}
    {repoId : String} (h : loadWeightsFromHf hub expert expertId layerId repoId = .ok m) :
    ∃ weightsMap t1 t2 t3, hub.weightsMap repoId = .ok weightsMap ∧
      hub.Stores repoId weightsMap (mixtralKey layerId expertId "w1") t1 ∧
      hub.Stores repoId weightsMap (mixtralKey layerId expertId "w2") t2 ∧
      hub.Stores repoId weightsMap (mixtralKey layerId expertId "w3") t3 ∧
      expert.loadStateDict (expertWeights t1 t2 t3) = .ok m := by
  obtain ⟨weightsMap, hmap, h⟩ := bind_eq_ok.mp h
  obtain ⟨sd, hsd, h⟩ := bind_eq_ok.mp h
  rw [mixtralRules_items] at hsd
  obtain ⟨t1, h1, hsd⟩ := collectWeights_cons_ok hsd
  obtain ⟨t2, h2, hsd⟩ := collectWeights_cons_ok hsd
  obtain ⟨t3, h3, hsd⟩ := collectWeights_cons_ok hsd
  cases hsd
  exact ⟨weightsMap, t1, t2, t3, hmap, h1, h2, h3, h⟩

end MoeServer
