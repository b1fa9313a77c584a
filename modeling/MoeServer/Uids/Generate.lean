import MoeServer.Python.Format

/-!
# Expert uids: `_generate_uids`

`_generate_uids(num_experts, num_layers, layers_start, expert_pattern, dht)` walks the layer
indices `range(layers_start, num_layers)` and, inside, the expert indices `range(num_experts)`,
rendering `expert_pattern.format(expert_id=…, layer_id=…)` for each pair and appending an
`ExpertUID`.  If a DHT is given it then asks `get_experts` about every rendered uid and raises
`NameError` as soon as one answer is not `None`.

The docstring promises more than the loops do: it speaks of sampling and of removing
duplicates, but nothing is sampled and nothing is removed.

* `sampleLayers_eq` — the two loops build exactly the layer-major enumeration
  `layerMajorPairs` when every format call succeeds.
* `generateUid_of_onlyFields` — for a pattern whose only fields are `{layer_id}` and
  `{expert_id}`, every format call succeeds and renders the pattern's pieces; and only for such
  a pattern (`onlyFields_of_generateUid`), so over a non-empty grid the loops return only for it
  (`onlyFields_of_generateUids`).
* **`generateUids_enumerates`** — for such a pattern and any DHT: `NameError` exactly when a
  rendered uid is registered, otherwise the full enumeration, with
  `max 0 num_experts * max 0 (num_layers - layers_start)` entries and distinct index pairs.
* `generateUids_repeats_uid` — the uids themselves need not be distinct: `"x{layer_id}"` gives
  every expert of a layer the same uid.
* `generateUid_injective` — they are distinct for a `distinctPattern`, one that names both
  indices and ends each field or follows it by a character no `str` of an integer holds; then
  `nodup_uid_of_generateUids`.
-/

namespace MoeServer

/-- `ExpertUID(uid, expert_id, layer_id)`. -/
structure ExpertUID where
  uid : String
  expertId : Int
  layerId : Int
  deriving DecidableEq, Repr

/-- A remote expert as `get_experts` returns it, printed as `RemoteExpert(uid=…,
server_peer_info=…)`. -/
structure RemoteExpert where
  uid : String
  serverPeerInfo : String
  deriving DecidableEq, Repr

/-- The DHT as `get_experts` consults it: the expert registered under each uid, if any. -/
def Dht := String → Option RemoteExpert

/-- `get_experts(dht, uids)`: one answer per uid, in order. -/
def getExperts (dht : Dht) (uids : List String) : List (Option RemoteExpert) := uids.map dht

/-- `str(found)` for the list `get_experts` returned. -/
def reprFound (found : List (Option RemoteExpert)) : String :=
  "[" ++ ", ".intercalate (found.map fun
    | none => "None"
    | some r => "RemoteExpert(uid=" ++ r.uid ++ ", server_peer_info=" ++ r.serverPeerInfo ++ ")")
    ++ "]"

/-- `_generate_uid(layer_id, expert_id)`: `expert_pattern.format(expert_id=expert_id,
layer_id=layer_id)`. -/
def generateUid (expertPattern : String) (layerId expertId : Int) : Except PyError String :=
  strFormat expertPattern [("expert_id", expertId), ("layer_id", layerId)]

/-- The inner loop, `for expert_id in range(num_experts)`, appending to `new_uids`. -/
def sampleExperts (expertPattern : String) (layerId : Int) :
    List ExpertUID → List Int → Except PyError (List ExpertUID)
  | newUids, [] => .ok newUids
  | newUids, expertId :: rest => do
    let newUid ← generateUid expertPattern layerId expertId
    sampleExperts expertPattern layerId (newUids ++ [⟨newUid, expertId, layerId⟩]) rest

/-- The outer loop, `for layer_id in range(layers_start, num_layers)`. -/
def sampleLayers (expertPattern : String) (numExperts : Int) :
    List ExpertUID → List Int → Except PyError (List ExpertUID)
  | newUids, [] => .ok newUids
  | newUids, layerId :: rest => do
    let newUids ← sampleExperts expertPattern layerId newUids (pyRange 0 numExperts)
    sampleLayers expertPattern numExperts newUids rest

/-- `for f in found: if f is not None: raise NameError(f"{found} already exists")`. -/
def checkFound (found : List (Option RemoteExpert)) : Except PyError Unit :=
  if found.any Option.isSome then .error (.nameError (reprFound found ++ " already exists"))
  else .ok ()

/-- `_generate_uids(num_experts, num_layers, layers_start, expert_pattern, dht)`; the unused
`attempts_per_expert` is left out. -/
def generateUids (numExperts numLayers layersStart : Int) (expertPattern : String)
    (dht : Option Dht) : Except PyError (List ExpertUID) := do
  let newUids ← sampleLayers expertPattern numExperts [] (pyRange layersStart numLayers)
  match dht with
  | none => pure newUids
  | some dht =>
    checkFound (getExperts dht (newUids.map (·.uid)))
    pure newUids

/-- The DHT check raises exactly when one of the uids is registered. -/
lemma checkFound_getExperts (dht : Dht) (uids : List ExpertUID) :
    checkFound (getExperts dht (uids.map (·.uid))) =
      if uids.any (fun u => (dht u.uid).isSome) then
        .error (.nameError (reprFound (uids.map (dht ·.uid)) ++ " already exists"))
      else .ok () := by
  have h : (uids.map (fun u => dht u.uid)).any Option.isSome =
      uids.any (fun u => (dht u.uid).isSome) := by
    induction uids with
    | nil => rfl
    | cons u us ih => simp only [List.map_cons, List.any_cons, ih]
  simp only [checkFound, getExperts, List.map_map, Function.comp_def, h]

/-! ## The loops enumerate the index space -/

/-- The index pairs `(layer_id, expert_id)` in the order the spec gives: for each layer in
`[layers_start, num_layers)`, each expert in `[0, num_experts)`. -/
def layerMajorPairs (numExperts numLayers layersStart : Int) : List (Int × Int) :=
  (pyRange layersStart numLayers).flatMap fun l => (pyRange 0 numExperts).map fun e => (l, e)

section Loops

variable {expertPattern : String} {render : Int → Int → String}

lemma sampleExperts_eq (hr : ∀ l e, generateUid expertPattern l e = .ok (render l e))
    (layerId : Int) (newUids : List ExpertUID) (es : List Int) :
    sampleExperts expertPattern layerId newUids es =
      .ok (newUids ++ es.map fun e => ⟨render layerId e, e, layerId⟩) := by
  induction es generalizing newUids with
  | nil => simp [sampleExperts]
  | cons e es ih => simp [sampleExperts, hr, ih, bind, Except.bind]

lemma sampleLayers_eq (hr : ∀ l e, generateUid expertPattern l e = .ok (render l e))
    (numExperts : Int) (newUids : List ExpertUID) (ls : List Int) :
    sampleLayers expertPattern numExperts newUids ls =
      .ok (newUids ++ ls.flatMap fun l =>
        (pyRange 0 numExperts).map fun e => ⟨render l e, e, l⟩) := by
  induction ls generalizing newUids with
  | nil => simp [sampleLayers]
  | cons l ls ih => simp [sampleLayers, sampleExperts_eq hr, ih, bind, Except.bind]

end Loops

/-- With a pattern that scans into `ps` and names no field but `{layer_id}` and `{expert_id}`,
`_generate_uid` renders the pieces with the two indices. -/
lemma generateUid_eq_render {pattern : String} {ps : List Piece}
    (hps : parseFormat none pattern.data = .ok ps)
    (hf : (fieldNames ps).all (· ∈ ["layer_id", "expert_id"]) = true) (l e : Int) :
    generateUid pattern l e =
      .ok (renderPieces (fun n => ([("expert_id", e), ("layer_id", l)].lookup n).getD 0) ps) :=
  formatFrom_of_parse _ _ (fun n v h => by simp [h]) none _ ps hps fun n hn => by
    have := List.all_eq_true.mp hf n hn
    simp only [decide_eq_true_eq, List.mem_cons, List.mem_singleton, List.not_mem_nil,
      or_false] at this
    rcases this with rfl | rfl <;> rfl

/-- A pattern whose only replacement fields are `{layer_id}` and `{expert_id}` formats without
error for every pair of indices. -/
lemma generateUid_of_onlyFields {pattern : String}
    (hp : onlyFields ["layer_id", "expert_id"] pattern = true) :
    ∃ render : Int → Int → String, ∀ l e, generateUid pattern l e = .ok (render l e) := by
  unfold onlyFields at hp
  split at hp
  · exact ⟨_, generateUid_eq_render ‹_› hp⟩
  · cases hp

/-- And only such a pattern formats: one `_generate_uid` call that returns, for any pair of
indices, shows the pattern scans with no field but `{layer_id}` and `{expert_id}`. -/
lemma onlyFields_of_generateUid {pattern u : String} {l e : Int}
    (h : generateUid pattern l e = .ok u) : onlyFields ["layer_id", "expert_id"] pattern = true := by
  obtain ⟨ps, hps, hf⟩ := parse_of_formatFrom _ none _ _ h
  simp only [onlyFields, hps, List.all_eq_true, decide_eq_true_eq]
  intro n hn
  obtain ⟨p, hp, hn⟩ := List.lookup_isSome_iff.mp (hf n hn)
  rw [beq_iff_eq.mp hn]
  simp only [List.mem_cons, List.mem_singleton, List.not_mem_nil, or_false] at hp
  rcases hp with rfl | rfl <;> simp

/-- The inner loop returns only if `_generate_uid` returned for each of its experts. -/
lemma generateUid_of_sampleExperts {pattern : String} {l : Int} :
    ∀ {newUids : List ExpertUID} {es : List Int} {r : List ExpertUID},
      sampleExperts pattern l newUids es = .ok r → ∀ e ∈ es, ∃ u, generateUid pattern l e = .ok u
  | _, [], _, _, _, he => absurd he (List.not_mem_nil _)
  | _, e' :: es, _, h, e, he => by
    simp only [sampleExperts, bind, Except.bind] at h
    split at h
    · cases h
    · rename_i u hu
      rcases List.mem_cons.mp he with rfl | he
      · exact ⟨u, hu⟩
      · exact generateUid_of_sampleExperts h e he

/-- The outer loop returns only if `_generate_uid` returned for each pair of the grid. -/
lemma generateUid_of_sampleLayers {pattern : String} {numExperts : Int} :
    ∀ {newUids : List ExpertUID} {ls : List Int} {r : List ExpertUID},
      sampleLayers pattern numExperts newUids ls = .ok r →
        ∀ l ∈ ls, ∀ e ∈ pyRange 0 numExperts, ∃ u, generateUid pattern l e = .ok u
  | _, [], _, _, _, hl => absurd hl (List.not_mem_nil _)
  | _, l' :: ls, _, h, l, hl => by
    simp only [sampleLayers, bind, Except.bind] at h
    split at h
    · cases h
    · rename_i us hus
      rcases List.mem_cons.mp hl with rfl | hl
      · exact generateUid_of_sampleExperts hus
      · exact generateUid_of_sampleLayers h l hl

/-- Over a grid with at least one pair, `_generate_uids` returns only for a pattern whose only
fields are `{layer_id}` and `{expert_id}`. -/
lemma onlyFields_of_generateUids {numExperts numLayers layersStart : Int} {pattern : String}
    {dht : Option Dht} {uids : List ExpertUID} (hne : 0 < numExperts)
    (hl : layersStart < numLayers)
    (h : generateUids numExperts numLayers layersStart pattern dht = .ok uids) :
    onlyFields ["layer_id", "expert_id"] pattern = true := by
  simp only [generateUids, bind, Except.bind] at h
  split at h
  · cases h
  · obtain ⟨u, hu⟩ := generateUid_of_sampleLayers ‹_› layersStart
      (mem_pyRange.mpr ⟨le_rfl, hl⟩) 0 (mem_pyRange.mpr ⟨le_rfl, hne⟩)
    exact onlyFields_of_generateUid hu

lemma length_layerMajorPairs (numExperts numLayers layersStart : Int) :
    ((layerMajorPairs numExperts numLayers layersStart).length : Int) =
      max 0 numExperts * max 0 (numLayers - layersStart) := by
  rw [layerMajorPairs, List.length_flatMap, Function.comp_def]
  simp only [List.length_map, length_pyRange, List.map_const', List.sum_const_nat, sub_zero]
  push_cast
  rw [Int.toNat_eq_max, Int.toNat_eq_max, mul_comm, max_comm numExperts,
    max_comm (numLayers - layersStart)]

lemma nodup_layerMajorPairs (numExperts numLayers layersStart : Int) :
    (layerMajorPairs numExperts numLayers layersStart).Nodup := by
  refine List.nodup_flatMap.mpr ⟨fun l _ => (nodup_pyRange _ _).map fun a b h => by
    simpa using h, (nodup_pyRange _ _).pairwise_of_forall_ne fun a _ b _ hab => ?_⟩
  simp only [Function.onFun, List.disjoint_left, List.mem_map]
  rintro _ ⟨e, _, rfl⟩ ⟨e', _, h⟩
  exact hab (congrArg Prod.fst h).symm

/-- With such a pattern the two loops return one uid per pair of `layerMajorPairs`, in order,
each rendered from its own pair. -/
lemma sampleLayers_of_onlyFields {pattern : String}
    (hp : onlyFields ["layer_id", "expert_id"] pattern = true) (numExperts numLayers layersStart : Int) :
    ∃ render : Int → Int → String, (∀ l e, generateUid pattern l e = .ok (render l e)) ∧
      sampleLayers pattern numExperts [] (pyRange layersStart numLayers) =
        .ok ((layerMajorPairs numExperts numLayers layersStart).map
          fun p => ⟨render p.1 p.2, p.2, p.1⟩) := by
  obtain ⟨render, hr⟩ := generateUid_of_onlyFields hp
  exact ⟨render, hr, by simp [sampleLayers_eq hr, layerMajorPairs, List.map_flatMap, List.map_map,
    Function.comp_def]⟩

/-- The uids a call that returned gives: one per pair of `layerMajorPairs`, in order, each
rendered from its own pair. -/
lemma uids_of_generateUids {numExperts numLayers layersStart : Int} {pattern : String}
    (hp : onlyFields ["layer_id", "expert_id"] pattern = true) {dht : Option Dht}
    {uids : List ExpertUID} (h : generateUids numExperts numLayers layersStart pattern dht = .ok uids) :
    ∃ render : Int → Int → String, (∀ l e, generateUid pattern l e = .ok (render l e)) ∧
      uids = (layerMajorPairs numExperts numLayers layersStart).map
        fun p => ⟨render p.1 p.2, p.2, p.1⟩ := by
  obtain ⟨render, hr, hloop⟩ := sampleLayers_of_onlyFields hp numExperts numLayers layersStart
  refine ⟨render, hr, ?_⟩
  simp only [generateUids, hloop, bind, Except.bind] at h
  cases dht with
  | none => exact (Except.ok.inj h).symm
  | some dht =>
    simp only [checkFound_getExperts] at h
    split at h
    · cases h
    · exact (Except.ok.inj h).symm

/-- A call that returned returns what its two loops built. -/
lemma sampleLayers_of_generateUids {numExperts numLayers layersStart : Int} {pattern : String}
    {dht : Option Dht} {uids : List ExpertUID}
    (h : generateUids numExperts numLayers layersStart pattern dht = .ok uids) :
    sampleLayers pattern numExperts [] (pyRange layersStart numLayers) = .ok uids := by
  unfold generateUids at h
  obtain ⟨us, hus, h⟩ := bind_eq_ok.mp h
  cases dht with
  | none => cases h; exact hus
  | some dht =>
    obtain ⟨_, -, h⟩ := bind_eq_ok.mp h
    cases h; exact hus

/-- The inner loop appends one uid per expert index, carrying the layer and that index, whatever
the pattern renders. -/
lemma pairs_of_sampleExperts {pattern : String} {l : Int} :
    ∀ {newUids : List ExpertUID} {es : List Int} {r : List ExpertUID},
      sampleExperts pattern l newUids es = .ok r →
      r.map (fun u => (u.layerId, u.expertId)) =
        newUids.map (fun u => (u.layerId, u.expertId)) ++ es.map fun e => (l, e)
  | _, [], _, h => by cases h; simp
  | _, e :: es, _, h => by
    obtain ⟨u, -, h⟩ := bind_eq_ok.mp h
    rw [pairs_of_sampleExperts h]
    simp

/-- The outer loop appends the pairs of each layer in turn. -/
lemma pairs_of_sampleLayers {pattern : String} {numExperts : Int} :
    ∀ {newUids : List ExpertUID} {ls : List Int} {r : List ExpertUID},
      sampleLayers pattern numExperts newUids ls = .ok r →
      r.map (fun u => (u.layerId, u.expertId)) = newUids.map (fun u => (u.layerId, u.expertId)) ++
        ls.flatMap fun l => (pyRange 0 numExperts).map fun e => (l, e)
  | _, [], _, h => by cases h; simp
  | _, l :: ls, _, h => by
    obtain ⟨us, hus, h⟩ := bind_eq_ok.mp h
    rw [pairs_of_sampleLayers h, pairs_of_sampleExperts hus]
    simp

/-- **The uids a call that returned gives carry the index pairs of `layerMajorPairs`, in order**,
whatever the pattern: the pairs come from the loops, not from the rendering. -/
lemma pairs_of_generateUids {numExperts numLayers layersStart : Int} {pattern : String}
    {dht : Option Dht} {uids : List ExpertUID}
    (h : generateUids numExperts numLayers layersStart pattern dht = .ok uids) :
    uids.map (fun u => (u.layerId, u.expertId)) = layerMajorPairs numExperts numLayers layersStart := by
  rw [pairs_of_sampleLayers (sampleLayers_of_generateUids h)]
  rfl

/-- **`_generate_uids` enumerates the index space.**  For a pattern whose only replacement
fields are `{layer_id}` and `{expert_id}`, and any DHT: the uids rendered are one per pair of
`layerMajorPairs`, in that order, each the pattern formatted with its own pair; the call raises
`NameError` exactly when one of them is registered, and otherwise returns them all.  There are
`max 0 num_experts * max 0 (num_layers - layers_start)` of them, with distinct index pairs. -/
theorem generateUids_enumerates (numExperts numLayers layersStart : Int) (expertPattern : String)
    (hp : onlyFields ["layer_id", "expert_id"] expertPattern = true) (dht : Dht) :
    ∃ uids : List ExpertUID,
      uids.map (fun u => (u.layerId, u.expertId)) =
        layerMajorPairs numExperts numLayers layersStart ∧
      (∀ u ∈ uids, generateUid expertPattern u.layerId u.expertId = .ok u.uid) ∧
      generateUids numExperts numLayers layersStart expertPattern (some dht) =
        (if uids.any (fun u => (dht u.uid).isSome) then
          .error (.nameError (reprFound (uids.map (dht ·.uid)) ++ " already exists"))
        else .ok uids) ∧
      (uids.length : Int) = max 0 numExperts * max 0 (numLayers - layersStart) ∧
      (uids.map (fun u => (u.layerId, u.expertId))).Nodup := by
  obtain ⟨render, hr, hloop⟩ := sampleLayers_of_onlyFields hp numExperts numLayers layersStart
  let uids := (layerMajorPairs numExperts numLayers layersStart).map
    fun p => (⟨render p.1 p.2, p.2, p.1⟩ : ExpertUID)
  have hpairs : uids.map (fun u => (u.layerId, u.expertId)) =
      layerMajorPairs numExperts numLayers layersStart := by
    simp [uids, List.map_map, Function.comp_def]
  refine ⟨uids, hpairs, ?_, ?_, ?_, hpairs ▸ nodup_layerMajorPairs _ _ _⟩
  · simp only [uids, List.mem_map]
    rintro _ ⟨p, _, rfl⟩
    exact hr _ _
  · simp only [generateUids, hloop, checkFound_getExperts, bind, Except.bind]
    generalize uids.any _ = b
    cases b <;> rfl
  · rw [← length_layerMajorPairs, List.length_map]

/-- The three-by-two case of the spec, with nothing registered yet. -/
theorem generateUids_enumerates_three_by_two :
    onlyFields ["layer_id", "expert_id"] "x.\x7blayer_id\x7d.\x7bexpert_id\x7d" = true ∧
    ∃ uids : List ExpertUID,
      uids.map (fun u => (u.layerId, u.expertId)) = layerMajorPairs 3 2 0 ∧
      (∀ u ∈ uids, generateUid "x.\x7blayer_id\x7d.\x7bexpert_id\x7d" u.layerId u.expertId =
        .ok u.uid) ∧
      generateUids 3 2 0 "x.\x7blayer_id\x7d.\x7bexpert_id\x7d" (some fun _ => none) =
        (if uids.any (fun u => ((fun _ => none : Dht) u.uid).isSome) then
          .error (.nameError (reprFound (uids.map ((fun _ => none : Dht) ·.uid)) ++
            " already exists"))
        else .ok uids) ∧
      (uids.length : Int) = max 0 3 * max 0 (2 - 0) ∧
      (uids.map (fun u => (u.layerId, u.expertId))).Nodup :=
  ⟨by decide, generateUids_enumerates 3 2 0 _ (by decide) _⟩

/-- With a negative expert count the inner range is empty: no uid at all, where the product
`num_experts * (num_layers - layers_start)` is negative. -/
theorem generateUids_negative_experts :
    (generateUids (-1) 2 0 "x\x7blayer_id\x7d" none).map List.length = .ok 0 ∧
      (-1 : Int) * max 0 (2 - 0) = -2 := by
  decide

/-! ## Patterns that tell the indices apart -/

/-- A pattern whose uids tell their index pairs apart: its only fields are `{layer_id}` and
`{expert_id}`, it has both, and each field is `delimited` — it ends the pattern or is followed
by a character no integer's `str` holds. -/
def distinctPattern (pattern : String) : Bool :=
  onlyFields ["layer_id", "expert_id"] pattern &&
    match parseFormat none pattern.data with
    | .ok ps => "layer_id" ∈ fieldNames ps && "expert_id" ∈ fieldNames ps && delimited ps
    | .error _ => false

lemma onlyFields_of_distinctPattern {pattern : String} (hp : distinctPattern pattern = true) :
    onlyFields ["layer_id", "expert_id"] pattern = true := by
  simp only [distinctPattern, Bool.and_eq_true] at hp
  exact hp.1

/-- **The uid gives its indices back**, for a pattern that tells them apart. -/
lemma generateUid_injective {pattern : String} (hp : distinctPattern pattern = true)
    {l e l' e' : Int} {u : String} (h : generateUid pattern l e = .ok u)
    (h' : generateUid pattern l' e' = .ok u) : l = l' ∧ e = e' := by
  unfold distinctPattern onlyFields at hp
  cases hps : parseFormat none pattern.data with
  | error => simp [hps] at hp
  | ok ps =>
    simp only [hps, Bool.and_eq_true, decide_eq_true_eq] at hp
    obtain ⟨hf, ⟨hl, he⟩, hd⟩ := hp
    rw [generateUid_eq_render hps hf] at h h'
    have hv := renderPieces_inj ps hd ((Except.ok.inj h).trans (Except.ok.inj h').symm)
    exact ⟨by simpa using hv _ hl, by simpa using hv _ he⟩

/-- With such a pattern, the uids a call returns are pairwise distinct. -/
lemma nodup_uid_of_generateUids {numExperts numLayers layersStart : Int} {pattern : String}
    (hp : distinctPattern pattern = true) {dht : Option Dht} {uids : List ExpertUID}
    (h : generateUids numExperts numLayers layersStart pattern dht = .ok uids) :
    (uids.map ExpertUID.uid).Nodup := by
  obtain ⟨render, hr, rfl⟩ := uids_of_generateUids (onlyFields_of_distinctPattern hp) h
  rw [List.map_map]
  refine (nodup_layerMajorPairs _ _ _).map_on fun a _ b _ hab => ?_
  obtain ⟨hl, he⟩ :=
    generateUid_injective hp (hr a.1 a.2) ((hr b.1 b.2).trans (congrArg Except.ok hab.symm))
  exact Prod.ext hl he

/-! ## Repeated uids -/

/-- **Uids need not be distinct.**  A pattern without `{expert_id}` renders the same uid for
every expert of a layer, and nothing removes the repeats. -/
lemma generateUids_repeats_uid :
    generateUids 2 1 0 "x\x7blayer_id\x7d" none = .ok [⟨"x0", 0, 0⟩, ⟨"x0", 1, 0⟩] := rfl

/-- Adjacent placeholders collide: layer 1, expert 11 and layer 11, expert 1 both render
`e111`. -/
lemma generateUid_adjacent_collide :
    generateUid "e\x7blayer_id\x7d\x7bexpert_id\x7d" 1 11 = .ok "e111" ∧
    generateUid "e\x7blayer_id\x7d\x7bexpert_id\x7d" 11 1 = .ok "e111" := ⟨rfl, rfl⟩

end MoeServer
