import MoeServer.Python.Decimal

/-!
# `str.format` with keyword arguments

`_generate_uids` renders every expert uid as `expert_pattern.format(expert_id=…, layer_id=…)`,
so what a pattern may look like, and what `Server.create` does with a bad one, is decided by
CPython's format-string scanner.  `formatFrom` follows that scanner one character at a time:
literal text is copied, `{{` and `}}` stand for one brace, `{name}` is replaced by `str` of the
keyword argument `name`, and a brace out of place raises `ValueError` with CPython's text.  The
output is built piece by piece as CPython builds it, so an unknown field raises `KeyError`
before a malformed brace further on is seen.

`parseFormat` is the same scanner without the arguments: it returns the pieces of the pattern.
`onlyFields names pattern` says that the pattern scans and that each of its fields is one of
`names`; for such a pattern formatting cannot fail (`formatFrom_of_parse`), and it yields the
pieces rendered one after the other (`renderPieces`).  Conversely a pattern that formats scans,
and names only bound fields (`parse_of_formatFrom`).  When every field is `delimited`, that is
followed by a character no `str` of an integer holds or ends the pattern, the rendering reads the
values back (`renderPieces_inj`).

Fields with a conversion (`!r`), a format spec (`:03d`), an attribute or an index are not
followed: such a field is looked up by its whole text and raises `KeyError`, where CPython would
format the value.  `plainFields` names the patterns without such fields; results about what
`Server.create` accepts are stated for them.
-/

namespace MoeServer

/-- The value a replacement field names.  A name that is empty or all digits is a positional
index, and `format` is only ever called here with keyword arguments. -/
def lookupField (kwargs : List (String × Int)) (name : String) : Except PyError Int :=
  match kwargs.lookup name with
  | some v => .ok v
  | none =>
    if name.all Char.isDigit then
      .error (.indexError ("Replacement index " ++ toString (ofDigitChars name.data)
        ++ " out of range for positional args tuple"))
    else .error (.keyError name)

/-- `str.format(**kwargs)` on the characters still to read.  `field` is `none` in literal text
and `some name` inside `{…}`, with `name` the field name read so far. -/
def formatFrom (kwargs : List (String × Int)) : Option String → List Char → Except PyError String
  | none, [] => .ok ""
  | none, ['{'] => .error (.valueError "Single '\x7b' encountered in format string")
  | none, '{' :: '{' :: cs => ("\x7b" ++ ·) <$> formatFrom kwargs none cs
  | none, '{' :: cs => formatFrom kwargs (some "") cs
  | none, '}' :: '}' :: cs => ("\x7d" ++ ·) <$> formatFrom kwargs none cs
  | none, '}' :: _ => .error (.valueError "Single '\x7d' encountered in format string")
  | none, c :: cs => (c.toString ++ ·) <$> formatFrom kwargs none cs
  | some _, [] => .error (.valueError "expected '\x7d' before end of string")
  | some _, '{' :: _ => .error (.valueError "unexpected '\x7b' in field name")
  | some name, '}' :: cs => do
    let v ← lookupField kwargs name
    (toString v ++ ·) <$> formatFrom kwargs none cs
  | some name, c :: cs => formatFrom kwargs (some (name.push c)) cs

/-- `pattern.format(**kwargs)`. -/
def strFormat (pattern : String) (kwargs : List (String × Int)) : Except PyError String :=
  formatFrom kwargs none pattern.data

/-! ## The pieces of a pattern -/

/-- A pattern read into literal characters and replacement fields. -/
inductive Piece
  | text (c : Char)
  | field (name : String)
  deriving DecidableEq, Repr

/-- The scanner of `formatFrom` without the arguments: the pattern's pieces, or the
`ValueError` a malformed pattern raises. -/
def parseFormat : Option String → List Char → Except PyError (List Piece)
  | none, [] => .ok []
  | none, ['{'] => .error (.valueError "Single '\x7b' encountered in format string")
  | none, '{' :: '{' :: cs => (.text '{' :: ·) <$> parseFormat none cs
  | none, '{' :: cs => parseFormat (some "") cs
  | none, '}' :: '}' :: cs => (.text '}' :: ·) <$> parseFormat none cs
  | none, '}' :: _ => .error (.valueError "Single '\x7d' encountered in format string")
  | none, c :: cs => (.text c :: ·) <$> parseFormat none cs
  | some _, [] => .error (.valueError "expected '\x7d' before end of string")
  | some _, '{' :: _ => .error (.valueError "unexpected '\x7b' in field name")
  | some name, '}' :: cs => (.field name :: ·) <$> parseFormat none cs
  | some name, c :: cs => parseFormat (some (name.push c)) cs

/-- The pieces rendered with values for their fields. -/
def renderPieces (value : String → Int) : List Piece → String
  | [] => ""
  | .text c :: ps => c.toString ++ renderPieces value ps
  | .field name :: ps => toString (value name) ++ renderPieces value ps

/-- The names of a pattern's replacement fields, in order. -/
def fieldNames : List Piece → List String
  | [] => []
  | .text _ :: ps => fieldNames ps
  | .field name :: ps => name :: fieldNames ps

/-- The pattern scans, and each of its replacement fields is one of `names`. -/
def onlyFields (names : List String) (pattern : String) : Bool :=
  match parseFormat none pattern.data with
  | .ok ps => (fieldNames ps).all (· ∈ names)
  | .error _ => false

/-- The characters CPython reads as part of a replacement field — from a `{` that is not doubled
to the next `}` — hold no conversion (`!`), format spec (`:`), attribute (`.`) or index (`[`).
The flag says whether the scan is inside a field. -/
def plainFieldsFrom : Bool → List Char → Bool
  | _, [] => true
  | false, '{' :: '{' :: cs => plainFieldsFrom false cs
  | false, '{' :: cs => plainFieldsFrom true cs
  | false, _ :: cs => plainFieldsFrom false cs
  | true, '}' :: cs => plainFieldsFrom false cs
  | true, c :: cs => !(c == '!' || c == ':' || c == '.' || c == '[') && plainFieldsFrom true cs

/-- The patterns whose fields `formatFrom` follows as CPython does. -/
def plainFields (pattern : String) : Bool := plainFieldsFrom false pattern.data

lemma map_eq_ok {α β : Type} {f : α → β} {x : Except PyError α} {b : β} :
    f <$> x = .ok b ↔ ∃ a, x = .ok a ∧ f a = b := by
  cases x <;> simp [Functor.map, Except.map]

/-- **Formatting a well-formed pattern whose fields are all bound cannot fail**, and yields its
pieces rendered in order.  The induction follows the scanner's own cases. -/
lemma formatFrom_of_parse (kwargs : List (String × Int)) (value : String → Int)
    (hv : ∀ n v, kwargs.lookup n = some v → value n = v) :
    ∀ (field : Option String) (cs : List Char) (ps : List Piece),
      parseFormat field cs = .ok ps → (∀ n ∈ fieldNames ps, (kwargs.lookup n).isSome) →
      formatFrom kwargs field cs = .ok (renderPieces value ps) := by
  intro field cs
  induction field, cs using parseFormat.induct with
  | case1 => intro ps h _; cases h; rfl
  | case3 cs ih | case5 cs ih =>
    intro ps h hf
    obtain ⟨ps, hps, rfl⟩ := map_eq_ok.mp h
    simp only [formatFrom, ih ps hps hf]; rfl
  | case4 cs h1 h2 ih =>
    intro ps h hf
    rw [parseFormat.eq_4 _ h1 h2] at h
    rw [formatFrom.eq_4 _ _ h1 h2, ih ps h hf]
  | case7 c cs h1 h2 h3 h4 h5 ih =>
    intro ps h hf
    rw [parseFormat.eq_7 _ _ h1 h2 h3 h4 h5] at h
    obtain ⟨ps, hps, rfl⟩ := map_eq_ok.mp h
    rw [formatFrom.eq_7 _ _ _ h1 h2 h3 h4 h5, ih ps hps hf]; rfl
  | case10 name cs ih =>
    intro ps h hf
    obtain ⟨ps, hps, rfl⟩ := map_eq_ok.mp h
    simp only [fieldNames, List.mem_cons, forall_eq_or_imp] at hf
    obtain ⟨v, hv'⟩ := Option.isSome_iff_exists.mp hf.1
    simp only [formatFrom, lookupField, hv', ih ps hps hf.2, renderPieces, hv _ _ hv']; rfl
  | case11 name c cs h1 h2 ih =>
    intro ps h hf
    rw [parseFormat.eq_11 _ _ _ h1 h2] at h
    rw [formatFrom.eq_11 _ _ _ _ h1 h2, ih ps h hf]
  | _ => intro ps h; simp [parseFormat] at h

/-- A field that formats names a keyword argument. -/
lemma lookupField_ok {kwargs : List (String × Int)} {name : String} {v : Int}
    (h : lookupField kwargs name = .ok v) : kwargs.lookup name = some v := by
  unfold lookupField at h
  split at h
  · cases h; assumption
  · split at h <;> cases h

/-- **What formats, scans**: a pattern that `str.format` renders without error scans into pieces
whose fields each name a keyword argument, so `formatFrom_of_parse` says what it rendered. -/
lemma parse_of_formatFrom (kwargs : List (String × Int)) :
    ∀ (field : Option String) (cs : List Char) (out : String),
      formatFrom kwargs field cs = .ok out →
      ∃ ps, parseFormat field cs = .ok ps ∧ ∀ n ∈ fieldNames ps, (kwargs.lookup n).isSome := by
  intro field cs
  induction field, cs using parseFormat.induct with
  | case1 => exact fun _ _ => ⟨[], rfl, fun _ h => nomatch h⟩
  | case3 cs ih | case5 cs ih =>
    intro out h
    obtain ⟨out, hout, -⟩ := map_eq_ok.mp h
    obtain ⟨ps, hps, hf⟩ := ih out hout
    refine ⟨_, by simp only [parseFormat, hps]; rfl, ?_⟩
    exact hf
  | case4 cs h1 h2 ih =>
    intro out h
    rw [formatFrom.eq_4 _ _ h1 h2] at h
    rw [parseFormat.eq_4 _ h1 h2]
    exact ih out h
  | case7 c cs h1 h2 h3 h4 h5 ih =>
    intro out h
    rw [formatFrom.eq_7 _ _ _ h1 h2 h3 h4 h5] at h
    obtain ⟨out, hout, -⟩ := map_eq_ok.mp h
    obtain ⟨ps, hps, hf⟩ := ih out hout
    refine ⟨_, by rw [parseFormat.eq_7 _ _ h1 h2 h3 h4 h5, hps]; rfl, ?_⟩
    exact hf
  | case10 name cs ih =>
    intro out h
    simp only [formatFrom, bind, Except.bind] at h
    split at h
    · cases h
    · rename_i v hv
      obtain ⟨out, hout, -⟩ := map_eq_ok.mp h
      obtain ⟨ps, hps, hf⟩ := ih out hout
      refine ⟨_, by simp only [parseFormat, hps]; rfl, ?_⟩
      simp only [fieldNames, List.mem_cons, forall_eq_or_imp]
      exact ⟨by simp [lookupField_ok hv], hf⟩
  | case11 name c cs h1 h2 ih =>
    intro out h
    rw [formatFrom.eq_11 _ _ _ _ h1 h2] at h
    rw [parseFormat.eq_11 _ _ _ h1 h2]
    exact ih out h
  | _ => intro out h; simp [formatFrom] at h

/-! ## Reading a rendering back -/

/-- Each replacement field ends the pattern or is followed by a literal character that `str` of
an integer never holds: not a digit, not `-`. -/
def delimited : List Piece → Bool
  | [] => true
  | .text _ :: ps => delimited ps
  | [.field _] => true
  | .field _ :: .text c :: ps => !c.isDigit && c != '-' && delimited (.text c :: ps)
  | .field _ :: .field _ :: _ => false

/-- **A delimited pattern's rendering gives its values back**: two renderings that agree give
each field the same value. -/
lemma renderPieces_inj {v v' : String → Int} : ∀ ps : List Piece, delimited ps = true →
    renderPieces v ps = renderPieces v' ps → ∀ n ∈ fieldNames ps, v n = v' n
  | [], _, _ => fun _ hn => absurd hn (List.not_mem_nil _)
  | .text c :: ps, hd, h => by
    have hd' := congrArg String.data h
    simp only [renderPieces, string_data_append, List.cons_append] at hd'
    exact renderPieces_inj ps hd (String.ext (List.cons.inj hd').2)
  | [.field n], _, h => by
    simp only [renderPieces, String.append_empty] at h
    simp only [fieldNames, List.mem_singleton, forall_eq]
    exact int_toString_injective h
  | .field n :: .text c :: ps, hd, h => by
    simp only [delimited, Bool.and_eq_true, Bool.not_eq_true', bne_iff_ne, ne_eq] at hd
    obtain ⟨⟨hdigit, hminus⟩, hd⟩ := hd
    have hc (i : Int) : c ∉ (toString i).data := fun hi =>
      (mem_int_toString hi).elim (fun h' => by rw [hdigit] at h'; cases h') hminus
    have hd' := congrArg String.data h
    simp only [renderPieces, string_data_append] at hd'
    obtain ⟨hn, hrest⟩ := append_cons_inj (hc _) (hc _) hd'
    have hrest' : renderPieces v (.text c :: ps) = renderPieces v' (.text c :: ps) := by
      simp only [renderPieces]
      exact String.ext (by simpa using hrest)
    simp only [fieldNames, List.mem_cons, forall_eq_or_imp]
    exact ⟨int_toString_injective (String.ext hn), renderPieces_inj (.text c :: ps) hd hrest'⟩
  | .field _ :: .field _ :: _, hd, _ => by cases hd

end MoeServer
