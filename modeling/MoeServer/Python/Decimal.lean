import MoeServer.Python.Builtins
import Mathlib.Tactic.IntervalCases
import Mathlib.Data.Nat.Digits

/-!
# `str(int)`: what a rendered index can and cannot look like

The server renders integers into strings in two places: `_generate_uids` formats the layer and
expert indices into the uid pattern, and `mixtral_rules` formats them into the source parameter
names of a HuggingFace checkpoint.  Both rely, without saying so, on two facts about Python's
`str(n)`, which Lean's `toString` on `Int` computes character for character (a `-` for a
negative number, then the decimal digits):

* **no two integers render alike** — `int_toString_injective`;
* **a rendered integer holds digits and `-` only** — `mem_int_toString`, so in particular it
  holds no `.` and no `/`, and any other character after it marks where it ends
  (`append_cons_inj`).

Injectivity is proved by decoding: `ofDigitChars` reads the decimal digits back, and
`ofDigitChars_repr` shows it inverts `Nat.repr`.
-/

namespace MoeServer

/-- Reading decimal digits back into a number, most significant first. -/
def ofDigitChars (cs : List Char) : Nat :=
  cs.foldl (fun acc c => 10 * acc + (c.toNat - 48)) 0

lemma digitChar_isDigit {d : Nat} (h : d < 10) : (Nat.digitChar d).isDigit = true := by
  interval_cases d <;> rfl

lemma digitChar_toNat {d : Nat} (h : d < 10) : (Nat.digitChar d).toNat - 48 = d := by
  interval_cases d <;> rfl

/-- `toDigitsCore` only ever conses onto the accumulator it is given. -/
lemma toDigitsCore_append (f n : Nat) (ds : List Char) :
    Nat.toDigitsCore 10 f n ds = Nat.toDigitsCore 10 f n [] ++ ds := by
  induction f generalizing n ds with
  | zero => rfl
  | succ f ih =>
    simp only [Nat.toDigitsCore]
    split
    · rfl
    · rw [ih _ (_ :: ds), ih _ [_]]; simp

lemma mem_toDigitsCore {f n : Nat} {ds : List Char} {c : Char}
    (h : c ∈ Nat.toDigitsCore 10 f n ds) : c ∈ ds ∨ c.isDigit = true := by
  induction f generalizing n ds with
  | zero => exact .inl h
  | succ f ih =>
    have hd := digitChar_isDigit (Nat.mod_lt n (by decide : 10 > 0))
    simp only [Nat.toDigitsCore] at h
    split at h
    · rcases List.mem_cons.mp h with rfl | h
      · exact .inr hd
      · exact .inl h
    · rcases ih h with h | h
      · rcases List.mem_cons.mp h with rfl | h
        · exact .inr hd
        · exact .inl h
      · exact .inr h

lemma ofDigitChars_toDigitsCore {f n : Nat} (hn : n < f) :
    ofDigitChars (Nat.toDigitsCore 10 f n []) = n := by
  induction f generalizing n with
  | zero => omega
  | succ f ih =>
    have hd := digitChar_toNat (Nat.mod_lt n (by decide : 10 > 0))
    simp only [Nat.toDigitsCore]
    split
    · simp [ofDigitChars, hd]; omega
    · rw [toDigitsCore_append]
      simp only [ofDigitChars, List.foldl_append, List.foldl_cons, List.foldl_nil] at ih ⊢
      rw [ih (by omega), hd]; omega

lemma ofDigitChars_repr (n : Nat) : ofDigitChars (Nat.repr n).data = n :=
  ofDigitChars_toDigitsCore (Nat.lt_succ_self n)

lemma nat_repr_injective : Function.Injective Nat.repr := fun a b h => by
  rw [← ofDigitChars_repr a, ← ofDigitChars_repr b, h]

lemma isDigit_of_mem_repr {n : Nat} {c : Char} (h : c ∈ (Nat.repr n).data) : c.isDigit = true :=
  (mem_toDigitsCore h).resolve_left (List.not_mem_nil c)

@[simp] lemma int_toString_ofNat (m : Nat) : toString (Int.ofNat m) = Nat.repr m := rfl

@[simp] lemma int_toString_negSucc (m : Nat) :
    toString (Int.negSucc m) = "-" ++ Nat.repr (m + 1) := rfl

@[simp] lemma string_data_append (s t : String) : (s ++ t).data = s.data ++ t.data := rfl

/-- **A rendered integer holds digits and `-` only.** -/
lemma mem_int_toString {i : Int} {c : Char} (h : c ∈ (toString i).data) :
    c.isDigit = true ∨ c = '-' := by
  cases i with
  | ofNat m => exact .inl (isDigit_of_mem_repr h)
  | negSucc m =>
    simp only [int_toString_negSucc, string_data_append] at h
    rcases List.mem_append.mp h with h | h
    · exact .inr (List.mem_singleton.mp h)
    · exact .inl (isDigit_of_mem_repr h)

lemma dot_not_mem_int_toString (i : Int) : '.' ∉ (toString i).data := fun h => by
  rcases mem_int_toString h with h | h <;> revert h <;> decide

/-- Text up to the first occurrence of a separator is read back: two lists that each hold `c`
first at the joint agree before it and after it. -/
lemma append_cons_inj {α : Type} {a a' b b' : List α} {c : α} (ha : c ∉ a) (ha' : c ∉ a')
    (h : a ++ c :: b = a' ++ c :: b') : a = a' ∧ b = b' := by
  induction a generalizing a' with
  | nil =>
    cases a' with
    | nil => simpa using h
    | cons x a' =>
      simp only [List.nil_append, List.cons_append, List.cons.injEq] at h
      exact absurd (h.1 ▸ List.mem_cons_self _ _) ha'
  | cons x a ih =>
    cases a' with
    | nil =>
      simp only [List.nil_append, List.cons_append, List.cons.injEq] at h
      exact absurd (h.1 ▸ List.mem_cons_self _ _) ha
    | cons y a' =>
      simp only [List.cons_append, List.cons.injEq] at h
      obtain ⟨rfl, h⟩ := h
      obtain ⟨rfl, rfl⟩ := ih (fun h' => ha (.tail _ h')) (fun h' => ha' (.tail _ h')) h
      exact ⟨rfl, rfl⟩

/-- **No two integers render alike.** -/
theorem int_toString_injective : Function.Injective (toString : Int → String) := by
  have minus : ∀ m, '-' ∉ (Nat.repr m).data := fun m h => by
    have := isDigit_of_mem_repr h; revert this; decide
  intro a b h
  cases a with
  | ofNat a =>
    cases b with
    | ofNat b => exact congrArg _ (nat_repr_injective h)
    | negSucc b =>
      exact absurd (by simp only [int_toString_ofNat, int_toString_negSucc] at h; simp [h]) (minus a)
  | negSucc a =>
    cases b with
    | ofNat b =>
      exact absurd (by simp only [int_toString_ofNat, int_toString_negSucc] at h; simp [← h]) (minus b)
    | negSucc b =>
      have h' := congrArg String.data h
      simp only [int_toString_negSucc, string_data_append, List.append_cancel_left_eq] at h'
      have := nat_repr_injective (String.ext h')
      simp only [Nat.add_right_cancel_iff] at this
      rw [this]

example : toString (-12 : Int) = "-12" := by decide

end MoeServer
