import Mathlib.Algebra.Group.Int.Defs
import Mathlib.Algebra.Group.Nat.Defs
import Mathlib.Tactic.Common
import Parley.Json.Token

/-!
# Tokens read back

A token that has been spelled is the first token of the text, whatever comes behind it
(`Token.next?_chars`).  There are two conditions.  The token has to have a value, and a number has
to be an integer of 64 bits (`Token.IsExact`): doubles are read in a way of their own, which may
miss the last bit.  And behind a number there must not be what would be taken for more of it
(`EndsNumber`); all other tokens show by themselves where they end.

* `lexString_flatMap_escaped` : a string reads back, whatever characters it has.
* `lexNumber_toDigits` : the digits of a natural number are a literal, and all of it.
* `lexAll_chars_append` : a spelled token in front of a text is put in front of its tokens.
-/

namespace Parley

namespace Json

/-- An integer of 64 bits, with a sign or without. -/
def Number.IsExact : Number → Prop
  | .integer value => -(2 ^ 63 : Int) ≤ value ∧ value < 2 ^ 64
  | .double _ => False

namespace Token

/-- A token with a value that reads back. -/
def IsExact : Token → Prop
  | .number n => ∃ m, n = some m ∧ m.IsExact
  | .string s => s.isSome
  | _ => True

/-- A text does not begin with what would go on with a number. -/
def EndsNumber (text : List Char) : Prop :=
  ∀ c rest, text = c :: rest → ¬c.isDigit ∧ c ≠ '.' ∧ c ≠ 'e' ∧ c ≠ 'E'

theorem endsNumber_nil : EndsNumber [] := fun _ _ h => by cases h

theorem endsNumber_cons {c : Char} {rest : List Char}
    (h : ¬c.isDigit ∧ c ≠ '.' ∧ c ≠ 'e' ∧ c ≠ 'E') : EndsNumber (c :: rest) := by
  rintro _ _ ⟨⟩
  exact h

/-! ### Strings -/

theorem hexValue?_hexDigit : ∀ n < 16, Text.hexValue? (Text.hexDigit n) = some n := by decide

theorem hexValue4?_control {n : ℕ} (h : n < 0x20) :
    hexValue4? '0' '0' (Text.hexDigit (n / 16)) (Text.hexDigit (n % 16)) = some n := by
  have hzero : Text.hexValue? '0' = some 0 := by decide
  have hhigh := hexValue?_hexDigit (n / 16) (by omega)
  have hlow := hexValue?_hexDigit (n % 16) (by omega)
  have hsum : ((0 * 16 + 0) * 16 + n / 16) * 16 + n % 16 = n := by omega
  simp only [hexValue4?, hzero, hhigh, hlow, Option.bind_eq_bind, Option.bind_some,
    Option.pure_def, hsum]

/-- An escape by four digits stands for their character, unless that is half of a pair. -/
theorem lexString_unit {a b c d : Char} {unit : ℕ} (h : hexValue4? a b c d = some unit)
    (hunit : isSurrogate unit = false) (done : List Char) (valid : Bool) (rest : List Char) :
    lexString done valid ('\\' :: 'u' :: a :: b :: c :: d :: rest) =
      lexString (Char.ofNat unit :: done) valid rest := by
  rw [lexString.eq_def]
  split
  · next heq => simp at heq
  · -- what follows may itself be an escape of this kind
    next heq =>
      simp only [List.cons.injEq] at heq
      obtain ⟨-, -, rfl, rfl, rfl, rfl, rfl⟩ := heq
      simp [h, hunit]
  · next heq =>
      simp only [List.cons.injEq] at heq
      obtain ⟨-, -, rfl, rfl, rfl, rfl, rfl⟩ := heq
      simp [h, hunit]
  · next hletter heq =>
      simp only [List.cons.injEq] at heq
      obtain ⟨-, rfl, rfl⟩ := heq
      exact absurd rfl (hletter _ _ _ _ _ rfl)
  · next hletter heq =>
      simp only [List.cons.injEq] at heq
      obtain ⟨rfl, rfl⟩ := heq
      exact absurd rfl (hletter _ _ rfl)
  · next heq => simp at heq

theorem lexString_plain {c : Char} (hquote : c ≠ '"') (hslash : c ≠ '\\')
    (hcontrol : ¬c.toNat < 0x20) (done : List Char) (valid : Bool) (rest : List Char) :
    lexString done valid (c :: rest) = lexString (c :: done) valid rest := by
  have hplain : ¬(c = '\\' ∨ c.toNat < 0x20) := not_or.2 ⟨hslash, hcontrol⟩
  rw [lexString.eq_def]
  split
  · next heq => exact absurd (List.cons.inj heq).1 hquote
  · next heq => exact absurd (List.cons.inj heq).1 hslash
  · next heq => exact absurd (List.cons.inj heq).1 hslash
  · next heq => exact absurd (List.cons.inj heq).1 hslash
  · next heq =>
      obtain ⟨rfl, rfl⟩ := List.cons.inj heq
      rw [if_neg hplain]
  · next heq => cases heq

theorem lexString_escaped (c : Char) (done : List Char) (valid : Bool) (rest : List Char) :
    lexString done valid (escaped c ++ rest) = lexString (c :: done) valid rest := by
  unfold escaped
  split_ifs with hquote hslash hb hf hn hr ht hcontrol
  · subst hquote
    rfl
  · subst hslash
    rfl
  · subst hb
    rfl
  · subst hf
    rfl
  · subst hn
    rfl
  · subst hr
    rfl
  · subst ht
    rfl
  · have hunit : isSurrogate c.toNat = false := by
      simp only [isSurrogate, Bool.and_eq_false_iff, decide_eq_false_iff_not]
      omega
    have hread := lexString_unit (hexValue4?_control hcontrol) hunit done valid rest
    rw [Char.ofNat_toNat] at hread
    exact hread
  · exact lexString_plain hquote hslash hcontrol done valid rest

/-- **A string reads back**, from behind its opening quote. -/
theorem lexString_flatMap_escaped (cs done : List Char) (valid : Bool) (rest : List Char) :
    lexString done valid (cs.flatMap escaped ++ '"' :: rest) =
      some (if valid then some (String.ofList (done.reverse ++ cs)) else none, rest) := by
  induction cs generalizing done with
  | nil =>
    rw [List.append_nil]
    rfl
  | cons c cs ih =>
    rw [List.flatMap_cons, List.append_assoc, lexString_escaped, ih, List.reverse_cons,
      List.append_assoc, List.singleton_append]

/-! ### Numbers -/

/-- A text does not begin with a digit. -/
def EndsDigits (text : List Char) : Prop := ∀ c rest, text = c :: rest → ¬c.isDigit

theorem EndsNumber.endsDigits {text : List Char} (h : EndsNumber text) : EndsDigits text :=
  fun c rest heq => (h c rest heq).1

theorem endsDigits_cons {c : Char} {rest : List Char} (h : ¬c.isDigit) :
    EndsDigits (c :: rest) := by
  rintro _ _ ⟨⟩
  exact h

theorem digits_append {ds rest : List Char} (hds : ∀ c ∈ ds, c.isDigit) (hrest : EndsDigits rest) :
    digits (ds ++ rest) = (ds.map fun c => c.toNat - 48, rest) := by
  have htake : rest.takeWhile Char.isDigit = [] := by
    cases rest with
    | nil => rfl
    | cons c rest => exact List.takeWhile_cons_of_neg (hrest c rest rfl)
  have hdrop : rest.dropWhile Char.isDigit = rest := by
    cases rest with
    | nil => rfl
    | cons c rest => exact List.dropWhile_cons_of_neg (hrest c rest rfl)
  rw [digits, List.takeWhile_append_of_pos hds, List.dropWhile_append_of_pos hds, htake, hdrop,
    List.append_nil]

theorem lexFraction_of_endsNumber {rest : List Char} (h : EndsNumber rest) :
    lexFraction rest = some ([], rest) := by
  unfold lexFraction
  split
  · next cs => exact absurd rfl (h _ _ rfl).2.1
  · rfl

theorem lexExponent_of_endsNumber {rest : List Char} (h : EndsNumber rest) :
    lexExponent rest = some (none, rest) := by
  cases rest with
  | nil => rfl
  | cons c rest =>
    obtain ⟨-, -, he, hE⟩ := h c rest rfl
    simp only [lexExponent, he, hE, or_self, if_false]

theorem toDigits_eq_cons {n : ℕ} (h : 0 < n) :
    ∃ c cs, Nat.toDigits 10 n = c :: cs ∧ c.toNat - 48 ≠ 0 := by
  induction n using Nat.strongRecOn with
  | ind n ih =>
    by_cases hn : n < 10
    · refine ⟨n.digitChar, [], Nat.toDigits_of_lt_base hn, ?_⟩
      rw [Nat.toNat_digitChar_sub_48_of_lt_ten hn]
      omega
    · obtain ⟨c, cs, hcs, hc⟩ := ih (n / 10) (by omega) (by omega)
      refine ⟨c, cs ++ [(n % 10).digitChar], ?_, hc⟩
      rw [Nat.toDigits_of_base_le (by decide) (by omega), hcs, List.cons_append]

theorem isWhole_toDigits (n : ℕ) :
    isWhole ((Nat.toDigits 10 n).map fun c => c.toNat - 48) = true := by
  rcases Nat.eq_zero_or_pos n with rfl | hn
  · rw [Nat.toDigits_zero]
    rfl
  · obtain ⟨c, cs, hcs, hc⟩ := toDigits_eq_cons hn
    rw [hcs]
    cases cs with
    | nil => rfl
    | cons c' cs => exact decide_eq_true hc

/-- **The digits of a natural number are a literal**, and they are all of it. -/
theorem lexNumber_toDigits (negative : Bool) (n : ℕ) {rest : List Char} (h : EndsNumber rest) :
    lexNumber negative (Nat.toDigits 10 n ++ rest) =
      some (⟨negative, (Nat.toDigits 10 n).map fun c => c.toNat - 48, [], none⟩, rest) := by
  have hdigits := digits_append
    (fun c hc => Nat.isDigit_of_mem_toDigits (b := 10) (n := n) (by decide) (by decide) hc)
    h.endsDigits
  simp only [lexNumber, hdigits, isWhole_toDigits, if_true, lexFraction_of_endsNumber h,
    lexExponent_of_endsNumber h, Option.bind_some, Option.map_some]

theorem le_ofDigitChars (cs : List Char) (n : ℕ) : n ≤ Nat.ofDigitChars 10 cs n := by
  induction cs generalizing n with
  | nil => exact Nat.le_of_eq Nat.ofDigitChars_nil.symm
  | cons c cs ih =>
    rw [Nat.ofDigitChars_cons]
    exact Nat.le_trans (by omega) (ih _)

theorem gather_of_lt (cs : List Char) (n : ℕ) (h : Nat.ofDigitChars 10 cs n < Number.wordBound) :
    Literal.gather n (cs.map fun c => c.toNat - 48) = (Nat.ofDigitChars 10 cs n, 0) := by
  induction cs generalizing n with
  | nil => rfl
  | cons c cs ih =>
    have hstep : n * 10 + (c.toNat - 48) = 10 * n + (c.toNat - '0'.toNat) := by
      rw [Nat.mul_comm]
      rfl
    rw [Nat.ofDigitChars_cons] at h ⊢
    have hfits := Nat.lt_of_le_of_lt (le_ofDigitChars cs _) h
    rw [List.map_cons, Literal.gather, hstep, if_pos hfits, ih _ h]

theorem number?_toDigits (negative : Bool) {n : ℕ} (h : n < Number.wordBound) :
    Literal.number? ⟨negative, (Nat.toDigits 10 n).map fun c => c.toNat - 48, [], none⟩ =
      if !negative then some (.integer n)
      else if 0 < n ∧ n ≤ Nat.pow 2 63 then some (.integer (-(n : Int)))
      else Number.ofParts true n 0 := by
  have hgather := gather_of_lt (Nat.toDigits 10 n) 0 (by rwa [Nat.ofDigitChars_ten_toDigits])
  rw [Nat.ofDigitChars_ten_toDigits] at hgather
  simp [Literal.number?, hgather]

theorem exists_toDigits_eq_cons (n : ℕ) :
    ∃ c cs, Nat.toDigits 10 n = c :: cs ∧ c.isDigit = true := by
  obtain ⟨c, cs, hcs⟩ := List.exists_cons_of_ne_nil (Nat.toDigits_ne_nil (b := 10) (n := n))
  exact ⟨c, cs, hcs, Nat.isDigit_of_mem_toDigits (b := 10) (n := n) (by decide) (by decide)
    (hcs ▸ List.mem_cons_self)⟩

/-- A digit is none of the characters with which other tokens begin. -/
theorem next?_of_isDigit {c : Char} (h : c.isDigit = true) (cs : List Char) :
    next? (c :: cs) =
      (lexNumber false (c :: cs)).map fun (l, rest) => (number l.number?, rest) := by
  rw [next?.eq_def]
  split <;> simp_all

/-- An integer of 64 bits reads back. -/
theorem lexInteger {value : Int} (h : (Number.integer value).IsExact) {rest : List Char}
    (hrest : EndsNumber rest) :
    next? ((Number.integer value).chars ++ rest) = some (number (some (.integer value)), rest) := by
  obtain ⟨hlow, hhigh⟩ := h
  have hbound : Number.wordBound = 2 ^ 64 := rfl
  have hhalf : Nat.pow 2 63 = 2 ^ 63 := rfl
  by_cases hneg : value < 0
  · have hnumber := number?_toDigits true (n := value.natAbs) (by omega)
    have habs : -(value.natAbs : Int) = value := by omega
    rw [if_neg (by decide), if_pos (by omega), habs] at hnumber
    simp only [Number.chars, if_pos hneg, List.cons_append, List.nil_append, next?,
      lexNumber_toDigits true _ hrest, Option.map_some, hnumber]
  · have hnumber := number?_toDigits false (n := value.natAbs) (by omega)
    have habs : (value.natAbs : Int) = value := by omega
    rw [if_pos (by decide), habs] at hnumber
    have hlex := lexNumber_toDigits false value.natAbs hrest
    obtain ⟨c, cs, hcs, hdigit⟩ := exists_toDigits_eq_cons value.natAbs
    simp only [Number.chars, if_neg hneg, List.nil_append]
    rw [hcs, List.cons_append] at hlex ⊢
    rw [next?_of_isDigit hdigit, hlex, Option.map_some, ← hcs]
    simp only [hnumber]

/-! ### All tokens -/

/-- **A spelled token is the first one of the text.** -/
theorem next?_chars {t : Token} (h : t.IsExact) {rest : List Char}
    (hrest : ∀ n, t = number n → EndsNumber rest) : next? (t.chars ++ rest) = some (t, rest) := by
  cases t with
  | number n =>
    obtain ⟨m, rfl, hm⟩ := h
    cases m with
    | integer value => exact lexInteger hm (hrest _ rfl)
    | double value => exact hm.elim
  | string s =>
    obtain ⟨text, rfl⟩ := Option.isSome_iff_exists.1 h
    have hlex := lexString_flatMap_escaped text.toList [] true rest
    simp only [chars, quoted, List.cons_append, List.append_assoc, List.nil_append, next?, hlex]
    simp
  | bool b => cases b <;> rfl
  | openArray | closeArray | openObject | closeObject | comma | colon | null => rfl

/-- No token begins with a blank. -/
theorem exists_chars_eq_cons {t : Token} (h : t.IsExact) :
    ∃ c cs, t.chars = c :: cs ∧ isBlank c = false := by
  cases t with
  | number n =>
    obtain ⟨m, rfl, hm⟩ := h
    cases m with
    | double value => exact hm.elim
    | integer value =>
      by_cases hneg : value < 0
      · exact ⟨'-', _, by simp only [chars, Number.chars, if_pos hneg]; rfl, rfl⟩
      · obtain ⟨c, cs, hcs, hdigit⟩ := exists_toDigits_eq_cons value.natAbs
        refine ⟨c, cs, by simp only [chars, Number.chars, if_neg hneg, List.nil_append, hcs], ?_⟩
        by_contra hblank
        simp only [isBlank, Bool.not_eq_false, Bool.or_eq_true, decide_eq_true_eq] at hblank
        rcases hblank with ((rfl | rfl) | rfl) | rfl <;> exact absurd hdigit (by decide)
  | string s =>
    obtain ⟨text, rfl⟩ := Option.isSome_iff_exists.1 h
    exact ⟨'"', _, rfl, rfl⟩
  | bool b => cases b <;> exact ⟨_, _, rfl, rfl⟩
  | openArray | closeArray | openObject | closeObject | comma | colon | null =>
    exact ⟨_, _, rfl, rfl⟩

/-- **A spelled token in front of a text** comes in front of its tokens. -/
theorem lexAll_chars_append {t : Token} (h : t.IsExact) {rest : List Char}
    (hrest : ∀ n, t = number n → EndsNumber rest) (done : List Token) :
    lexAll done (t.chars ++ rest) = lexAll (t :: done) rest := by
  obtain ⟨c, cs, hcs, hblank⟩ := exists_chars_eq_cons h
  have hnext := next?_chars h hrest
  rw [hcs, List.cons_append] at hnext ⊢
  have hdrop : (c :: (cs ++ rest)).dropWhile isBlank = c :: (cs ++ rest) :=
    List.dropWhile_cons_of_neg (by rw [hblank]; exact Bool.false_ne_true)
  rw [lexAll]
  split
  · next hnil => rw [hdrop] at hnil; cases hnil
  · next c' rest' hcons =>
    rw [hdrop] at hcons
    obtain ⟨rfl, rfl⟩ := List.cons.inj hcons
    split
    · next hnone => rw [hnext] at hnone; cases hnone
    · next token after hsome =>
      rw [hnext] at hsome
      cases hsome
      rfl

theorem lexAll_nil (done : List Token) : lexAll done [] = some done.reverse := by
  rw [lexAll]
  rfl

end Token

end Json

end Parley
