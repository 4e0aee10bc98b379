import Parley.Proofs.Number.Interval
import Parley.Proofs.Reading.Token

/-!
# The texts of numbers

The text of a number is a literal, and all of it (`Token.lexLiteral_chars`).  An integer is written
without point and exponent; a double always has one of them, and what its literal writes, taken
exactly, is its shortest decimal.  So a literal writes one number at most (`Literal.Writes.eq`), and
the text of a number shows which one it is and where it ends (`Token.number_append_inj`).

This holds for all numbers, also for those of which a reader makes another number because it rounds
twice, or none because they are too large.
-/

namespace Parley

namespace Json

/-! ### What a literal writes -/

namespace Literal

/-- The exponent of a literal. -/
def scale (l : Literal) : ℤ :=
  match l.exponent with
  | none => 0
  | some (negative, digits) => if negative then -(digitsValue digits : ℤ) else digitsValue digits

/-- The number that a literal writes, without its sign. -/
def value (l : Literal) : ℚ :=
  digitsValue (l.whole ++ l.fraction) * 10 ^ (l.scale - l.fraction.length)

/-- A literal that stands for a double by its form. -/
def IsFractional (l : Literal) : Prop := l.fraction ≠ [] ∨ l.exponent ≠ none

/-- A literal is the text of a number. -/
def Writes (l : Literal) : Number → Prop
  | .integer v => l.negative = decide (v < 0) ∧ ¬l.IsFractional ∧ digitsValue l.whole = v.natAbs
  | .double x => l.negative = x.negative ∧ l.IsFractional ∧ l.value = x.shortest.value

/-- **A literal is the text of one number** at most. -/
theorem Writes.eq {l : Literal} {n m : Number} (hn : l.Writes n) (hm : l.Writes m) : n = m := by
  cases n with
  | integer v =>
    obtain ⟨hsign, hform, hvalue⟩ := hn
    cases m with
    | integer w =>
      obtain ⟨hsign', -, hvalue'⟩ := hm
      have hsigns : v < 0 ↔ w < 0 := decide_eq_decide.1 (hsign.symm.trans hsign')
      congr 1
      omega
    | double y => exact absurd hm.2.1 hform
  | double x =>
    obtain ⟨hsign, hform, hvalue⟩ := hn
    cases m with
    | integer w => exact absurd hform hm.2.1
    | double y =>
      rw [Double.ext_shortest (hsign.symm.trans hm.1) (hvalue.symm.trans hm.2.2)]

theorem digitsValue_map (cs : List Char) :
    digitsValue (cs.map fun c => c.toNat - 48) = Nat.ofDigitChars 10 cs 0 := by
  rw [digitsValue, List.foldl_map, Nat.ofDigitChars_eq_foldl]
  congr 1
  funext n c
  rw [Nat.mul_comm]
  rfl

theorem value_mk (negative : Bool) (whole fraction : List Char)
    (exponent : Option (Bool × List ℕ)) :
    value ⟨negative, whole.map fun c => c.toNat - 48, fraction.map fun c => c.toNat - 48,
        exponent⟩ =
      (Nat.ofDigitChars 10 (whole ++ fraction) 0 : ℚ) *
        10 ^ (scale ⟨negative, [], [], exponent⟩ - fraction.length) := by
  rw [value, ← List.map_append, digitsValue_map, List.length_map]
  rfl

end Literal

/-! ### Cutting literals -/

namespace Token

section

variable {whole fraction rest after : List Char} {exponent : Option (Bool × List ℕ)}
  (hwhole : ∀ c ∈ whole, c.isDigit) (hlead : isWhole (whole.map fun c => c.toNat - 48) = true)
  (hexponent : lexExponent rest = some (exponent, after))

include hwhole hlead hexponent

theorem lexNumber_of_no_point (negative : Bool) (hrest : EndsDigits rest)
    (hpoint : ∀ cs, rest ≠ '.' :: cs) :
    lexNumber negative (whole ++ rest) =
      some (⟨negative, whole.map fun c => c.toNat - 48, [], exponent⟩, after) := by
  have hfraction : lexFraction rest = some ([], rest) := by
    unfold lexFraction
    split
    · next cs => exact absurd rfl (hpoint cs)
    · rfl
  simp only [lexNumber, digits_append hwhole hrest, hlead, if_true, hfraction, Option.bind_some,
    hexponent, Option.map_some]

theorem lexNumber_of_point (negative : Bool) (hfraction : ∀ c ∈ fraction, c.isDigit)
    (hne : fraction ≠ []) (hrest : EndsDigits rest) :
    lexNumber negative (whole ++ '.' :: (fraction ++ rest)) =
      some (⟨negative, whole.map fun c => c.toNat - 48, fraction.map fun c => c.toNat - 48,
        exponent⟩, after) := by
  have hpoint : lexFraction ('.' :: (fraction ++ rest)) =
      some (fraction.map fun c => c.toNat - 48, rest) := by
    obtain ⟨c, cs, rfl⟩ := List.exists_cons_of_ne_nil hne
    rw [lexFraction, digits_append hfraction hrest]
    rfl
  have hends : EndsDigits ('.' :: (fraction ++ rest)) := endsDigits_cons (by decide)
  have hdigits := digits_append hwhole hends
  simp only [lexNumber, hdigits, hlead, if_true, hpoint, Option.bind_some, hexponent,
    Option.map_some]

end

/-- An exponent is written with its sign. -/
theorem lexExponent_toDigits (e : ℤ) {rest : List Char} (hrest : EndsDigits rest) :
    lexExponent ('e' :: (if e < 0 then '-' else '+') :: (Nat.toDigits 10 e.natAbs ++ rest)) =
      some (some (decide (e < 0), (Nat.toDigits 10 e.natAbs).map fun c => c.toNat - 48), rest) := by
  have hdigits := digits_append
    (fun c hc => Nat.isDigit_of_mem_toDigits (b := 10) (n := e.natAbs) (by decide) (by decide) hc)
    hrest
  obtain ⟨c, cs, hcs, -⟩ := exists_toDigits_eq_cons e.natAbs
  have hread (negative : Bool) : lexExponentDigits negative (Nat.toDigits 10 e.natAbs ++ rest) =
      some (some (negative, (Nat.toDigits 10 e.natAbs).map fun c => c.toNat - 48), rest) := by
    rw [lexExponentDigits, hdigits, hcs]
    rfl
  by_cases he : e < 0
  · rw [if_pos he, decide_eq_true he]
    exact hread true
  · rw [if_neg he, decide_eq_false he]
    exact hread false

/-! ### Layouts -/

theorem scale_toDigits (negative : Bool) (e : ℤ) :
    Literal.scale ⟨negative, [], [], some (decide (e < 0),
      (Nat.toDigits 10 e.natAbs).map fun c => c.toNat - 48)⟩ = e := by
  simp only [Literal.scale, Literal.digitsValue_map, Nat.ofDigitChars_ten_toDigits,
    decide_eq_true_eq]
  split_ifs <;> omega

/-- A text begins with a literal that writes a decimal, and goes on with `rest`. -/
def Cuts (negative : Bool) (d : Decimal) (text rest : List Char) : Prop :=
  ∃ l, lexNumber negative text = some (l, rest) ∧ l.negative = negative ∧ l.IsFractional ∧
    l.value = d.value

section

variable {d : Decimal} {c : Char} {cs text rest : List Char}
  {exponent : Option (Bool × List ℕ)} {negative : Bool}
  (hcs : Nat.toDigits 10 d.digits = c :: cs) (hfirst : c.toNat - 48 ≠ 0)

include hfirst in
theorem isWhole_cons (cs : List Char) :
    isWhole ((c :: cs).map fun c => c.toNat - 48) = true := by
  cases cs with
  | nil => rfl
  | cons c' cs => exact decide_eq_true hfirst

include hcs

/-- What a literal with the digits of a decimal writes, if more zeros stand around them. -/
theorem value_of_toDigits (before after : ℕ) {whole fraction : List Char}
    (hdigits : whole ++ fraction = List.replicate before '0' ++ c :: cs ++ List.replicate after '0')
    (hscale : Literal.scale ⟨negative, [], [], exponent⟩ - fraction.length + after = d.exponent) :
    Literal.value ⟨negative, whole.map fun c => c.toNat - 48, fraction.map fun c => c.toNat - 48,
      exponent⟩ = d.value := by
  have hbefore : Nat.ofDigitChars 10 (List.replicate before '0') 0 = 0 := by
    rw [Nat.ofDigitChars_replicate_zero, Nat.mul_zero]
  rw [Literal.value_mk, hdigits, ← hcs, Nat.ofDigitChars_append, Nat.ofDigitChars_append, hbefore,
    Nat.ofDigitChars_ten_toDigits, Nat.ofDigitChars_replicate_zero, Decimal.value, ← hscale,
    zpow_add₀ (by norm_num), zpow_natCast]
  push_cast
  ring

/-- The digits of a decimal with a point among them, or among the zeros around them. -/
theorem cuts_of_point (before after : ℕ) (whole fraction : List Char)
    (hdigits : whole ++ fraction = List.replicate before '0' ++ c :: cs ++ List.replicate after '0')
    (hlead : isWhole (whole.map fun c => c.toNat - 48) = true) (hne : fraction ≠ [])
    (hexponent : lexExponent text = some (exponent, rest)) (htext : EndsDigits text)
    (hscale : Literal.scale ⟨negative, [], [], exponent⟩ - fraction.length + after = d.exponent) :
    Cuts negative d (whole ++ '.' :: (fraction ++ text)) rest := by
  have hall : ∀ c' ∈ whole ++ fraction, c'.isDigit := by
    rw [hdigits, ← hcs]
    simp only [List.mem_append, List.mem_replicate]
    rintro c' ((⟨-, rfl⟩ | hc) | ⟨-, rfl⟩)
    · decide
    · exact Nat.isDigit_of_mem_toDigits (b := 10) (n := d.digits) (by decide) (by decide) hc
    · decide
  obtain ⟨hwhole, hfraction⟩ := List.forall_mem_append.1 hall
  exact ⟨_, lexNumber_of_point hwhole hlead hexponent negative hfraction hne htext, rfl,
    .inl (by simpa using hne), value_of_toDigits hcs before after hdigits hscale⟩

include hfirst

/-- A decimal with an exponent has a point behind its first digit, unless that is the only one. -/
theorem cuts_scientific (hrest : EndsNumber rest) {lead : ℤ}
    (hlead : cs.length + d.exponent = lead) :
    Cuts negative d ((match c :: cs with
        | [d] => [d]
        | d :: rest => d :: '.' :: rest
        | [] => []) ++ 'e' :: (if lead < 0 then '-' else '+') :: Nat.toDigits 10 lead.natAbs ++
          rest) rest := by
  have hexponent := lexExponent_toDigits lead hrest.endsDigits
  have he : EndsDigits ('e' :: (if lead < 0 then '-' else '+') ::
      (Nat.toDigits 10 lead.natAbs ++ rest)) := endsDigits_cons (by decide)
  cases cs with
  | nil =>
    have hdigit : ∀ c' ∈ [c], c'.isDigit := fun c' hc =>
      Nat.isDigit_of_mem_toDigits (b := 10) (n := d.digits) (by decide) (by decide) (hcs ▸ hc)
    have hlex := lexNumber_of_no_point hdigit (isWhole_cons hfirst []) hexponent negative he
      (by simp)
    refine ⟨_, (congrArg (lexNumber negative) (by simp)).trans hlex, rfl, .inr (by simp), ?_⟩
    have hdigits : [c] ++ [] = List.replicate 0 '0' ++ [c] ++ List.replicate 0 '0' := rfl
    refine value_of_toDigits hcs 0 0 hdigits ?_
    rw [scale_toDigits, ← hlead]
    simp
  | cons c' cs =>
    have hcut : Cuts negative d _ rest := cuts_of_point hcs 0 0 [c] (c' :: cs) (by simp)
      (isWhole_cons hfirst []) (List.cons_ne_nil _ _) hexponent he
      (by rw [scale_toDigits, ← hlead]; simp)
    simpa using hcut

end

/-- **The layout of a decimal is a literal**, which writes the decimal. -/
theorem cuts_layout (negative : Bool) {d : Decimal} (hd : d.digits ≠ 0) {rest : List Char}
    (hrest : EndsNumber rest) : Cuts negative d (Number.layout d ++ rest) rest := by
  obtain ⟨c, cs, hcs, hfirst⟩ := toDigits_eq_cons (Nat.pos_of_ne_zero hd)
  have hnone := lexExponent_of_endsNumber hrest
  have hends := hrest.endsDigits
  obtain ⟨lead, hlead⟩ : ∃ lead, ((cs.length + 1 : ℕ) : ℤ) - 1 + d.exponent = lead := ⟨_, rfl⟩
  simp only [Number.layout, hcs, List.length_cons, hlead]
  by_cases hrange : -5 ≤ lead ∧ lead < 16
  · rw [if_pos hrange]
    by_cases hinteger : 0 ≤ d.exponent
    · -- zeros fill up to the point, and one more is behind it
      rw [if_pos hinteger]
      have hcut : Cuts negative d _ rest := cuts_of_point hcs 0 (d.exponent.toNat + 1)
        (c :: (cs ++ List.replicate d.exponent.toNat '0')) ['0']
        (by simp [List.replicate_succ']) (isWhole_cons hfirst _) (List.cons_ne_nil _ _) hnone
        hends (by simp only [Literal.scale, List.length_singleton]; omega)
      simpa using hcut
    · rw [if_neg hinteger]
      by_cases hpoint : 0 ≤ lead
      · -- the point is among the digits
        rw [if_pos hpoint]
        have hcut : Cuts negative d _ rest := cuts_of_point hcs 0 0
          (c :: cs.take lead.toNat) (cs.drop lead.toNat) (by simp) (isWhole_cons hfirst _)
          (by rw [ne_eq, List.drop_eq_nil_iff]; omega) hnone hends
          (by simp only [Literal.scale, List.length_drop]; omega)
        simpa using hcut
      · -- zeros fill up from the point
        rw [if_neg hpoint]
        have hcut : Cuts negative d _ rest := cuts_of_point hcs ((-lead - 1).toNat + 1) 0
          ['0'] (List.replicate (-lead - 1).toNat '0' ++ c :: cs)
          (by simp [List.replicate_succ]) rfl (by simp) hnone hends (by
            simp only [Literal.scale, List.length_append, List.length_replicate, List.length_cons]
            omega)
        simpa using hcut
  · rw [if_neg hrange]
    exact cuts_scientific hcs hfirst hrest (by omega)

/-! ### Numbers -/

/-- Read a literal with its sign. -/
def lexLiteral : List Char → Option (Literal × List Char)
  | '-' :: cs => lexNumber true cs
  | cs => lexNumber false cs

theorem lexLiteral_of_lexNumber {cs : List Char} {r : Literal × List Char}
    (h : lexNumber false cs = some r) : lexLiteral cs = some r := by
  unfold lexLiteral
  split
  · next cs =>
      have hdigits : digits ('-' :: cs) = ([], '-' :: cs) := by
        rw [digits, List.takeWhile_cons_of_neg (by decide), List.dropWhile_cons_of_neg (by decide),
          List.map_nil]
      rw [lexNumber, hdigits] at h
      cases h
  · exact h

theorem lexLiteral_sign {negative : Bool} {cs : List Char} {r : Literal × List Char}
    (h : lexNumber negative cs = some r) :
    lexLiteral ((if negative then ['-'] else []) ++ cs) = some r := by
  cases negative with
  | true => exact h
  | false => exact lexLiteral_of_lexNumber h

/-- **The text of a number is a literal**, and all of it. -/
theorem lexLiteral_chars (n : Number) {rest : List Char} (hrest : EndsNumber rest) :
    ∃ l, lexLiteral (n.chars ++ rest) = some (l, rest) ∧ l.Writes n := by
  cases n with
  | integer v =>
    have hlex := lexLiteral_sign (lexNumber_toDigits (decide (v < 0)) v.natAbs hrest)
    simp only [decide_eq_true_eq] at hlex
    rw [← List.append_assoc] at hlex
    refine ⟨_, hlex, rfl, by simp [Literal.IsFractional], ?_⟩
    rw [Literal.digitsValue_map, Nat.ofDigitChars_ten_toDigits]
  | double x =>
    simp only [Number.chars, Number.doubleChars, List.append_assoc]
    by_cases hzero : x.isZero
    · have hzeros : ∀ c ∈ ['0'], c.isDigit := List.forall_mem_singleton.2 (by decide)
      have hlex := lexNumber_of_point hzeros rfl (lexExponent_of_endsNumber hrest) x.negative
        hzeros (List.cons_ne_nil _ _) hrest.endsDigits
      rw [if_pos hzero]
      refine ⟨_, lexLiteral_sign hlex, rfl, .inl (List.cons_ne_nil _ _), ?_⟩
      rw [Literal.value_mk, Double.shortest, if_pos hzero]
      simp [Decimal.value, Nat.ofDigitChars_eq_foldl]
    · rw [if_neg hzero]
      obtain ⟨l, hlex, hsign, hform, hvalue⟩ :=
        cuts_layout x.negative (Double.digits_shortest_ne_zero hzero) hrest
      exact ⟨l, lexLiteral_sign hlex, hsign, hform, hvalue⟩

/-- **The text of a number shows which number it is**, and where it ends. -/
theorem number_append_inj {n m : Number} {rest rest' : List Char} (hrest : EndsNumber rest)
    (hrest' : EndsNumber rest') (h : n.chars ++ rest = m.chars ++ rest') :
    n = m ∧ rest = rest' := by
  obtain ⟨l, hl, hn⟩ := lexLiteral_chars n hrest
  obtain ⟨l', hl', hm⟩ := lexLiteral_chars m hrest'
  rw [h, hl'] at hl
  cases hl
  exact ⟨hn.eq hm, rfl⟩

end Token

end Json

end Parley
