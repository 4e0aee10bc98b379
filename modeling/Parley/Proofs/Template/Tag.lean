import Mathlib.Data.List.TakeWhile
import Parley.Proofs.Template.Blank

/-!
# The grammar of tags

`Tag.Written` says how a tag may be written: with three braces, with two braces and an ampersand, or
with two braces alone, and with blanks wherever they may stand.

Reading is the converse of writing: `tag?` finds a tag at the beginning of a text just when the text
begins with a way of writing it (`tag?_eq_some_iff`).  A text begins with one tag at most, and shows
where it ends (`Tag.Written.eq_of_append_eq`).
-/

namespace Parley

namespace Template

/-! ### Ways of writing -/

/-- Blanks, or nothing. -/
def IsSpace (cs : List Char) : Prop := ∀ c ∈ cs, Text.isBlank c

instance (cs : List Char) : Decidable (IsSpace cs) := List.decidableBAll _ cs

/-- A path: word characters, dots and hyphens, at least one. -/
def IsPath (cs : List Char) : Prop := cs ≠ [] ∧ ∀ c ∈ cs, Text.isWord c ∨ c = '.' ∨ c = '-'

/-- The ways of writing a tag. -/
inductive Tag.Written : Tag → List Char → Prop
  /-- Three braces on either side. -/
  | triple {before path behind : List Char} (hbefore : IsSpace before) (hpath : IsPath path)
      (hbehind : IsSpace behind) :
      Written ⟨path, true⟩ (tripleOpen ++ (before ++ (path ++ (behind ++ tripleClose))))
  /-- Two braces, and an ampersand in front of the path. -/
  | ampersand {before between path behind : List Char} (hbefore : IsSpace before)
      (hbetween : IsSpace between) (hpath : IsPath path) (hbehind : IsSpace behind) :
      Written ⟨path, true⟩
        (doubleOpen ++ (before ++ '&' :: (between ++ (path ++ (behind ++ doubleClose)))))
  /-- Two braces alone. -/
  | double {before path behind : List Char} (hbefore : IsSpace before) (hpath : IsPath path)
      (hbehind : IsSpace behind) :
      Written ⟨path, false⟩ (doubleOpen ++ (before ++ (path ++ (behind ++ doubleClose))))

/-- A tag is written with two braces on either side, and without an ampersand. -/
def IsDouble (written : List Char) : Prop :=
  ∃ before path behind, IsSpace before ∧ IsPath path ∧ IsSpace behind ∧
    written = doubleOpen ++ (before ++ (path ++ (behind ++ doubleClose)))

/-! ### Blanks and paths -/

theorem isPathChar_iff {c : Char} : isPathChar c ↔ Text.isWord c ∨ c = '.' ∨ c = '-' := by
  simp [isPathChar, or_assoc]

instance (cs : List Char) : Decidable (IsPath cs) :=
  decidable_of_iff (cs ≠ [] ∧ cs.all isPathChar) (by simp [IsPath, isPathChar_iff])

theorem isPathChar_of_mem {path : List Char} (h : IsPath path) {c : Char} (hc : c ∈ path) :
    isPathChar c := isPathChar_iff.2 (h.2 c hc)

theorem IsPath.exists_cons {path : List Char} (h : IsPath path) :
    ∃ c cs, path = c :: cs ∧ isPathChar c := by
  obtain ⟨c, cs, rfl⟩ := List.exists_cons_of_ne_nil h.1
  exact ⟨c, cs, rfl, isPathChar_of_mem h List.mem_cons_self⟩

/-- **No blank is part of a path.** -/
theorem isPathChar_eq_false_of_isBlank {c : Char} (h : Text.isBlank c) : isPathChar c = false := by
  by_contra hpath
  rw [Bool.not_eq_false, isPathChar_iff, Text.isWord_eq_false_of_isBlank h] at hpath
  rcases hpath with hpath | rfl | rfl
  · cases hpath
  · exact absurd h (ne_true_of_eq_false (Text.isBlank_eq_false (by decide) (by decide)))
  · exact absurd h (ne_true_of_eq_false (Text.isBlank_eq_false (by decide) (by decide)))

/-- What does not begin with a blank. -/
def StartsPlain (cs : List Char) : Prop := ∀ c ∈ cs.head?, Text.isBlank c = false

theorem startsPlain_cons {c : Char} (h : Text.isBlank c = false) (cs : List Char) :
    StartsPlain (c :: cs) := by
  simpa [StartsPlain] using h

theorem startsPlain_path {path : List Char} (h : IsPath path) (rest : List Char) :
    StartsPlain (path ++ rest) := by
  obtain ⟨c, cs, rfl, hc⟩ := h.exists_cons
  refine startsPlain_cons ?_ _
  by_contra hblank
  rw [Bool.not_eq_false] at hblank
  rw [isPathChar_eq_false_of_isBlank hblank] at hc
  cases hc

theorem afterBlanks_append {blanks rest : List Char} (h : IsSpace blanks)
    (hrest : StartsPlain rest) : afterBlanks (blanks ++ rest) = rest := by
  rw [afterBlanks, List.dropWhile_append_of_pos h]
  cases rest with
  | nil => rfl
  | cons c cs => exact List.dropWhile_cons_of_neg (by simpa [StartsPlain] using hrest)

theorem exists_afterBlanks (cs : List Char) :
    ∃ blanks, IsSpace blanks ∧ cs = blanks ++ afterBlanks cs :=
  ⟨cs.takeWhile Text.isBlank, fun _ hc => List.mem_takeWhile_imp hc,
    List.takeWhile_append_dropWhile.symm⟩

/-! ### Reading the parts -/

theorem after?_eq_some_iff {expected cs rest : List Char} :
    after? expected cs = some rest ↔ cs = expected ++ rest := by
  induction expected generalizing cs with
  | nil => simp [after?]
  | cons e es ih =>
    cases cs with
    | nil => simp [after?]
    | cons c cs =>
      by_cases hc : e = c
      · simp [after?, hc, ih]
      · simp [after?, hc, Ne.symm hc]

theorem path?_append {path behind closing : List Char} (hpath : IsPath path)
    (hbehind : IsSpace behind) (hclosing : closing.head? = some '\x7d') :
    path? (path ++ (behind ++ closing)) = some (path, closing) := by
  obtain ⟨rest, rfl⟩ : ∃ rest, closing = '\x7d' :: rest := List.head?_eq_some_iff.1 hclosing
  have hall : ∀ c ∈ path, isPathChar c := fun c hc => isPathChar_of_mem hpath hc
  -- what comes behind the path ends it: a blank, or the brace
  obtain ⟨c, cs, hcs, hc⟩ :
      ∃ c cs, behind ++ '\x7d' :: rest = c :: cs ∧ isPathChar c = false := by
    cases behind with
    | nil => exact ⟨'\x7d', rest, rfl, by decide⟩
    | cons c cs =>
      exact ⟨c, _, rfl, isPathChar_eq_false_of_isBlank (hbehind c List.mem_cons_self)⟩
  have htake : (path ++ (behind ++ '\x7d' :: rest)).takeWhile isPathChar = path := by
    rw [List.takeWhile_append_of_pos hall, hcs, List.takeWhile_cons_of_neg (by simpa using hc),
      List.append_nil]
  have hdrop : (path ++ (behind ++ '\x7d' :: rest)).dropWhile isPathChar =
      behind ++ '\x7d' :: rest := by
    rw [List.dropWhile_append_of_pos hall, hcs, List.dropWhile_cons_of_neg (by simpa using hc)]
  have hne : path.isEmpty = false := by simpa using hpath.1
  have hbrace : Text.isBlank '\x7d' = false := Text.isBlank_eq_false (by decide) (by decide)
  rw [path?, htake, hdrop, hne, afterBlanks_append hbehind (startsPlain_cons hbrace rest)]
  rfl

theorem exists_of_path? {cs path rest : List Char} (h : path? cs = some (path, rest)) :
    IsPath path ∧ ∃ behind, IsSpace behind ∧ cs = path ++ (behind ++ rest) := by
  simp only [path?] at h
  split at h
  · cases h
  · next hne =>
    obtain ⟨rfl, rfl⟩ := Prod.mk.inj (Option.some.inj h)
    obtain ⟨behind, hbehind, hcs⟩ := exists_afterBlanks (cs.dropWhile isPathChar)
    refine ⟨⟨by simpa using hne, fun c hc => ?_⟩, behind, hbehind, ?_⟩
    · exact isPathChar_iff.1 (List.mem_takeWhile_imp hc)
    · rw [← hcs, List.takeWhile_append_dropWhile]

/-! ### Reading a tag -/

theorem exists_of_triple? {cs rest : List Char} {t : Tag} (h : triple? cs = some (t, rest)) :
    ∃ written, t.Written written ∧ cs = written ++ rest := by
  simp only [triple?, bind, pure, Option.bind_eq_some_iff, Prod.exists, Option.some.injEq,
    Prod.mk.injEq] at h
  obtain ⟨inner, hinner, path, closing, hpath, rest', hclosing, rfl, rfl⟩ := h
  obtain ⟨before, hbefore, hsplit⟩ := exists_afterBlanks inner
  obtain ⟨hpath, behind, hbehind, hsplit'⟩ := exists_of_path? hpath
  refine ⟨_, .triple hbefore hpath hbehind, ?_⟩
  rw [after?_eq_some_iff.1 hinner, hsplit, hsplit', after?_eq_some_iff.1 hclosing]
  simp only [List.append_assoc]

theorem afterAmpersand?_eq (cs : List Char) :
    (∃ more, cs = '&' :: more ∧ afterAmpersand? cs = some (afterBlanks more)) ∨
      afterAmpersand? cs = none := by
  unfold afterAmpersand?
  split
  · exact .inl ⟨_, rfl, rfl⟩
  · exact .inr rfl

theorem exists_of_double? {cs rest : List Char} {t : Tag} (h : double? cs = some (t, rest)) :
    ∃ written, t.Written written ∧ cs = written ++ rest := by
  simp only [double?, bind, pure, Option.bind_eq_some_iff, Prod.exists, Option.some.injEq,
    Prod.mk.injEq] at h
  obtain ⟨inner, hinner, path, closing, hread, rest', hclosing, rfl, rfl⟩ := h
  obtain ⟨before, hbefore, hsplit⟩ := exists_afterBlanks inner
  rcases afterAmpersand?_eq (afterBlanks inner) with ⟨more, hmore, hafter⟩ | hafter
  · obtain ⟨between, hbetween, hsplit'⟩ := exists_afterBlanks more
    rw [hafter, Option.getD_some] at hread
    obtain ⟨hpath, behind, hbehind, hsplit''⟩ := exists_of_path? hread
    rw [hafter, Option.isSome_some]
    refine ⟨_, .ampersand hbefore hbetween hpath hbehind, ?_⟩
    rw [after?_eq_some_iff.1 hinner, hsplit, hmore, hsplit', hsplit'',
      after?_eq_some_iff.1 hclosing]
    simp only [List.append_assoc, List.cons_append]
  · rw [hafter, Option.getD_none] at hread
    obtain ⟨hpath, behind, hbehind, hsplit'⟩ := exists_of_path? hread
    rw [hafter, Option.isSome_none]
    refine ⟨_, .double hbefore hpath hbehind, ?_⟩
    rw [after?_eq_some_iff.1 hinner, hsplit, hsplit', after?_eq_some_iff.1 hclosing]
    simp only [List.append_assoc]

theorem triple?_append {before path behind : List Char} (hbefore : IsSpace before)
    (hpath : IsPath path) (hbehind : IsSpace behind) (rest : List Char) :
    triple? (tripleOpen ++ (before ++ (path ++ (behind ++ tripleClose))) ++ rest) =
      some (⟨path, true⟩, rest) := by
  simp only [List.append_assoc, triple?, after?_eq_some_iff.2 rfl, bind, Option.bind_some]
  rw [afterBlanks_append hbefore (startsPlain_path hpath _), path?_append hpath hbehind rfl]
  simp only [Option.bind_some, after?_eq_some_iff.2 rfl]
  rfl

theorem afterAmpersand?_path {path : List Char} (h : IsPath path) (rest : List Char) :
    afterAmpersand? (path ++ rest) = none := by
  obtain ⟨c, cs, rfl, hc⟩ := h.exists_cons
  rcases afterAmpersand?_eq (c :: cs ++ rest) with ⟨more, hmore, -⟩ | hnone
  · rw [(List.cons.inj hmore).1] at hc
    exact absurd hc (by decide)
  · exact hnone

theorem double?_append {before path behind : List Char} (hbefore : IsSpace before)
    (hpath : IsPath path) (hbehind : IsSpace behind) (rest : List Char) :
    double? (doubleOpen ++ (before ++ (path ++ (behind ++ doubleClose))) ++ rest) =
      some (⟨path, false⟩, rest) := by
  simp only [List.append_assoc, double?, after?_eq_some_iff.2 rfl, bind, Option.bind_some]
  rw [afterBlanks_append hbefore (startsPlain_path hpath _), afterAmpersand?_path hpath,
    Option.getD_none, path?_append hpath hbehind rfl]
  simp only [Option.bind_some, after?_eq_some_iff.2 rfl]
  rfl

theorem double?_append_ampersand {before between path behind : List Char}
    (hbefore : IsSpace before) (hbetween : IsSpace between) (hpath : IsPath path)
    (hbehind : IsSpace behind) (rest : List Char) :
    double? (doubleOpen ++ (before ++ '&' :: (between ++ (path ++ (behind ++ doubleClose)))) ++
      rest) = some (⟨path, true⟩, rest) := by
  have hampersand : Text.isBlank '&' = false := Text.isBlank_eq_false (by decide) (by decide)
  simp only [List.append_assoc, List.cons_append, double?, after?_eq_some_iff.2 rfl, bind,
    Option.bind_some]
  rw [afterBlanks_append hbefore (startsPlain_cons hampersand _), afterAmpersand?,
    Option.getD_some, afterBlanks_append hbetween (startsPlain_path hpath _),
    path?_append hpath hbehind rfl]
  simp only [Option.bind_some, after?_eq_some_iff.2 rfl]
  rfl

theorem triple?_eq_none {before rest : List Char} (hbefore : IsSpace before)
    (hrest : rest.head? ≠ some '\x7b') : triple? (doubleOpen ++ (before ++ rest)) = none := by
  have hbrace : Text.isBlank '\x7b' = false := Text.isBlank_eq_false (by decide) (by decide)
  have hnone : after? tripleOpen (doubleOpen ++ (before ++ rest)) = none := by
    rw [Option.eq_none_iff_forall_not_mem]
    intro inner hinner
    have hsplit : before ++ rest = '\x7b' :: inner := by
      simpa [tripleOpen, doubleOpen] using after?_eq_some_iff.1 hinner
    cases before with
    | nil => exact hrest (congrArg List.head? hsplit)
    | cons c cs =>
      have hc := hbefore c List.mem_cons_self
      rw [(List.cons.inj hsplit).1, hbrace] at hc
      cases hc
  rw [triple?, hnone]
  rfl

theorem head?_path_ne {path : List Char} (h : IsPath path) (rest : List Char) :
    (path ++ rest).head? ≠ some '\x7b' := by
  obtain ⟨c, cs, rfl, hc⟩ := h.exists_cons
  intro hbrace
  rw [Option.some.inj hbrace] at hc
  exact absurd hc (by decide)

/-- **A tag is read where it is written**, and only there. -/
theorem tag?_eq_some_iff {cs rest : List Char} {t : Tag} :
    tag? cs = some (t, rest) ↔ ∃ written, t.Written written ∧ cs = written ++ rest := by
  constructor
  · intro h
    rw [tag?, Option.or_eq_some_iff] at h
    rcases h with h | ⟨-, h⟩
    · exact exists_of_triple? h
    · exact exists_of_double? h
  · rintro ⟨written, hwritten, rfl⟩
    cases hwritten with
    | triple hbefore hpath hbehind =>
      rw [tag?, triple?_append hbefore hpath hbehind, Option.some_or]
    | ampersand hbefore hbetween hpath hbehind =>
      rw [tag?, double?_append_ampersand hbefore hbetween hpath hbehind, List.append_assoc,
        List.append_assoc, triple?_eq_none hbefore (by simp), Option.none_or]
    | double hbefore hpath hbehind =>
      rw [tag?, double?_append hbefore hpath hbehind, List.append_assoc, List.append_assoc,
        List.append_assoc, triple?_eq_none hbefore (head?_path_ne hpath _), Option.none_or]

/-- **A text begins with one tag at most**, and shows where it ends. -/
theorem Tag.Written.eq_of_append_eq {t t' : Tag} {written written' rest rest' : List Char}
    (h : t.Written written) (h' : t'.Written written')
    (heq : written ++ rest = written' ++ rest') : t = t' ∧ written = written' ∧ rest = rest' := by
  have hread : tag? (written ++ rest) = some (t, rest) := tag?_eq_some_iff.2 ⟨written, h, rfl⟩
  rw [heq, tag?_eq_some_iff.2 ⟨written', h', rfl⟩] at hread
  obtain ⟨rfl, rfl⟩ := Prod.mk.inj (Option.some.inj hread)
  exact ⟨rfl, List.append_cancel_right heq, rfl⟩

theorem Tag.Written.raw_eq_false_iff {t : Tag} {written : List Char} (h : t.Written written) :
    t.raw = false ↔ IsDouble written := by
  constructor
  · intro hraw
    cases h with
    | triple | ampersand => cases hraw
    | double hbefore hpath hbehind => exact ⟨_, _, _, hbefore, hpath, hbehind, rfl⟩
  · rintro ⟨before, path, behind, hbefore, hpath, hbehind, rfl⟩
    obtain ⟨rfl, -, -⟩ := h.eq_of_append_eq (.double hbefore hpath hbehind)
      (rfl : _ ++ [] = _ ++ [])
    rfl

end Template

end Parley
