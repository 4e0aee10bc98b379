import Parley.Proofs.Template.Tag

/-!
# Rendering in one pass

A template is taken apart into its tags and the texts between them: a `Cut`.  Each tag of it begins
at the first place behind the tag before it where any tag begins, and no tag begins behind the last
(`Cut.Of`).

**There is one such cut of every template, and rendering fills it in** (`render_fills_cut`): every
tag gives way to what its path leads to (`Part.GivesWay`), and all other text stays.  Almost tags
and lone braces are part of that other text.  As the cut is that of the template, what takes the
place of a tag is never read for tags, whatever it is.
-/

namespace Parley

namespace Template

/-- A tag begins where the text begins. -/
def Begins (cs : List Char) : Prop :=
  ∃ (t : Tag) (written rest : List Char), t.Written written ∧ cs = written ++ rest

/-- A tag of a template, the way it is written there, and the text in front of it. -/
structure Part where
  before : List Char
  written : List Char
  tag : Tag
deriving DecidableEq, Repr

/-- What takes the place of a tag: the text of the value that its path leads to, or nothing if the
path leads nowhere.  In the place of a tag with two braces and without an ampersand, the characters
of markup are written as entities. -/
structure Part.GivesWay (vars : Vars) (part : Part) (text : List Char) : Prop where
  unknown : lookup part.tag.path vars = none → text = []
  escaped : ∀ v, lookup part.tag.path vars = some v → IsDouble part.written →
    text = escape v.toText.toList
  raw : ∀ v, lookup part.tag.path vars = some v → ¬IsDouble part.written → text = v.toText.toList

/-- A template taken apart: its tags, and the text behind the last of them. -/
structure Cut where
  parts : List Part
  last : List Char
deriving DecidableEq, Repr

namespace Cut

/-- What has been taken apart. -/
def text (cut : Cut) : List Char :=
  cut.parts.flatMap (fun part => part.before ++ part.written) ++ cut.last

/-- Every tag replaced by what it stands for. -/
def filled (vars : Vars) (cut : Cut) : List Char :=
  cut.parts.flatMap (fun part => part.before ++ part.tag.text vars) ++ cut.last

/-- The cuts of a text: tags are taken where the first one begins. -/
inductive Of : Cut → List Char → Prop
  /-- No tag begins anywhere. -/
  | last {cs : List Char} (hnone : ∀ k, ¬ Begins (cs.drop k)) : Of ⟨[], cs⟩ cs
  /-- A tag begins behind the text `before`, and none begins in it. -/
  | tag {before written rest : List Char} {t : Tag} {cut : Cut}
      (hfirst : ∀ k < before.length, ¬ Begins ((before ++ (written ++ rest)).drop k))
      (hwritten : t.Written written) (hrest : cut.Of rest) :
      Of ⟨⟨before, written, t⟩ :: cut.parts, cut.last⟩ (before ++ (written ++ rest))

end Cut

/-! ### Where tags begin -/

theorem begins_iff {cs : List Char} : Begins cs ↔ ∃ t rest, tag? cs = some (t, rest) := by
  constructor
  · rintro ⟨t, written, rest, hwritten, hcs⟩
    exact ⟨t, rest, tag?_eq_some_iff.2 ⟨written, hwritten, hcs⟩⟩
  · rintro ⟨t, rest, h⟩
    obtain ⟨written, hwritten, hcs⟩ := tag?_eq_some_iff.1 h
    exact ⟨t, written, rest, hwritten, hcs⟩

theorem tag?_eq_none_iff {cs : List Char} : tag? cs = none ↔ ¬ Begins cs := by
  rw [begins_iff]
  cases h : tag? cs with
  | none => simp
  | some found => simpa using ⟨found.1, found.2, rfl⟩

theorem not_begins_nil : ¬ Begins [] := tag?_eq_none_iff.1 rfl

theorem begins_drop {t : Tag} {written : List Char} (h : t.Written written)
    (before rest : List Char) : Begins ((before ++ (written ++ rest)).drop before.length) :=
  ⟨t, written, rest, h, List.drop_left⟩

theorem head?_of_begins {cs : List Char} (h : Begins cs) : cs.head? = some '\x7b' := by
  obtain ⟨t, written, rest, hwritten, rfl⟩ := h
  cases hwritten <;> rfl

theorem not_begins_drop {cs : List Char} (h : '\x7b' ∉ cs) (rest : List Char) {k : ℕ}
    (hk : k < cs.length) : ¬ Begins ((cs ++ rest).drop k) := by
  intro hbegins
  have hhead := head?_of_begins hbegins
  rw [List.head?_drop, List.getElem?_append_left hk] at hhead
  exact h (List.mem_of_getElem? hhead)

/-! ### Pieces -/

theorem pieces_of_tag {cs rest : List Char} {t : Tag} (h : tag? cs = some (t, rest)) :
    pieces cs = .tag t :: pieces rest := by
  cases cs with
  | nil => cases h
  | cons c cs =>
    rw [pieces]
    split
    · next found => rw [found] at h; cases h; rfl
    · next none => rw [none] at h; cases h

theorem pieces_cons {c : Char} {cs : List Char} (h : ¬ Begins (c :: cs)) :
    pieces (c :: cs) = .char c :: pieces cs := by
  rw [← tag?_eq_none_iff] at h
  rw [pieces]
  split
  · next found => rw [found] at h; cases h
  · rfl

theorem pieces_append {before rest : List Char}
    (h : ∀ k < before.length, ¬ Begins ((before ++ rest).drop k)) :
    pieces (before ++ rest) = before.map .char ++ pieces rest := by
  induction before with
  | nil => rfl
  | cons c before ih =>
    have hfirst : ¬ Begins (c :: (before ++ rest)) := h 0 (Nat.succ_pos _)
    have hmore : ∀ k < before.length, ¬ Begins ((before ++ rest).drop k) :=
      fun k hk => h (k + 1) (Nat.succ_lt_succ hk)
    rw [List.cons_append, pieces_cons hfirst, ih hmore, List.map_cons, List.cons_append]

theorem flatMap_text_chars (vars : Vars) (cs : List Char) :
    (cs.map Piece.char).flatMap (Piece.text vars) = cs := by
  rw [List.flatMap_map]
  exact List.flatMap_singleton' cs

namespace Cut

/-! ### Every text has one cut -/

theorem Of.written {cut : Cut} {cs : List Char} (h : cut.Of cs) :
    ∀ part ∈ cut.parts, part.tag.Written part.written := by
  induction h with
  | last => exact nofun
  | tag _ hwritten _ ih => exact List.forall_mem_cons.2 ⟨hwritten, ih⟩

theorem Of.text_eq {cut : Cut} {cs : List Char} (h : cut.Of cs) : cut.text = cs := by
  induction h with
  | last hnone => rfl
  | tag hfirst hwritten hrest ih => rw [← ih]; simp [text]

theorem Of.exists_cons {cut : Cut} {cs : List Char} (h : cut.Of cs) {c : Char}
    (hc : ¬ Begins (c :: cs)) : ∃ cut' : Cut, cut'.Of (c :: cs) := by
  cases h with
  | last hnone =>
    refine ⟨_, .last fun k => ?_⟩
    cases k with
    | zero => exact hc
    | succ k => exact hnone k
  | @tag before written rest t cut hfirst hwritten hrest =>
    have hfirst' : ∀ k < (c :: before).length,
        ¬ Begins ((c :: before ++ (written ++ rest)).drop k) := by
      intro k hk
      cases k with
      | zero => exact hc
      | succ k => exact hfirst k (Nat.lt_of_succ_lt_succ hk)
    exact ⟨_, .tag hfirst' hwritten hrest⟩

theorem exists_of (cs : List Char) : ∃ cut : Cut, cut.Of cs := by
  induction cs using pieces.induct with
  | case1 => exact ⟨_, .last fun k => by simpa using not_begins_nil⟩
  | case2 c cs t rest h _ ih =>
    obtain ⟨cut, hcut⟩ := ih
    obtain ⟨written, hwritten, hcs⟩ := tag?_eq_some_iff.1 h
    have hfirst : ∀ k < ([] : List Char).length, ¬ Begins (([] ++ (written ++ rest)).drop k) :=
      fun k hk => absurd hk (Nat.not_lt_zero k)
    rw [hcs]
    exact ⟨_, .tag hfirst hwritten hcut⟩
  | case3 c cs h ih =>
    obtain ⟨cut, hcut⟩ := ih
    exact hcut.exists_cons (tag?_eq_none_iff.1 h)

/-- Of two cuts neither has its first tag further in front. -/
theorem length_le_of_append_eq {before before' written written' rest rest' : List Char} {t : Tag}
    (hwritten : t.Written written)
    (hfirst : ∀ k < before'.length, ¬ Begins ((before' ++ (written' ++ rest')).drop k))
    (heq : before ++ (written ++ rest) = before' ++ (written' ++ rest')) :
    before'.length ≤ before.length := by
  by_contra hlt
  refine hfirst before.length (Nat.lt_of_not_le hlt) ?_
  rw [← heq]
  exact begins_drop hwritten before rest

/-- **A text has one cut at most.** -/
theorem Of.unique {cut cut' : Cut} {cs : List Char} (h : cut.Of cs) (h' : cut'.Of cs) :
    cut' = cut := by
  induction h generalizing cut' with
  | last hnone =>
    cases h' with
    | last => rfl
    | tag _ hwritten _ => exact absurd (begins_drop hwritten _ _) (hnone _)
  | @tag before written rest t cut hfirst hwritten hrest ih =>
    generalize heq : before ++ (written ++ rest) = cs at h'
    cases h' with
    | last hnone =>
      subst heq
      exact absurd (begins_drop hwritten _ _) (hnone _)
    | @tag before' written' rest' t' cut' hfirst' hwritten' hrest' =>
      have hle := length_le_of_append_eq hwritten hfirst' heq
      have hge := length_le_of_append_eq hwritten' hfirst heq.symm
      obtain ⟨rfl, hbehind⟩ := List.append_inj heq (Nat.le_antisymm hge hle)
      obtain ⟨rfl, rfl, rfl⟩ := hwritten.eq_of_append_eq hwritten' hbehind
      rw [ih hrest']

theorem of_single {t : Tag} {written front back : List Char} (hwritten : t.Written written)
    (hfront : '\x7b' ∉ front) (hback : '\x7b' ∉ back) :
    Of ⟨[⟨front, written, t⟩], back⟩ (front ++ (written ++ back)) := by
  have hlast : Of ⟨[], back⟩ back := by
    refine .last fun k => ?_
    rcases Nat.lt_or_ge k back.length with hk | hk
    · simpa using not_begins_drop hback [] hk
    · rw [List.drop_eq_nil_of_le hk]
      exact not_begins_nil
  exact .tag (fun k hk => not_begins_drop hfront _ hk) hwritten hlast

/-! ### Filling in -/

theorem Of.flatMap_pieces {cut : Cut} {cs : List Char} (h : cut.Of cs) (vars : Vars) :
    (pieces cs).flatMap (Piece.text vars) = cut.filled vars := by
  induction h with
  | @last cs hnone =>
    have hpieces : pieces cs = cs.map .char := by
      simpa [pieces] using @pieces_append cs [] fun k _ => by simpa using hnone k
    rw [hpieces, flatMap_text_chars]
    rfl
  | @tag before written rest t cut hfirst hwritten hrest ih =>
    have hread : tag? (written ++ rest) = some (t, rest) := tag?_eq_some_iff.2 ⟨_, hwritten, rfl⟩
    rw [pieces_append hfirst, pieces_of_tag hread, List.flatMap_append, flatMap_text_chars,
      List.flatMap_cons, ih]
    simp [filled, Piece.text]

/-- What is filled in is the cut. -/
theorem Of.render_eq {cut : Cut} {template : String} (h : cut.Of template.toList) (vars : Vars) :
    render template vars = String.ofList (cut.filled vars) := by
  rw [render, h.flatMap_pieces]

end Cut

theorem Part.givesWay {part : Part} (h : part.tag.Written part.written) (vars : Vars) :
    part.GivesWay vars (part.tag.text vars) := by
  refine ⟨fun hnone => ?_, fun v hv hdouble => ?_, fun v hv hdouble => ?_⟩
  · rw [Tag.text, hnone]
    cases part.tag.raw <;> rfl
  · rw [Tag.text, hv, h.raw_eq_false_iff.2 hdouble]
    rfl
  · have hraw : part.tag.raw = true := by
      rw [← Bool.not_eq_false, h.raw_eq_false_iff]
      exact hdouble
    rw [Tag.text, hv, hraw]
    rfl

/-- **A template has one cut, and rendering fills it in**, whatever the variables are: each tag of
it gives way to the text of what its path leads to. -/
theorem render_fills_cut (template : String) :
    ∃ cut : Cut, cut.Of template.toList ∧
      (∀ other : Cut, other.Of template.toList → other = cut) ∧
        cut.text = template.toList ∧
          ∀ vars, ∃ fill : Part → List Char,
            (∀ part ∈ cut.parts, part.GivesWay vars (fill part)) ∧
              render template vars = String.ofList
                (cut.parts.flatMap (fun part => part.before ++ fill part) ++ cut.last) := by
  obtain ⟨cut, hcut⟩ := Cut.exists_of template.toList
  refine ⟨cut, hcut, fun _ hother => hcut.unique hother, hcut.text_eq, fun vars => ?_⟩
  have hgives (part : Part) (hpart : part ∈ cut.parts) : part.GivesWay vars (part.tag.text vars) :=
    Part.givesWay (hcut.written part hpart) vars
  exact ⟨fun part => part.tag.text vars, hgives, hcut.render_eq vars⟩

end Template

end Parley
