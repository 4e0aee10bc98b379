import Parley.Proofs.Template.Address
import Parley.Proofs.Template.Markup
import Parley.Proofs.Template.Value

/-!
# Rendering what has been rendered

What a tag stands for is not read for tags, but it is part of the text that is made, and may be read
when this text is rendered in its turn.  Then a tag is found in the text of a value, or is formed by
braces from several places, and it is filled in as any tag.

**Rendering again changes nothing just when the texts that were made are left by their own tags as
they are** (`renderValue_settles_iff`).  Under other variables this is so just when no tag begins in
them: without variables every tag gives way to nothing.  Where neither the text around the tags nor
the values that they stand for have an opening brace, there is nothing to begin a tag with.
-/

namespace Parley

namespace Template

variable {vars : Vars}

/-- A text that a string of the value is made into. -/
def Made (vars : Vars) (v : Json) (made : List Char) : Prop :=
  ∃ (template : String) (cut : Cut),
    v.HasText template ∧ cut.Of template.toList ∧ cut.filled vars = made

/-- Neither the text around the tags nor what they stand for has an opening brace. -/
structure Cut.Braceless (vars : Vars) (cut : Cut) : Prop where
  before : ∀ part ∈ cut.parts, '\x7b' ∉ part.before
  found : ∀ part ∈ cut.parts, '\x7b' ∉ (found part.tag.path vars).toList
  last : '\x7b' ∉ cut.last

/-! ### Texts that stay -/

theorem render_eq_self_iff {text : String} :
    render text vars = text ↔ ∀ cut : Cut, cut.Of text.toList → cut.filled vars = text.toList := by
  constructor
  · intro h cut hcut
    rw [hcut.render_eq] at h
    rw [← h, String.toList_ofList]
  · intro h
    obtain ⟨cut, hcut⟩ := Cut.exists_of text.toList
    rw [hcut.render_eq, h cut hcut, String.ofList_toList]

theorem text_nil (t : Tag) : t.text [] = [] := by
  have hnone : lookup t.path [] = none := by
    unfold lookup
    split
    · rw [Keyed.get?_nil, Option.bind_none, ite_self]
    · rfl
  rw [Tag.text, hnone]
  cases t.raw <;> rfl

namespace Cut

theorem Of.length_filled_nil_le {cut : Cut} {cs : List Char} (h : cut.Of cs) :
    (cut.filled []).length ≤ cs.length := by
  induction h with
  | last hnone => exact Nat.le_refl _
  | @tag before written rest t cut hfirst hwritten hrest ih =>
    have hfilled : filled [] ⟨⟨before, written, t⟩ :: cut.parts, cut.last⟩ =
        before ++ cut.filled [] := by
      simp [filled, text_nil]
    rw [hfilled]
    simp only [List.length_append]
    omega

/-- A tag takes up room: without variables the text gets shorter, if there is one. -/
theorem Of.not_begins_of_filled_nil {cut : Cut} {cs : List Char} (h : cut.Of cs)
    (hfilled : cut.filled [] = cs) : ∀ k, ¬ Begins (cs.drop k) := by
  cases h with
  | last hnone => exact hnone
  | @tag before written rest t cut hfirst hwritten hrest =>
    have hle := hrest.length_filled_nil_le
    have hpos : 0 < written.length := by cases hwritten <;> simp [tripleOpen, doubleOpen]
    have hlength := congrArg List.length hfilled
    simp only [filled, List.flatMap_cons, text_nil, List.length_append, List.length_nil]
      at hlength hle
    omega

end Cut

theorem forall_render_eq_self_iff {text : String} :
    (∀ vars, render text vars = text) ↔ ∀ k, ¬ Begins (text.toList.drop k) := by
  constructor
  · intro h
    obtain ⟨cut, hcut⟩ := Cut.exists_of text.toList
    exact hcut.not_begins_of_filled_nil (render_eq_self_iff.1 (h []) cut hcut)
  · intro h vars
    rw [(Cut.Of.last h).render_eq]
    exact String.ofList_toList

/-! ### Opening braces -/

theorem brace_not_mem_escape {text : List Char} (h : '\x7b' ∉ text) : '\x7b' ∉ escape text := by
  have hentities : ∀ e ∈ entities, '\x7b' ∉ e.1 := by decide
  intro hmem
  obtain ⟨c, hc, hbrace⟩ := List.mem_flatMap.1 hmem
  by_cases hmarkup : c ∈ '&' :: markup
  · obtain ⟨e, he, rfl⟩ := exists_mem_entities hmarkup
    rw [entity_of_mem he] at hbrace
    exact hentities e he hbrace
  · rw [entity_of_not_mem hmarkup, List.mem_singleton] at hbrace
    exact h (hbrace ▸ hc)

theorem brace_not_mem_text {t : Tag} (h : '\x7b' ∉ (found t.path vars).toList) :
    '\x7b' ∉ t.text vars := by
  cases hraw : t.raw with
  | false =>
    rw [text_of_raw_eq_false hraw]
    exact brace_not_mem_escape h
  | true =>
    rw [Tag.text, hraw]
    exact h

theorem Cut.Braceless.not_begins {cut : Cut} (h : cut.Braceless vars) (k : ℕ) :
    ¬ Begins ((cut.filled vars).drop k) := by
  have hmem : '\x7b' ∉ cut.filled vars := by
    simp only [filled, List.mem_append, List.mem_flatMap, not_or, not_exists, not_and]
    exact ⟨fun part hpart => ⟨h.before part hpart, brace_not_mem_text (h.found part hpart)⟩, h.last⟩
  intro hbegins
  exact hmem (List.mem_of_mem_drop (List.mem_of_mem_head? (head?_of_begins hbegins)))

/-! ### Values -/

theorem hasText_renderValue_iff_made {v : Json} {text : String} :
    (renderValue vars v).HasText text ↔ Made vars v text.toList := by
  rw [hasText_renderValue_iff]
  constructor
  · rintro ⟨template, htemplate, rfl⟩
    obtain ⟨cut, hcut⟩ := Cut.exists_of template.toList
    exact ⟨template, cut, htemplate, hcut, by rw [hcut.render_eq, String.toList_ofList]⟩
  · rintro ⟨template, cut, htemplate, hcut, hmade⟩
    exact ⟨template, htemplate, by rw [hcut.render_eq, hmade, String.ofList_toList]⟩

/-- What holds of all strings of a rendered value holds of all texts that are made. -/
theorem forall_hasText_renderValue_iff {v : Json} {P : List Char → Prop} :
    (∀ text, (renderValue vars v).HasText text → P text.toList) ↔
      ∀ made, Made vars v made → P made := by
  constructor
  · intro h made hmade
    have htext := h (String.ofList made)
    rw [hasText_renderValue_iff_made, String.toList_ofList] at htext
    exact htext hmade
  · intro h text htext
    exact h text.toList (hasText_renderValue_iff_made.1 htext)

/-- **A rendered value stays as it is when it is rendered again just when every text in it is one
that its own tags leave as it is.**  It stays as it is under all variables just when there are no
tags in it, and there are none if no opening brace comes from outside the tags or from a value. -/
theorem renderValue_settles_iff (vars : Vars) (v : Json) :
    (renderValue vars (renderValue vars v) = renderValue vars v ↔
      ∀ made, Made vars v made → ∀ cut : Cut, cut.Of made → cut.filled vars = made) ∧
    ((∀ later, renderValue later (renderValue vars v) = renderValue vars v) ↔
      ∀ made, Made vars v made → ∀ k, ¬ Begins (made.drop k)) ∧
    ((∀ template, v.HasText template → ∀ cut : Cut, cut.Of template.toList → cut.Braceless vars) →
      ∀ later, renderValue later (renderValue vars v) = renderValue vars v) := by
  have hlater : (∀ later, renderValue later (renderValue vars v) = renderValue vars v) ↔
      ∀ made, Made vars v made → ∀ k, ¬ Begins (made.drop k) := by
    rw [← forall_hasText_renderValue_iff]
    simp only [renderValue_eq_self_iff, ← forall_render_eq_self_iff]
    exact ⟨fun h text htext later => h later text htext,
      fun h later text htext => h text htext later⟩
  refine ⟨?_, hlater, fun hbraceless => hlater.2 ?_⟩
  · rw [renderValue_eq_self_iff, ← forall_hasText_renderValue_iff]
    simp only [render_eq_self_iff]
  · rintro made ⟨template, cut, htemplate, hcut, rfl⟩
    exact (hbraceless template htemplate cut hcut).not_begins

/-- A greeting for somebody whose name has no braces is safe to render again, and again. -/
theorem renderValue_settles_iff_greeting :
    (∀ template, (Json.array [.string "Hi \x7b\x7bvars.name\x7d\x7d!"]).HasText template →
      ∀ cut : Cut, cut.Of template.toList → cut.Braceless [("name", .string "Ann")]) ∧
    ∀ later, renderValue later (renderValue [("name", .string "Ann")]
        (.array [.string "Hi \x7b\x7bvars.name\x7d\x7d!"])) =
      renderValue [("name", .string "Ann")] (.array [.string "Hi \x7b\x7bvars.name\x7d\x7d!"]) := by
  have hnothing : IsSpace [] := by decide
  have hwritten : namePart.tag.Written namePart.written :=
    .double hnothing (by decide) hnothing
  have hgreeting : Cut.Of ⟨[namePart], "!".toList⟩ "Hi \x7b\x7bvars.name\x7d\x7d!".toList :=
    Cut.of_single hwritten (by decide) (by decide)
  have hbraceless : ∀ template,
      (Json.array [.string "Hi \x7b\x7bvars.name\x7d\x7d!"]).HasText template →
        ∀ cut : Cut, cut.Of template.toList → cut.Braceless [("name", .string "Ann")] := by
    intro template htemplate cut hcut
    cases htemplate with
    | item hitem htext =>
      obtain rfl := List.mem_singleton.1 hitem
      cases htext
      obtain rfl := hgreeting.unique hcut
      exact ⟨by decide, by decide, by decide⟩
  exact ⟨hbraceless, (renderValue_settles_iff _ _).2.2 hbraceless⟩

/-- Somebody is called by the name of a place. -/
def placeVars : Vars :=
  [("city", .string "Rome"), ("name", .string "\x7b\x7bvars.city\x7d\x7d")]

/-- **Rendering is not idempotent**: a tag that comes in with a value is filled in the second
time. -/
theorem renderValue_not_idempotent :
    ¬ ∀ (vars : Vars) (v : Json),
      renderValue vars (renderValue vars v) = renderValue vars v := by
  intro h
  have hnothing : IsSpace [] := by decide
  have hname : render "\x7b\x7bvars.name\x7d\x7d" placeVars = "\x7b\x7bvars.city\x7d\x7d" :=
    (@render_single ⟨"vars.name".toList, false⟩ _ [] [] (.double hnothing (by decide) hnothing)
      (by decide) (by decide) placeVars).trans (by decide)
  have hcity : render "\x7b\x7bvars.city\x7d\x7d" placeVars = "Rome" :=
    (@render_single ⟨"vars.city".toList, false⟩ _ [] [] (.double hnothing (by decide) hnothing)
      (by decide) (by decide) placeVars).trans (by decide)
  have hagain := h placeVars (.string "\x7b\x7bvars.name\x7d\x7d")
  rw [renderValue, hname, renderValue, hcity] at hagain
  exact absurd (Json.string.inj hagain) (by decide)

end Template

end Parley
