import Parley.Proofs.Template.Cut

/-!
# Escaped text

What an escaped tag puts into a text is inert: the characters that mean something in markup are
gone, and an ampersand only begins one of the eight entities they are written as.

Nothing is lost by it.  `decode` reads entities back, so that the text of the value is known from
what stands for it (`decode_escape`), also where that text looked like an entity before.

**Both hold of what a rendered template has in the place of an escaped tag**, whatever the value is
(`escaped_tag_is_inert`).
-/

namespace Parley

namespace Template

/-! ### Entities -/

/-- The entities, and the characters they stand for. -/
def entities : List (List Char × Char) :=
  [("&amp;".toList, '&'), ("&lt;".toList, '<'), ("&gt;".toList, '>'), ("&quot;".toList, '"'),
    ("&#39;".toList, '\''), ("&#x2F;".toList, '/'), ("&#x60;".toList, '\x60'),
    ("&#x3D;".toList, '=')]

/-- The characters that open or close something in markup, or an attribute of it. -/
def markup : List Char := ['<', '>', '"', '\'', '/', '\x60', '=']

/-- Text without markup: none of its characters, and ampersands only where an entity begins. -/
structure Inert (text : List Char) : Prop where
  plain : ∀ c ∈ text, c ∉ markup
  entity : ∀ rest, '&' :: rest <:+ text → ∃ e ∈ entities, e.1 <+: '&' :: rest

/-- An entity at the beginning, and what follows it. -/
def entityAt? (cs : List Char) : Option (Char × List Char) :=
  entities.findSome? fun e => (after? e.1 cs).map fun rest => (e.2, rest)

theorem length_lt_of_entityAt? {cs rest : List Char} {c : Char}
    (h : entityAt? cs = some (c, rest)) : rest.length < cs.length := by
  obtain ⟨e, he, hfound⟩ := List.exists_of_findSome?_eq_some h
  obtain ⟨rest', hafter, hrest⟩ := Option.map_eq_some_iff.1 hfound
  obtain ⟨-, rfl⟩ := Prod.mk.inj hrest
  have hlength := length_of_after? hafter
  have hpos : ∀ e ∈ entities, 0 < e.1.length := by decide
  have := hpos e he
  omega

/-- Read entities as the characters they stand for. -/
def decode (cs : List Char) : List Char :=
  match cs with
  | [] => []
  | c :: rest =>
    match h : entityAt? (c :: rest) with
    | some (meant, behind) =>
      have := length_lt_of_entityAt? h
      meant :: decode behind
    | none => c :: decode rest
termination_by cs.length
decreasing_by
  · exact length_lt_of_entityAt? h
  · exact Nat.lt_succ_self rest.length

theorem decode_of_entityAt? {cs rest : List Char} {c : Char}
    (h : entityAt? cs = some (c, rest)) : decode cs = c :: decode rest := by
  cases cs with
  | nil => cases h
  | cons d cs =>
    rw [decode]
    split
    · next found => rw [found] at h; cases h; rfl
    · next none => rw [none] at h; cases h

theorem decode_cons {c : Char} {cs : List Char} (h : entityAt? (c :: cs) = none) :
    decode (c :: cs) = c :: decode cs := by
  rw [decode]
  split
  · next found => rw [found] at h; cases h
  · rfl

/-! ### What is written for a character -/

theorem entity_of_mem {e : List Char × Char} (he : e ∈ entities) : entity e.2 = e.1 := by
  have hall : ∀ e ∈ entities, entity e.2 = e.1 := by decide
  exact hall e he

theorem exists_mem_entities {c : Char} (h : c ∈ '&' :: markup) : ∃ e ∈ entities, e.2 = c := by
  have hchars : entities.map Prod.snd = '&' :: markup := rfl
  rw [← hchars] at h
  exact List.mem_map.1 h

theorem entity_of_not_mem {c : Char} (h : c ∉ '&' :: markup) : entity c = [c] := by
  unfold entity
  split
  case h_9 => rfl
  all_goals exact absurd (by decide) h

/-- No entity is the beginning of another. -/
theorem entityAt?_append {e : List Char × Char} (he : e ∈ entities) (rest : List Char) :
    entityAt? (e.1 ++ rest) = some (e.2, rest) := by
  simp only [entities, List.mem_cons, List.not_mem_nil, or_false] at he
  rcases he with rfl | rfl | rfl | rfl | rfl | rfl | rfl | rfl <;>
    simp [entityAt?, entities, after?]

theorem entityAt?_cons {c : Char} (hc : c ≠ '&') (cs : List Char) :
    entityAt? (c :: cs) = none := by
  simp [entityAt?, entities, after?, hc.symm]

/-! ### Escaping a text -/

theorem escape_cons (c : Char) (cs : List Char) : escape (c :: cs) = entity c ++ escape cs :=
  List.flatMap_cons

/-- **Nothing is lost by escaping.** -/
theorem decode_escape (text : List Char) : decode (escape text) = text := by
  induction text with
  | nil => rw [escape, List.flatMap_nil, decode]
  | cons c text ih =>
    rw [escape_cons]
    by_cases hc : c ∈ '&' :: markup
    · obtain ⟨e, he, rfl⟩ := exists_mem_entities hc
      rw [entity_of_mem he, decode_of_entityAt? (entityAt?_append he _), ih]
    · have hne : c ≠ '&' := fun h => hc (h ▸ List.mem_cons_self)
      rw [entity_of_not_mem hc, List.singleton_append, decode_cons (entityAt?_cons hne _), ih]

theorem escape_injective : Function.Injective escape :=
  Function.LeftInverse.injective decode_escape

theorem inert_nil : Inert [] where
  plain _ hc := absurd hc List.not_mem_nil
  entity _ h := absurd (List.suffix_nil.1 h) (List.cons_ne_nil _ _)

theorem Inert.cons {c : Char} {text : List Char} (h : Inert text) (hc : c ∉ markup)
    (hentity : c = '&' → ∃ e ∈ entities, e.1 <+: c :: text) : Inert (c :: text) where
  plain := List.forall_mem_cons.2 ⟨hc, h.plain⟩
  entity rest hrest := by
    rcases List.suffix_cons_iff.1 hrest with heq | hrest
    · obtain ⟨rfl, rfl⟩ := List.cons.inj heq
      exact hentity rfl
    · exact h.entity rest hrest

theorem Inert.append {text : List Char} (h : Inert text) {front : List Char}
    (hfront : ∀ c ∈ front, c ∉ '&' :: markup) : Inert (front ++ text) := by
  induction front with
  | nil => exact h
  | cons c front ih =>
    obtain ⟨hc, hfront⟩ := List.forall_mem_cons.1 hfront
    exact (ih hfront).cons (fun hmem => hc (List.mem_cons_of_mem _ hmem))
      fun hampersand => absurd (hampersand ▸ List.mem_cons_self) hc

theorem Inert.entity_append {text : List Char} (h : Inert text) {e : List Char × Char}
    (he : e ∈ entities) : Inert (e.1 ++ text) := by
  -- the only ampersand of an entity is its first character
  have hall : ∀ e ∈ entities, e.1.head? = some '&' ∧ e.1.tail.all (· ∉ '&' :: markup) := by
    decide
  obtain ⟨hhead, htail⟩ := hall e he
  have htail : ∀ c ∈ e.1.tail, c ∉ '&' :: markup := by simpa using htail
  have hform : e.1 = '&' :: e.1.tail := List.eq_cons_of_mem_head? hhead
  rw [hform, List.cons_append]
  refine (h.append htail).cons (by decide) fun _ => ⟨e, he, ?_⟩
  rw [← List.cons_append, ← hform]
  exact List.prefix_append _ _

/-- **Escaped text is inert.** -/
theorem inert_escape (text : List Char) : Inert (escape text) := by
  induction text with
  | nil => exact inert_nil
  | cons c text ih =>
    rw [escape_cons]
    by_cases hc : c ∈ '&' :: markup
    · obtain ⟨e, he, rfl⟩ := exists_mem_entities hc
      rw [entity_of_mem he]
      exact ih.entity_append he
    · rw [entity_of_not_mem hc]
      exact ih.append (List.forall_mem_singleton.2 hc)

/-! ### Escaped tags -/

/-- The text that a path leads to: that of the value found there, or none. -/
def found (path : List Char) (vars : Vars) : String :=
  ((lookup path vars).map Json.toText).getD ""

theorem text_of_raw_eq_false {t : Tag} (h : t.raw = false) (vars : Vars) :
    t.text vars = escape (found t.path vars).toList := by
  rw [Tag.text, h]
  rfl

/-- **What a template has in the place of an escaped tag is inert, and tells the text of the value**
that the path of the tag leads to: other texts are never shown alike. -/
theorem escaped_tag_is_inert {template : String} {front back : List Part} {part : Part}
    {last : List Char} (hcut : Cut.Of ⟨front ++ part :: back, last⟩ template.toList)
    (hescaped : part.tag.raw = false) (vars : Vars) :
    render template vars = String.ofList
      (Cut.filled vars ⟨front, part.before⟩ ++ part.tag.text vars ++
        Cut.filled vars ⟨back, last⟩) ∧
      Inert (part.tag.text vars) ∧
        decode (part.tag.text vars) = (found part.tag.path vars).toList ∧
          ∀ vars', part.tag.text vars' = part.tag.text vars →
            found part.tag.path vars' = found part.tag.path vars := by
  refine ⟨?_, ?_, ?_, fun vars' h => ?_⟩
  · rw [hcut.render_eq]
    simp [Cut.filled]
  · rw [text_of_raw_eq_false hescaped]
    exact inert_escape _
  · rw [text_of_raw_eq_false hescaped, decode_escape]
  · rw [text_of_raw_eq_false hescaped, text_of_raw_eq_false hescaped] at h
    exact String.toList_inj.1 (escape_injective h)

/-- The only part of a greeting. -/
def namePart : Part where
  before := "Hi ".toList
  written := "\x7b\x7bvars.name\x7d\x7d".toList
  tag := ⟨"vars.name".toList, false⟩

theorem escaped_tag_is_inert_greeting :
    Cut.Of ⟨[namePart], "!".toList⟩ "Hi \x7b\x7bvars.name\x7d\x7d!".toList ∧
      namePart.tag.raw = false ∧
        render "Hi \x7b\x7bvars.name\x7d\x7d!" [("name", .string "<&lt;")] =
          "Hi &lt;&amp;lt;!" ∧
          Inert "&lt;&amp;lt;".toList ∧ decode "&lt;&amp;lt;".toList = "<&lt;".toList := by
  have hpath : IsPath "vars.name".toList := by decide
  have hnothing : IsSpace [] := by decide
  have hwritten : namePart.tag.Written namePart.written := .double hnothing hpath hnothing
  have hcut : Cut.Of ⟨[] ++ namePart :: [], "!".toList⟩ "Hi \x7b\x7bvars.name\x7d\x7d!".toList :=
    Cut.of_single hwritten (by decide) (by decide)
  have htext : namePart.tag.text [("name", .string "<&lt;")] = "&lt;&amp;lt;".toList := by decide
  obtain ⟨hrender, hinert, hdecode, -⟩ :=
    escaped_tag_is_inert hcut rfl [("name", .string "<&lt;")]
  rw [htext] at hrender hinert hdecode
  exact ⟨hcut, rfl, hrender.trans (by decide), hinert, hdecode.trans (by decide)⟩

end Template

end Parley
