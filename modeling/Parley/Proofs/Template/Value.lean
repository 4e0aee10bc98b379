import Parley.Proofs.Template.Cut

/-!
# Rendering values

A value is rendered by rendering every string of it where it stands.  So what is rendered has the
shape of what it is made from (`hasText_renderValue_iff`), and stays as it is just when every string
in it does (`renderValue_eq_self_iff`).
-/

namespace Parley

/-- A text stands as a string in the value: the value is this string, or has it in an item or a
member. -/
inductive Json.HasText : Json → String → Prop
  | here (text : String) : HasText (.string text) text
  | item {items : List Json} {v : Json} {text : String} (hv : v ∈ items) (h : HasText v text) :
      HasText (.array items) text
  | member {members : Vars} {key : String} {v : Json} {text : String} (hv : (key, v) ∈ members)
      (h : HasText v text) : HasText (.object members) text

namespace Template

variable {vars : Vars}

/-! ### Items and members -/

theorem renderItems_eq_map (vars : Vars) (items : List Json) :
    renderItems vars items = items.map (renderValue vars) := by
  induction items with
  | nil => rw [renderItems, List.map_nil]
  | cons v rest ih => rw [renderItems, ih, List.map_cons]

theorem renderMembers_eq_map (vars : Vars) (members : Vars) :
    renderMembers vars members = members.map fun e => (e.1, renderValue vars e.2) := by
  induction members with
  | nil => rw [renderMembers, List.map_nil]
  | cons e rest ih => rw [renderMembers, ih, List.map_cons]

theorem get?_renderMembers (vars : Vars) (members : Vars) (key : String) :
    Keyed.get? (renderMembers vars members) key =
      (Keyed.get? members key).map (renderValue vars) := by
  induction members with
  | nil => rw [renderMembers, Keyed.get?_nil, Option.map_none]
  | cons e rest ih =>
    obtain ⟨k, v⟩ := e
    rw [renderMembers, Keyed.get?_cons, Keyed.get?_cons]
    split
    · rfl
    · exact ih

/-- It makes no difference whether a member is taken before or after filling in. -/
theorem orNull_member?_renderValue (vars : Vars) (v : Json) (key : String) :
    Json.orNull ((renderValue vars v).member? key) =
      renderValue vars (Json.orNull (v.member? key)) := by
  have hnull : renderValue vars .null = .null := by rw [renderValue]
  cases v with
  | object members =>
    have hmember := get?_renderMembers vars members key
    rw [renderValue]
    show Json.orNull (Keyed.get? (renderMembers vars members) key) =
      renderValue vars (Json.orNull (Keyed.get? members key))
    rw [hmember]
    cases Keyed.get? members key with
    | none => exact hnull.symm
    | some v => rfl
  | null | bool | number | string | array =>
    rw [renderValue]
    exact hnull.symm

/-! ### Strings -/

theorem hasText_renderValue {v : Json} {template : String} (h : v.HasText template) :
    (renderValue vars v).HasText (render template vars) := by
  induction h with
  | here text =>
    rw [renderValue]
    exact .here _
  | item hv h ih =>
    rw [renderValue, renderItems_eq_map]
    exact .item (List.mem_map_of_mem hv) ih
  | member hv h ih =>
    rw [renderValue, renderMembers_eq_map]
    exact .member (List.mem_map.2 ⟨_, hv, rfl⟩) ih

theorem exists_hasText_of_renderValue {made : Json} {text : String} (h : made.HasText text) :
    ∀ v, renderValue vars v = made →
      ∃ template, v.HasText template ∧ render template vars = text := by
  induction h with
  | here text =>
    intro v hv
    cases v with
    | string template =>
      rw [renderValue] at hv
      exact ⟨template, .here _, Json.string.inj hv⟩
    | null | bool | number | array | object => rw [renderValue] at hv; cases hv
  | item hitem h ih =>
    intro v hv
    cases v with
    | array items =>
      rw [renderValue, renderItems_eq_map] at hv
      obtain rfl := Json.array.inj hv
      obtain ⟨source, hsource, hmade⟩ := List.mem_map.1 hitem
      obtain ⟨template, htemplate, hrender⟩ := ih source hmade
      exact ⟨template, .item hsource htemplate, hrender⟩
    | null | bool | number | string | object => rw [renderValue] at hv; cases hv
  | member hmember h ih =>
    intro v hv
    cases v with
    | object members =>
      rw [renderValue, renderMembers_eq_map] at hv
      obtain rfl := Json.object.inj hv
      obtain ⟨⟨key, source⟩, hsource, hmade⟩ := List.mem_map.1 hmember
      obtain ⟨template, htemplate, hrender⟩ := ih source (Prod.mk.inj hmade).2
      exact ⟨template, .member hsource htemplate, hrender⟩
    | null | bool | number | string | array => rw [renderValue] at hv; cases hv

theorem hasText_renderValue_iff {v : Json} {text : String} :
    (renderValue vars v).HasText text ↔
      ∃ template, v.HasText template ∧ render template vars = text := by
  constructor
  · intro h
    exact exists_hasText_of_renderValue h v rfl
  · rintro ⟨template, htemplate, rfl⟩
    exact hasText_renderValue htemplate

/-! ### What stays as it is -/

mutual

/-- A value stays as it is if all of its strings do. -/
theorem renderValue_eq_self : (v : Json) → (∀ text, v.HasText text → render text vars = text) →
    renderValue vars v = v
  | .null, _ => by rw [renderValue]
  | .bool _, _ => by rw [renderValue]
  | .number _, _ => by rw [renderValue]
  | .string text, h => by rw [renderValue, h text (.here text)]
  | .array items, h => by
    rw [renderValue, renderItems_eq_self items fun v hv text htext => h text (.item hv htext)]
  | .object members, h => by
    rw [renderValue, renderMembers_eq_self members fun e he text htext => h text (.member he htext)]

@[inherit_doc renderValue_eq_self]
theorem renderItems_eq_self : (items : List Json) →
    (∀ v ∈ items, ∀ text, v.HasText text → render text vars = text) →
    renderItems vars items = items
  | [], _ => by rw [renderItems]
  | v :: rest, h => by
    have hrest := renderItems_eq_self rest fun w hw => h w (List.mem_cons_of_mem v hw)
    rw [renderItems, hrest, renderValue_eq_self v (h v List.mem_cons_self)]

@[inherit_doc renderValue_eq_self]
theorem renderMembers_eq_self : (members : List (String × Json)) →
    (∀ e ∈ members, ∀ text, e.2.HasText text → render text vars = text) →
    renderMembers vars members = members
  | [], _ => by rw [renderMembers]
  | (key, v) :: rest, h => by
    have hrest := renderMembers_eq_self rest fun e he => h e (List.mem_cons_of_mem (key, v) he)
    rw [renderMembers, hrest, renderValue_eq_self v (h (key, v) List.mem_cons_self)]

end

theorem render_eq_self_of_hasText {v : Json} {text : String} (h : v.HasText text)
    (hself : renderValue vars v = v) : render text vars = text := by
  induction h with
  | here text =>
    rw [renderValue] at hself
    exact Json.string.inj hself
  | item hitem h ih =>
    rw [renderValue, renderItems_eq_map] at hself
    have hitems := (Json.array.inj hself).trans (List.map_id _).symm
    exact ih (List.map_inj_left.1 hitems _ hitem)
  | member hmember h ih =>
    rw [renderValue, renderMembers_eq_map] at hself
    have hmembers := (Json.object.inj hself).trans (List.map_id _).symm
    exact ih (congrArg Prod.snd (List.map_inj_left.1 hmembers _ hmember))

theorem renderValue_eq_self_iff {v : Json} :
    renderValue vars v = v ↔ ∀ text, v.HasText text → render text vars = text := by
  constructor
  · intro hself text htext
    exact render_eq_self_of_hasText htext hself
  · exact renderValue_eq_self v

end Template

end Parley
