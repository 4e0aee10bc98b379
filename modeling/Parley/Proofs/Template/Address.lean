import Parley.Proofs.Number.Text
import Parley.Proofs.Store.Path
import Parley.Proofs.Template.Cut

/-!
# The nodes that tags address

The variables of a session are a tree: objects lead on by their keys, arrays by the numbers of their
items (`Leads`).  A path names the steps to a node of it, from the variables on.

**Every node has a path, and a tag with this path stands for the text of just that node**, however
deep the node is, and whatever its keys look like.  A path that begins elsewhere, or has a step that
leads nowhere, stands for nothing (`tags_address_nodes`).
-/

namespace Parley

namespace Template

/-! ### Steps -/

/-- A step to the member of an object, or to an item of an array. -/
inductive Step where
  | member (key : String)
  | item (index : ℕ)
deriving DecidableEq, Repr

/-- The ways of writing a step: a key as it is, the number of an item in decimal digits. -/
inductive Step.Written : Step → List Char → Prop
  | member (key : String) : Written (.member key) key.toList
  | item {digits : List Char} (hne : digits ≠ []) (hdigits : ∀ c ∈ digits, c.isDigit) :
      Written (.item (Nat.ofDigitChars 10 digits 0)) digits

/-- A step from a value to a part of it. -/
inductive Leads : Json → Step → Json → Prop
  | member {members : Vars} {key : String} {v : Json} (h : Keyed.get? members key = some v) :
      Leads (.object members) (.member key) v
  | item {items : List Json} {index : ℕ} {v : Json} (h : items[index]? = some v) :
      Leads (.array items) (.item index) v

/-- Steps from a value to a node below it. -/
inductive Reaches : Json → List Step → Json → Prop
  | here (v : Json) : Reaches v [] v
  | step {u v w : Json} {step : Step} {steps : List Step} (h : Leads u step v)
      (more : Reaches v steps w) : Reaches u (step :: steps) w

/-- A path that leads to no node: it begins elsewhere, or has a step that leads nowhere from the
node that the steps before it reach. -/
inductive Astray (vars : Vars) : List (List Char) → Prop
  | root {first : List Char} {more : List (List Char)} (h : first ≠ rootStep) :
      Astray vars (first :: more)
  | step {steps : List Step} {texts more : List (List Char)} {text : List Char} {node : Json}
      (hwritten : List.Forall₂ Step.Written steps texts)
      (hreached : Reaches (.object vars) steps node)
      (hnowhere : ∀ step v, step.Written text → ¬ Leads node step v) :
      Astray vars (rootStep :: (texts ++ text :: more))

theorem Step.Written.toDigits (index : ℕ) : Written (.item index) (Nat.toDigits 10 index) := by
  have hvalue : Nat.ofDigitChars 10 (Nat.toDigits 10 index) 0 = index :=
    Nat.ofDigitChars_ten_toDigits
  have hdigits : ∀ c ∈ Nat.toDigits 10 index, c.isDigit := fun c hc =>
    Nat.isDigit_of_mem_toDigits (by decide) (by decide) hc
  have h := Written.item (Nat.toDigits_ne_nil) hdigits
  rwa [hvalue] at h

/-! ### One step -/

theorem listIndex?_eq_some_iff {text : List Char} {index : ℕ} :
    listIndex? text = some index ↔ Step.Written (.item index) text := by
  have hvalue : text.foldl (fun n c => n * 10 + (c.toNat - 48)) 0 =
      Nat.ofDigitChars 10 text 0 :=
    List.foldl_map.symm.trans (Json.Literal.digitsValue_map text)
  rw [listIndex?, hvalue]
  constructor
  · intro h
    split at h
    · cases h
    · next hform =>
      simp only [Bool.or_eq_true, List.isEmpty_iff, Bool.not_eq_true', not_or,
        Bool.not_eq_false, List.all_eq_true] at hform
      obtain rfl := Option.some.inj h
      exact .item hform.1 hform.2
  · intro h
    cases h with
    | item hne hdigits =>
      rw [if_neg (by simpa [hne] using hdigits)]

/-- **A step is taken where it leads**, in whatever way it is written. -/
theorem step?_eq_some_iff {u v : Json} {text : List Char} :
    step? u text = some v ↔ ∃ step : Step, step.Written text ∧ Leads u step v := by
  constructor
  · intro h
    cases u with
    | object members =>
      refine ⟨.member (String.ofList text), ?_, .member h⟩
      simpa using Step.Written.member (String.ofList text)
    | array items =>
      obtain ⟨index, hindex, hitem⟩ := Option.bind_eq_some_iff.1 h
      exact ⟨.item index, listIndex?_eq_some_iff.1 hindex, .item hitem⟩
    | _ => cases h
  · rintro ⟨step, hwritten, hleads⟩
    cases hleads with
    | member h =>
      cases hwritten
      simpa [step?, Json.member?] using h
    | item h =>
      rw [step?, listIndex?_eq_some_iff.2 hwritten]
      exact h

/-- The steps to a node are taken one after the other. -/
theorem Reaches.foldlM_step? {u v : Json} {steps : List Step} (h : Reaches u steps v)
    {texts : List (List Char)} (hwritten : List.Forall₂ Step.Written steps texts) :
    texts.foldlM step? u = some v := by
  induction h generalizing texts with
  | here => cases hwritten; rfl
  | step hleads _ ih =>
    cases hwritten with
    | cons hstep hmore =>
      rw [List.foldlM_cons, step?_eq_some_iff.2 ⟨_, hstep, hleads⟩]
      exact ih hmore

/-! ### Paths -/

theorem steps_eq_splitOn (path : List Char) : steps path = path.splitOn '.' :=
  Text.eq_splitOn rfl (fun _ _ => rfl) path

/-- A path from the variables on is followed step by step. -/
theorem lookup_of_splitOn {path : List Char} {texts : List (List Char)}
    (h : path.splitOn '.' = rootStep :: texts) (hne : texts ≠ []) (vars : Vars) :
    lookup path vars = texts.foldlM step? (.object vars) := by
  obtain ⟨name, more, rfl⟩ := List.exists_cons_of_ne_nil hne
  rw [lookup, steps_eq_splitOn, h]
  simp only [if_true]
  rfl

theorem lookup_of_astray {path : List Char} {vars : Vars}
    (h : Astray vars (path.splitOn '.')) : lookup path vars = none := by
  generalize hpath : path.splitOn '.' = texts at h
  cases h with
  | root hfirst =>
    rw [lookup, steps_eq_splitOn, hpath]
    split
    · next heq =>
      rw [(List.cons.inj heq).1] at hfirst
      rw [if_neg hfirst]
    · rfl
  | @step steps texts more text node hwritten hreached hnowhere =>
    have hnone : step? node text = none := by
      rw [Option.eq_none_iff_forall_not_mem]
      intro v hv
      obtain ⟨step, hstep, hleads⟩ := step?_eq_some_iff.1 hv
      exact hnowhere step v hstep hleads
    rw [lookup_of_splitOn hpath (by simp), List.foldlM_append, hreached.foldlM_step? hwritten,
      Option.bind_eq_bind, Option.bind_some, List.foldlM_cons, hnone]
    rfl

/-! ### Names -/

/-- A text of word characters and hyphens. -/
def IsName (cs : List Char) : Prop := ∀ c ∈ cs, Text.isWord c ∨ c = '-'

instance (cs : List Char) : Decidable (IsName cs) :=
  List.decidableBAll (fun c => Text.isWord c ∨ c = '-') cs

theorem dot_not_mem {cs : List Char} (h : IsName cs) : '.' ∉ cs := by
  intro hdot
  rcases h '.' hdot with hword | hhyphen
  · exact absurd hword (by decide)
  · exact absurd hhyphen (by decide)

/-- Texts that name the steps from the variables to a node: the first step is to a variable, and
there is nothing in the keys but word characters and hyphens. -/
def Addresses (vars : Vars) (texts : List (List Char)) (node : Json) : Prop :=
  ∃ (name : String) (steps : List Step), Reaches (.object vars) (.member name :: steps) node ∧
    (∀ key, Step.member key ∈ Step.member name :: steps → IsName key.toList) ∧
      List.Forall₂ Step.Written (.member name :: steps) texts

theorem isName_of_written {steps : List Step} {texts : List (List Char)}
    (hkeys : ∀ key, Step.member key ∈ steps → IsName key.toList)
    (h : List.Forall₂ Step.Written steps texts) : ∀ text ∈ texts, IsName text := by
  induction h with
  | nil => simp
  | cons hstep _ ih =>
    refine List.forall_mem_cons.2 ⟨?_, ih fun key hkey => hkeys key (List.mem_cons_of_mem _ hkey)⟩
    cases hstep with
    | member key => exact hkeys key List.mem_cons_self
    | item _ hdigits => exact fun c hc => .inl (Text.isWord_of_isDigit (hdigits c hc))

theorem forall_mem_intercalate {texts : List (List Char)} (h : ∀ text ∈ texts, IsName text) :
    ∀ c ∈ ['.'].intercalate texts, Text.isWord c ∨ c = '.' ∨ c = '-' := by
  have hname {text : List Char} (htext : IsName text) (c : Char) (hc : c ∈ text) :
      Text.isWord c ∨ c = '.' ∨ c = '-' := (htext c hc).imp_right .inr
  induction texts with
  | nil => simp
  | cons text more ih =>
    obtain ⟨htext, hmore⟩ := List.forall_mem_cons.1 h
    cases more with
    | nil => simpa using hname htext
    | cons next more =>
      rw [List.intercalate_cons_cons]
      refine List.forall_mem_append.2 ⟨List.forall_mem_append.2 ⟨hname htext, ?_⟩, ih hmore⟩
      simp

theorem isPath_intercalate {texts : List (List Char)} (h : ∀ text ∈ texts, IsName text) :
    IsPath (['.'].intercalate (rootStep :: texts)) := by
  have hroot : IsName rootStep := by decide
  refine ⟨?_, forall_mem_intercalate (List.forall_mem_cons.2 ⟨hroot, h⟩)⟩
  cases texts with
  | nil => simp [rootStep]
  | cons text more => simp [rootStep]

theorem splitOn_intercalate_names {texts : List (List Char)} (h : ∀ text ∈ texts, IsName text) :
    (['.'].intercalate (rootStep :: texts)).splitOn '.' = rootStep :: texts := by
  refine List.splitOn_intercalate '.' (List.forall_mem_cons.2 ⟨by decide, fun text htext => ?_⟩)
    (List.cons_ne_nil _ _)
  exact dot_not_mem (h text htext)

theorem lookup_of_addresses {vars : Vars} {texts : List (List Char)} {node : Json}
    (h : Addresses vars texts node) :
    lookup (['.'].intercalate (rootStep :: texts)) vars = some node := by
  obtain ⟨name, steps, hreached, hkeys, hwritten⟩ := h
  have hnames := isName_of_written hkeys hwritten
  have hne : texts ≠ [] := by rintro rfl; cases hwritten
  rw [lookup_of_splitOn (splitOn_intercalate_names hnames) hne, hreached.foldlM_step? hwritten]

/-! ### Tags -/

/-- A tag between texts without opening braces stands where it is written. -/
theorem render_single {t : Tag} {written front back : List Char} (hwritten : t.Written written)
    (hfront : '\x7b' ∉ front) (hback : '\x7b' ∉ back) (vars : Vars) :
    render (String.ofList (front ++ (written ++ back))) vars =
      String.ofList (front ++ (t.text vars ++ back)) := by
  have hcut := Cut.of_single hwritten hfront hback
  rw [← String.toList_ofList (l := front ++ (written ++ back))] at hcut
  rw [hcut.render_eq]
  simp [Cut.filled]

/-- **A tag whose path names the steps to a node stands for the text of this node**, and a tag whose
path leads astray for nothing, in a text that has no other tag. -/
theorem tags_address_nodes (vars : Vars) {front back : List Char} (hfront : '\x7b' ∉ front)
    (hback : '\x7b' ∉ back) :
    (∀ (texts : List (List Char)) (node : Json) (before behind : List Char),
      Addresses vars texts node → IsSpace before → IsSpace behind →
        render (String.ofList (front ++ ((tripleOpen ++ (before ++
          (['.'].intercalate (rootStep :: texts) ++ (behind ++ tripleClose)))) ++ back))) vars =
            String.ofList (front ++ (node.toText.toList ++ back))) ∧
      ∀ (t : Tag) (written : List Char),
        t.Written written → Astray vars (t.path.splitOn '.') →
          render (String.ofList (front ++ (written ++ back))) vars =
            String.ofList (front ++ back) := by
  constructor
  · intro texts node before behind haddress hbefore hbehind
    obtain ⟨name, steps, -, hkeys, hwritten⟩ := id haddress
    have hpath := isPath_intercalate (isName_of_written hkeys hwritten)
    rw [render_single (.triple hbefore hpath hbehind) hfront hback, Tag.text,
      lookup_of_addresses haddress]
    rfl
  · intro t written hwritten hastray
    rw [render_single hwritten hfront hback, Tag.text, lookup_of_astray hastray]
    cases t.raw <;> rfl

/-- A user with two tags. -/
def userVars : Vars :=
  [("user", .object [("tags", .array [.string "a", .string "b"])])]

theorem tags_address_nodes_user :
    '\x7b' ∉ "[".toList ∧ '\x7b' ∉ "]".toList ∧
      Addresses userVars ["user".toList, "tags".toList, "1".toList] (.string "b") ∧
        render "[\x7b\x7b\x7b vars.user.tags.1 \x7d\x7d\x7d]" userVars = "[b]" ∧
          Astray userVars ["vars".toList, "user".toList, "age".toList] ∧
            render "[\x7b\x7bvars.user.age\x7d\x7d]" userVars = "[]" := by
  have htags : Reaches (.object userVars) [.member "user", .member "tags", .item 1]
      (.string "b") :=
    .step (.member rfl) (.step (.member rfl) (.step (.item rfl) (.here _)))
  have haddress : Addresses userVars ["user".toList, "tags".toList, "1".toList] (.string "b") := by
    refine ⟨"user", [.member "tags", .item 1], htags, fun key hkey => ?_, ?_⟩
    · simp only [List.mem_cons, Step.member.injEq, reduceCtorEq, List.not_mem_nil, or_false] at hkey
      rcases hkey with rfl | rfl <;> decide
    · exact .cons (.member "user") (.cons (.member "tags") (.cons (.toDigits 1) .nil))
  have hastray : Astray userVars ["vars".toList, "user".toList, "age".toList] := by
    have huser : List.Forall₂ Step.Written [.member "user"] ["user".toList] :=
      .cons (.member "user") .nil
    refine .step huser (.step (.member rfl) (.here _)) fun step v hwritten hleads => ?_
    have hstep := step?_eq_some_iff.2 ⟨step, hwritten, hleads⟩
    have hnone : step? (.object [("tags", .array [.string "a", .string "b"])]) "age".toList =
        none := rfl
    rw [hnone] at hstep
    cases hstep
  have hspace : IsSpace [' '] := by decide +kernel
  have hnothing : IsSpace [] := by decide
  have hpath : IsPath "vars.user.age".toList := by decide
  have hfront : '\x7b' ∉ "[".toList := by decide
  have hback : '\x7b' ∉ "]".toList := by decide
  obtain ⟨hnode, hnone⟩ := tags_address_nodes userVars hfront hback
  have hshown := hnode _ _ _ _ haddress hspace hspace
  have hmissing := hnone ⟨"vars.user.age".toList, false⟩ _
    (.double hnothing hpath hnothing) hastray
  refine ⟨hfront, hback, haddress, ?_, hastray, ?_⟩
  · exact (congrArg (render · userVars) (by decide)).trans (hshown.trans (by decide))
  · exact (congrArg (render · userVars) (by decide)).trans (hmissing.trans (by decide))

end Template

end Parley
