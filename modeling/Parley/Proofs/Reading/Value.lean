import Parley.Json.Decoder
import Parley.Proofs.Reading.Document

/-!
# Values read back

A decoder reads a thing back out of a value (`Decoder.Reads`) if the value spells without loss and
the decoder makes the thing of it whenever it may open as many containers inside each other as
there are in it, and nothing when it may not.  Then the text of the value reads back just when it is
not too deep (`Decoder.Reads.text?_render`): printing knows no limit, and reading does.

* `Decoder.reads_json` : a value whose objects are in order reads back as itself.
* `Decoder.reads_vars`, `Decoder.Reads.list`, `Decoder.reads_choice` : tables, lists and choices.
* `Decoder.reads_record` : a record reads its fields out of an object under their names.
-/

namespace Parley

namespace Json

/-! ### Values that spell without loss -/

mutual

/-- All numbers inside the value are integers of 64 bits. -/
def Integral : Json → Prop
  | .number n => n.IsExact
  | .array items => IntegralItems items
  | .object members => IntegralMembers members
  | _ => True

@[inherit_doc Integral]
def IntegralItems : List Json → Prop
  | [] => True
  | v :: rest => Integral v ∧ IntegralItems rest

@[inherit_doc Integral]
def IntegralMembers : List (String × Json) → Prop
  | [] => True
  | (_, v) :: rest => Integral v ∧ IntegralMembers rest

end

@[simp] theorem integral_string (s : String) : (Json.string s).Integral := trivial

theorem integralItems_iff {items : List Json} :
    IntegralItems items ↔ ∀ v ∈ items, v.Integral := by
  induction items with
  | nil => simp [IntegralItems]
  | cons v rest ih => simp [IntegralItems, ih]

theorem integralMembers_iff {members : List (String × Json)} :
    IntegralMembers members ↔ ∀ m ∈ members, m.2.Integral := by
  induction members with
  | nil => simp [IntegralMembers]
  | cons m rest ih => simp [IntegralMembers, ih]

theorem orderedMembers_iff {members : List (String × Json)} :
    OrderedMembers members ↔ ∀ m ∈ members, m.2.Ordered := by
  induction members with
  | nil => simp [OrderedMembers]
  | cons m rest ih => simp [OrderedMembers, ih]

open Token in
mutual

/-- The tokens of such a value are exact. -/
theorem isExact_of_mem_tokens : (v : Json) → v.Integral → ∀ t ∈ v.document.tokens, t.IsExact
  | .null, _, t, ht => by
    obtain rfl := List.mem_singleton.1 ht
    trivial
  | .bool b, _, t, ht => by
    obtain rfl := List.mem_singleton.1 ht
    trivial
  | .number n, h, t, ht => by
    obtain rfl := List.mem_singleton.1 ht
    exact ⟨n, rfl, h⟩
  | .string s, _, t, ht => by
    obtain rfl := List.mem_singleton.1 ht
    rfl
  | .array [], _, t, ht => by
    simp only [document, itemDocuments, Document.tokens, List.mem_cons, List.not_mem_nil,
      or_false] at ht
    rcases ht with rfl | rfl <;> trivial
  | .array (v :: items), h, t, ht => by
    simp only [document, itemDocuments, Document.tokens, List.mem_cons, List.mem_append] at ht
    rcases ht with rfl | ht | ht
    · trivial
    · exact isExact_of_mem_tokens v h.1 t ht
    · exact isExact_of_mem_itemTokens items h.2 t ht
  | .object [], _, t, ht => by
    simp only [document, memberDocuments, Document.tokens, List.mem_cons, List.not_mem_nil,
      or_false] at ht
    rcases ht with rfl | rfl <;> trivial
  | .object ((k, v) :: members), h, t, ht => by
    simp only [document, memberDocuments, Document.tokens, List.mem_cons, List.mem_append] at ht
    rcases ht with rfl | rfl | rfl | ht | ht
    · trivial
    · rfl
    · trivial
    · exact isExact_of_mem_tokens v h.1 t ht
    · exact isExact_of_mem_memberTokens members h.2 t ht

@[inherit_doc isExact_of_mem_tokens]
theorem isExact_of_mem_itemTokens : (items : List Json) → IntegralItems items →
    ∀ t ∈ Document.itemTokens (itemDocuments items), t.IsExact
  | [], _, t, ht => by
    obtain rfl := List.mem_singleton.1 ht
    trivial
  | v :: items, h, t, ht => by
    simp only [itemDocuments, Document.itemTokens, List.mem_cons, List.mem_append] at ht
    rcases ht with rfl | ht | ht
    · trivial
    · exact isExact_of_mem_tokens v h.1 t ht
    · exact isExact_of_mem_itemTokens items h.2 t ht

@[inherit_doc isExact_of_mem_tokens]
theorem isExact_of_mem_memberTokens : (members : List (String × Json)) →
    IntegralMembers members →
    ∀ t ∈ Document.memberTokens (memberDocuments members), t.IsExact
  | [], _, t, ht => by
    obtain rfl := List.mem_singleton.1 ht
    trivial
  | (k, v) :: members, h, t, ht => by
    simp only [memberDocuments, Document.memberTokens, List.mem_cons, List.mem_append] at ht
    rcases ht with rfl | rfl | rfl | ht | ht
    · trivial
    · rfl
    · trivial
    · exact isExact_of_mem_tokens v h.1 t ht
    · exact isExact_of_mem_memberTokens members h.2 t ht

end

/-- The text of such a value is parsed as the value. -/
theorem parse?_render {v : Json} (h : v.Integral) : Document.parse? v.render = some v.document :=
  Document.parse?_chars (isExact_of_mem_tokens v h)

/-- A value that reads back: the keys of its objects ascend, and its numbers are integers of
64 bits. -/
structure Exact (v : Json) : Prop where
  ordered : v.Ordered
  integral : v.Integral

/-! ### Depth -/

theorem document_ne_null {v : Json} (h : v ≠ .null) : v.document ≠ .null := by
  cases v with
  | null => exact absurd rfl h
  | bool | number | string | array | object => exact Document.noConfusion

/-- How deep the containers of a value nest. -/
def depth (v : Json) : ℕ := v.document.depth

@[simp] theorem depth_string (s : String) : (Json.string s).depth = 0 := rfl

@[simp] theorem depth_ofNat (n : ℕ) : (Json.ofNat n).depth = 0 := rfl

theorem depth_array_le_iff {items : List Json} {depth : ℕ} :
    (Json.array items).depth ≤ depth + 1 ↔ ∀ v ∈ items, v.depth ≤ depth := by
  simp only [Json.depth, document, Document.depth, Nat.add_le_add_iff_right]
  induction items with
  | nil => simp [itemDocuments, Document.itemsDepth]
  | cons v rest ih =>
    rw [itemDocuments, Document.itemsDepth, Nat.max_le, ih, List.forall_mem_cons]

theorem depth_object_le_iff {members : List (String × Json)} {depth : ℕ} :
    (Json.object members).depth ≤ depth + 1 ↔ ∀ m ∈ members, m.2.depth ≤ depth := by
  simp only [Json.depth, document, Document.depth, Nat.add_le_add_iff_right]
  induction members with
  | nil => simp [memberDocuments, Document.membersDepth]
  | cons m rest ih =>
    rw [memberDocuments, Document.membersDepth, Nat.max_le, ih, List.forall_mem_cons]

/-! ### Members that may be left out -/

section

variable {name key : String} {v : Option Json} {rest : List (String × Json)}

theorem lookup_cons_members {w : Json} : List.lookup name ((key, w) :: rest) =
    if name = key then some w else List.lookup name rest := by
  rw [List.lookup_cons]
  by_cases h : name = key
  · rw [if_pos h, beq_iff_eq.2 h]
  · rw [if_neg h, beq_eq_false_iff_ne.2 h]

theorem lookup_memberIf_append : List.lookup name (memberIf key v ++ rest) =
    if name = key then v.or (List.lookup name rest) else List.lookup name rest := by
  cases v with
  | none => rw [memberIf, List.nil_append, Option.none_or, ite_self]
  | some w => exact lookup_cons_members

theorem lookup_memberIf :
    List.lookup name (memberIf key v) = if name = key then v else none := by
  have h : List.lookup name (memberIf key v ++ []) = _ := lookup_memberIf_append
  rwa [List.append_nil, List.lookup_nil, Option.or_none] at h

theorem ite_nil_member {c : Prop} [Decidable c] (key : String) (w : Json) :
    (if c then [] else [(key, w)]) = memberIf key (if c then none else some w) := by
  split <;> rfl

theorem forall_mem_memberIf {P : String × Json → Prop} :
    (∀ m ∈ memberIf key v, P m) ↔ ∀ w, v = some w → P (key, w) := by
  cases v <;> simp [memberIf]

end

end Json

/-! ### Putting an entry behind all others -/

namespace Keyed

theorem insert_eq_append {α : Type} {m : Keyed α} {key : String} (value : α)
    (h : ∀ e ∈ m, e.1 < key) : m.insert key value = m ++ [(key, value)] := by
  induction m with
  | nil => rfl
  | cons e rest ih =>
    obtain ⟨k, v⟩ := e
    have hk : k < key := h (k, v) List.mem_cons_self
    have hnot : ¬key < k := String.lt_asymm hk
    have hne : k ≠ key := fun he => String.lt_irrefl key (he ▸ hk)
    rw [insert, if_neg hnot, if_neg hne, ih fun e he => h e (List.mem_cons_of_mem _ he),
      List.cons_append]

end Keyed

namespace Decoder

variable {α : Type}

/-- A decoder reads a thing back out of a value, as long as the value is not too deep. -/
structure Reads (d : Decoder α) (v : Json) (x : α) : Prop where
  integral : v.Integral
  decode : ∀ depth, d depth v.document = if v.depth ≤ depth then some x else none

/-- **What a decoder reads back out of a value it reads back out of the text of the value**, just
when the containers of the value nest no deeper than they may. -/
theorem Reads.text?_render {d : Decoder α} {v : Json} {x : α} (h : d.Reads v x) :
    d.text? v.render = if v.depth ≤ depthLimit then some x else none := by
  rw [text?, Json.parse?_render h.integral, Option.bind_some, h.decode]

/-- A value without containers reads back at any depth. -/
theorem Reads.of_flat {d : Decoder α} {v : Json} {x : α} (hv : v.Integral) (hflat : v.depth = 0)
    (h : ∀ depth, d depth v.document = some x) : d.Reads v x :=
  ⟨hv, fun depth => by rw [h, hflat, if_pos (Nat.zero_le depth)]⟩

/-! ### Simple values -/

theorem reads_string (s : String) : string.Reads (.string s) s :=
  .of_flat trivial rfl fun _ => rfl

theorem natural_ofNat {bound n : ℕ} (h : n < bound) (depth : ℕ) :
    natural bound depth (Json.ofNat n).document = some n := by
  have hn : (n : Int).toNat = n := Int.toNat_natCast n
  show (if 0 ≤ (n : Int) ∧ (n : Int).toNat < bound then some (n : Int).toNat else none) = some n
  rw [hn, if_pos ⟨Int.natCast_nonneg n, h⟩]

theorem integral_ofNat {n : ℕ} (h : n < 2 ^ 64) : (Json.ofNat n).Integral := by
  show -(2 ^ 63 : Int) ≤ n ∧ (n : Int) < 2 ^ 64
  omega

theorem reads_index {n : ℕ} (h : n < Nat.pow 2 64) : index.Reads (.ofNat n) n :=
  .of_flat (integral_ofNat h) rfl (natural_ofNat h)

theorem reads_word32 (w : UInt32) : word32.Reads (.ofNat w.toNat) w := by
  have hw : w.toNat < Nat.pow 2 32 := w.toNat_lt
  refine .of_flat (integral_ofNat (hw.trans (by decide))) rfl fun depth => ?_
  rw [word32, natural_ofNat hw, Option.map_some]
  exact congrArg some (UInt32.ofNat_toNat)

/-- A name among several is the choice of that name. -/
theorem reads_choice {names : List (String × α)} {name : String} {x : α}
    (h : names.lookup name = some x) : (choice names).Reads (.string name) x :=
  .of_flat trivial rfl fun _ => h

/-! ### Free values -/

mutual

/-- A value whose objects are in order is decoded as itself. -/
theorem json_document : (v : Json) → v.Ordered → (depth : ℕ) →
    json depth v.document = if v.document.depth ≤ depth then some v else none
  | .null, _, depth => by cases depth <;> exact (if_pos (Nat.zero_le _)).symm
  | .bool b, _, depth => by cases depth <;> exact (if_pos (Nat.zero_le _)).symm
  | .number n, _, depth => by cases depth <;> exact (if_pos (Nat.zero_le _)).symm
  | .string s, _, depth => by cases depth <;> exact (if_pos (Nat.zero_le _)).symm
  | .array items, h, depth => by
    cases depth with
    | zero => rfl
    | succ depth =>
      rw [Json.document, json, jsonItems_itemDocuments items h depth, Document.depth]
      simp only [Nat.add_le_add_iff_right]
      split <;> rfl
  | .object members, h, depth => by
    cases depth with
    | zero => rfl
    | succ depth =>
      rw [Json.document, json, jsonMembers_memberDocuments members [] h.1 h.2 depth, Document.depth]
      simp only [Nat.add_le_add_iff_right]
      split <;> rfl

@[inherit_doc json_document]
theorem jsonItems_itemDocuments : (items : List Json) → Json.OrderedItems items → (depth : ℕ) →
    jsonItems depth (Json.itemDocuments items) =
      if Document.itemsDepth (Json.itemDocuments items) ≤ depth then some items else none
  | [], _, depth => (if_pos (Nat.zero_le depth)).symm
  | v :: items, h, depth => by
    rw [Json.itemDocuments, jsonItems, json_document v h.1, jsonItems_itemDocuments items h.2,
      Document.itemsDepth]
    simp only [Nat.max_le]
    split_ifs <;> simp_all

@[inherit_doc json_document]
theorem jsonMembers_memberDocuments : (members : List (String × Json)) → (done : Vars) →
    Keyed.Sorted (done ++ members) → Json.OrderedMembers members → (depth : ℕ) →
    jsonMembers depth done (Json.memberDocuments members) =
      if Document.membersDepth (Json.memberDocuments members) ≤ depth then some (done ++ members)
      else none
  | [], done, _, _, depth => by
    rw [List.append_nil]
    exact (if_pos (Nat.zero_le depth)).symm
  | (k, v) :: members, done, hsorted, h, depth => by
    have hinsert : done.insert k v ++ members = done ++ (k, v) :: members := by
      rw [Keyed.insert_eq_append v hsorted.lt_of_append, List.append_assoc, List.singleton_append]
    rw [Json.memberDocuments, jsonMembers, json_document v h.1, Document.membersDepth]
    simp only [Nat.max_le]
    split_ifs with hv hall hall
    · rw [Option.bind_some, jsonMembers_memberDocuments members _ (hinsert ▸ hsorted) h.2,
        if_pos hall.2, hinsert]
    · rw [Option.bind_some, jsonMembers_memberDocuments members _ (hinsert ▸ hsorted) h.2,
        if_neg fun hm => hall ⟨hv, hm⟩]
    · exact absurd hall.1 hv
    · rfl

end

theorem reads_json {v : Json} (h : v.Exact) : Reads json v v :=
  ⟨h.integral, json_document v h.ordered⟩

/-- A table of free values is decoded like the object of the same members. -/
theorem vars_object (depth : ℕ) (members : List (Option String × Document)) :
    vars (depth + 1) (.object members) = jsonMembers depth [] members := by
  have hfold (done : Vars) : members.foldlM (fun (done : Vars) (m : Option String × Document) =>
      (do return done.insert (← m.1) (← json depth m.2) : Option Vars)) done =
        jsonMembers depth done members := by
    induction members generalizing done with
    | nil => rfl
    | cons m rest ih =>
      obtain ⟨k, d⟩ := m
      rw [List.foldlM_cons]
      cases k with
      | none => rfl
      | some k =>
        rw [jsonMembers]
        cases json depth d with
        | none => rfl
        | some v => exact ih _
  exact hfold []

theorem reads_vars {values : Vars} (hvalues : (Json.object values).Exact) :
    vars.Reads (.object values) values := by
  refine ⟨hvalues.integral, fun depth => ?_⟩
  cases depth with
  | zero => rfl
  | succ depth =>
    have h := json_document (.object values) hvalues.ordered (depth + 1)
    rw [Json.document, json] at h
    rw [Json.document, vars_object, Json.depth, Json.document]
    split_ifs at h ⊢
    · obtain ⟨members, hmembers, heq⟩ := Option.map_eq_some_iff.1 h
      rw [hmembers, Json.object.inj heq]
    · exact Option.map_eq_none_iff.1 h

/-! ### Lists -/

theorem Reads.list {d : Decoder α} {toJson : α → Json} {xs : List α}
    (h : ∀ x ∈ xs, d.Reads (toJson x) x) : d.list.Reads (.array (xs.map toJson)) xs := by
  have hintegral : (Json.array (xs.map toJson)).Integral := by
    refine Json.integralItems_iff.2 fun v hv => ?_
    obtain ⟨x, hx, rfl⟩ := List.mem_map.1 hv
    exact (h x hx).integral
  have hitems (depth : ℕ) : (Json.itemDocuments (xs.map toJson)).mapM (d depth) =
      if ∀ v ∈ xs.map toJson, v.depth ≤ depth then some xs else none := by
    clear hintegral
    induction xs with
    | nil => exact (if_pos fun _ hv => absurd hv List.not_mem_nil).symm
    | cons x xs ih =>
      rw [List.map_cons, Json.itemDocuments, List.mapM_cons, (h x List.mem_cons_self).decode,
        ih fun y hy => h y (List.mem_cons_of_mem x hy)]
      simp only [List.forall_mem_cons]
      split_ifs <;> simp_all
  refine ⟨hintegral, fun depth => ?_⟩
  cases depth with
  | zero => rfl
  | succ depth =>
    rw [Json.document, Decoder.list, hitems]
    simp only [Json.depth_array_le_iff]

/-! ### Records -/

/-- All members of an object are known, if all of its keys are and no key comes twice. -/
theorem knownMembers_memberDocuments {names : List String} {members : List (String × Json)}
    (hknown : ∀ m ∈ members, m.1 ∈ names) (hnodup : (members.map Prod.fst).Nodup)
    (done : List (String × Document)) (hfresh : ∀ m ∈ members, done.lookup m.1 = none) :
    ∃ known, knownMembers names (Json.memberDocuments members) done = some known ∧
      ∀ name, known.lookup name =
        ((members.lookup name).map Json.document).or (done.lookup name) := by
  induction members generalizing done with
  | nil => exact ⟨done, rfl, fun _ => rfl⟩
  | cons m rest ih =>
    obtain ⟨k, v⟩ := m
    obtain ⟨hk, hrest⟩ := List.forall_mem_cons.1 hknown
    obtain ⟨hnot, hnodup⟩ := List.nodup_cons.1 hnodup
    have hnone : List.lookup k done = none := hfresh (k, v) List.mem_cons_self
    obtain ⟨known, hread, hlookup⟩ := ih hrest hnodup ((k, v.document) :: done) fun m hm => by
      have hne : m.1 ≠ k := fun he => hnot (List.mem_map.2 ⟨m, hm, he⟩)
      rw [List.lookup_cons, beq_eq_false_iff_ne.2 hne]
      exact hfresh m (List.mem_cons_of_mem _ hm)
    refine ⟨known, ?_, fun name => ?_⟩
    · rw [Json.memberDocuments, knownMembers, if_pos hk, hnone]
      exact hread
    · rw [hlookup, List.lookup_cons, List.lookup_cons]
      by_cases hname : name = k
      · subst hname
        have habsent : rest.lookup name = none := by
          refine List.lookup_eq_none_iff.2 fun m hm => ?_
          simpa using fun he => hnot (List.mem_map.2 ⟨m, hm, he.symm⟩)
        simp [habsent]
      · rw [beq_eq_false_iff_ne.2 hname]

/-- **A record reads its fields out of an object** under their names, so it reads back what it
makes of them. -/
theorem reads_record {names : List String} {read : Fields → Option α}
    {members : List (String × Json)} {x : α} (hknown : ∀ m ∈ members, m.1 ∈ names)
    (hnodup : (members.map Prod.fst).Nodup) (hintegral : ∀ m ∈ members, m.2.Integral)
    (hread : ∀ depth, read ⟨depth, fun name => (members.lookup name).map Json.document⟩ =
      if ∀ m ∈ members, m.2.depth ≤ depth then some x else none) :
    (record names read).Reads (.object members) x := by
  refine ⟨Json.integralMembers_iff.2 hintegral, fun depth => ?_⟩
  cases depth with
  | zero => rfl
  | succ depth =>
    obtain ⟨known, hknown, hlookup⟩ :=
      knownMembers_memberDocuments hknown hnodup [] fun _ _ => rfl
    have hfields : (known.lookup ·) = fun name => (members.lookup name).map Json.document :=
      funext fun name => by rw [hlookup, List.lookup_nil, Option.or_none]
    rw [Json.document, record, hknown, Option.bind_some, hfields, hread]
    simp only [Json.depth_object_le_iff]

namespace Fields

variable {f : Fields} {name : String} {d : Decoder α} {v : Json} {x : α}

theorem required_of_reads (hfield : f.field? name = some v.document) (h : d.Reads v x) :
    f.required name d = if v.depth ≤ f.depth then some x else none := by
  rw [required, hfield, Option.bind_some, h.decode]

theorem orElse_of_reads (hfield : f.field? name = some v.document) (h : d.Reads v x) (missing : α) :
    f.orElse name d missing = if v.depth ≤ f.depth then some x else none := by
  rw [orElse, hfield]
  exact h.decode f.depth

theorem required_of_flat (hfield : f.field? name = some v.document) (h : d.Reads v x)
    (hflat : v.depth = 0) : f.required name d = some x := by
  rw [required_of_reads hfield h, hflat, if_pos (Nat.zero_le f.depth)]

theorem optional_of_reads (toJson : α → Json) {y : Option α}
    (hfield : f.field? name = (y.map toJson).map Json.document)
    (h : ∀ x, y = some x → Reads d (toJson x) x)
    (hnull : ∀ x, y = some x → (toJson x).document ≠ .null) :
    f.optional name d =
      if ∀ v, y.map toJson = some v → v.depth ≤ f.depth then some y else none := by
  rw [Fields.optional, orElse, hfield]
  cases y with
  | none => exact (if_pos fun _ hv => by cases hv).symm
  | some x =>
    show Decoder.optional d f.depth (toJson x).document = _
    unfold Decoder.optional
    split
    · next heq => exact absurd heq (hnull x rfl)
    · rw [(h x rfl).decode f.depth]
      by_cases hdepth : (toJson x).depth ≤ f.depth <;> simp [hdepth]

theorem optional_of_flat (toJson : α → Json) {y : Option α}
    (hfield : f.field? name = (y.map toJson).map Json.document)
    (h : ∀ x, y = some x → Reads d (toJson x) x) (hflat : ∀ x, (toJson x).depth = 0)
    (hnull : ∀ x, (toJson x).document ≠ .null) : f.optional name d = some y := by
  rw [optional_of_reads toJson hfield h fun x _ => hnull x]
  refine if_pos fun v hv => ?_
  obtain ⟨x, -, rfl⟩ := Option.map_eq_some_iff.1 hv
  exact (hflat x).trans_le (Nat.zero_le _)

theorem required_string {s : String} (hfield : f.field? name = some (Json.string s).document) :
    f.required name .string = some s := required_of_flat hfield (reads_string s) rfl

theorem optional_string {s : Option String}
    (hfield : f.field? name = (s.map Json.string).map Json.document) :
    f.optional name .string = some s :=
  optional_of_flat Json.string hfield (fun x _ => reads_string x) (fun _ => rfl)
    fun _ h => by cases h

theorem optional_index {n : Option ℕ} (h : ∀ i, n = some i → i < Nat.pow 2 64)
    (hfield : f.field? name = (n.map Json.ofNat).map Json.document) :
    f.optional name .index = some n :=
  optional_of_flat Json.ofNat hfield (fun i hi => reads_index (h i hi)) (fun _ => rfl)
    fun _ h => by cases h

end Fields

end Decoder

end Parley
