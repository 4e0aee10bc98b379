import Parley.Outgoing
import Parley.Proofs.Number.Text
import Parley.Proofs.Reading.Value

/-!
# Values by their texts

The text of a value shows which value it is (`Json.render_injective`): numbers of any size, strings
of any characters, objects with their members in the order in which they stand, repeated or not.
This is more than that some texts read back, since a reader rounds doubles and refuses what nests
too deep.  And it is one line, whatever is inside (`Json.newline_notMem_render`).

A spelled token shows which one it is and where it ends (`Token.chars_append_inj`).  The values
follow by induction: the first tokens of two equal texts are equal, and what is behind them is the
rest of the same containers.

A message for the channel is known from its JSON form in turn (`OutgoingMessage.toJson_injective`),
because it leaves out only what can be filled in again in one way.
-/

namespace Parley

namespace Json

/-! ### Tokens -/

namespace Token

/-- A token that stands for something. -/
def HasValue : Token → Prop
  | number n => n.isSome
  | string s => s.isSome
  | _ => True

theorem HasValue.isExact {t : Token} (h : t.HasValue) (hnumber : ∀ n, t ≠ number n) :
    t.IsExact := by
  cases t with
  | number n => exact absurd rfl (hnumber n)
  | string s => exact h
  | bool | openArray | closeArray | openObject | closeObject | comma | colon | null => trivial

theorem next?_of_lexLiteral {cs rest : List Char} {l : Literal}
    (h : lexLiteral cs = some (l, rest)) : next? cs = some (number l.number?, rest) := by
  unfold lexLiteral at h
  split at h
  · next cs => rw [next?, h, Option.map_some]
  · next hsign =>
    cases cs with
    | nil => cases h
    | cons c cs =>
      have hdigit : c.isDigit = true := by
        by_contra hc
        rw [lexNumber, digits, List.takeWhile_cons_of_neg hc] at h
        cases h
      rw [next?_of_isDigit hdigit, h, Option.map_some]

theorem number_append_ne {n : Number} {u : Token} {rest rest' : List Char}
    (hrest : EndsNumber rest) (hu : u.HasValue) (hnumber : ∀ m, u ≠ number m) :
    n.chars ++ rest ≠ u.chars ++ rest' := by
  intro h
  obtain ⟨l, hl, -⟩ := lexLiteral_chars n hrest
  have hnext := next?_of_lexLiteral hl
  rw [h, next?_chars (hu.isExact hnumber) fun m hm => absurd hm (hnumber m)] at hnext
  exact hnumber _ (Prod.mk.inj (Option.some.inj hnext)).1

/-- **A spelled token shows which one it is**, and where it ends. -/
theorem chars_append_inj {t u : Token} {rest rest' : List Char} (ht : t.HasValue) (hu : u.HasValue)
    (hrest : ∀ n, t = number n → EndsNumber rest) (hrest' : ∀ n, u = number n → EndsNumber rest')
    (h : t.chars ++ rest = u.chars ++ rest') : t = u ∧ rest = rest' := by
  by_cases htnumber : ∃ n, t = number n
  · obtain ⟨n, rfl⟩ := htnumber
    obtain ⟨n, rfl⟩ := Option.isSome_iff_exists.1 ht
    by_cases hunumber : ∃ m, u = number m
    · obtain ⟨m, rfl⟩ := hunumber
      obtain ⟨m, rfl⟩ := Option.isSome_iff_exists.1 hu
      obtain ⟨rfl, hrests⟩ := number_append_inj (hrest _ rfl) (hrest' _ rfl) h
      exact ⟨rfl, hrests⟩
    · exact absurd h (number_append_ne (hrest _ rfl) hu (not_exists.1 hunumber))
  · by_cases hunumber : ∃ m, u = number m
    · obtain ⟨m, rfl⟩ := hunumber
      obtain ⟨m, rfl⟩ := Option.isSome_iff_exists.1 hu
      exact absurd h.symm (number_append_ne (hrest' _ rfl) ht (not_exists.1 htnumber))
    · have hnext := next?_chars (ht.isExact (not_exists.1 htnumber)) hrest
      rw [h, next?_chars (hu.isExact (not_exists.1 hunumber)) hrest'] at hnext
      cases hnext
      exact ⟨rfl, rfl⟩

/-! ### Lines -/

theorem hexDigit_ne_newline : ∀ n < 16, Text.hexDigit n ≠ '\n' := by decide

theorem newline_notMem_escaped (c : Char) : '\n' ∉ escaped c := by
  unfold escaped
  split_ifs with hquote hslash hb hf hnewline hr ht hcontrol
  iterate 7 · decide
  · have hhigh := hexDigit_ne_newline (c.toNat / 16) (by omega)
    have hlow := hexDigit_ne_newline (c.toNat % 16) (by omega)
    simp [hhigh.symm, hlow.symm]
  · simpa using Ne.symm hnewline

theorem newline_notMem_toDigits (n : ℕ) : '\n' ∉ Nat.toDigits 10 n := fun h =>
  absurd (Nat.isDigit_of_mem_toDigits (b := 10) (n := n) (by decide) (by decide) h) (by decide)

theorem newline_notMem_layout (d : Decimal) : '\n' ∉ Number.layout d := by
  have hdigits := newline_notMem_toDigits d.digits
  unfold Number.layout
  simp only
  split_ifs
  · simp [hdigits, List.mem_replicate]
  · intro h
    rcases List.mem_append.1 h with h | h
    · exact hdigits (List.mem_of_mem_take h)
    · exact hdigits (List.mem_of_mem_drop (List.mem_of_ne_of_mem (by decide) h))
  · simp [hdigits, List.mem_replicate]
  all_goals
    split <;> simp_all [newline_notMem_toDigits]

theorem newline_notMem_chars (t : Token) : '\n' ∉ t.chars := by
  cases t with
  | bool b => cases b <;> decide
  | openArray | closeArray | openObject | closeObject | comma | colon | null => decide
  | string s =>
    cases s with
    | none => exact List.not_mem_nil
    | some s => simp [chars, quoted, newline_notMem_escaped]
  | number n =>
    cases n with
    | none => exact List.not_mem_nil
    | some n =>
      cases n with
      | integer v =>
        simp only [chars, Number.chars]
        split_ifs <;> simp [newline_notMem_toDigits]
      | double x =>
        simp only [chars, Number.chars, Number.doubleChars]
        split_ifs <;> simp [newline_notMem_layout]

end Token

/-- **The text of a value is one line.** -/
theorem newline_notMem_render (v : Json) : '\n' ∉ v.render.toList := by
  rw [render, String.toList_ofList, Document.chars, List.mem_flatMap]
  rintro ⟨t, -, ht⟩
  exact Token.newline_notMem_chars t ht

/-! ### Values -/

/-- The token with which the text of a value begins. -/
def firstToken : Json → Token
  | .null => .null
  | .bool b => .bool b
  | .number n => .number (some n)
  | .string s => .string (some s)
  | .array _ => .openArray
  | .object _ => .openObject

/-- The text behind the first token. -/
def restTokens : Json → List Token
  | .null | .bool _ | .number _ | .string _ => []
  | .array [] => [.closeArray]
  | .array (v :: items) => v.document.tokens ++ Document.itemTokens (itemDocuments items)
  | .object [] => [.closeObject]
  | .object ((k, v) :: members) =>
    .string (some k) :: .colon :: (v.document.tokens ++
      Document.memberTokens (memberDocuments members))

theorem tokens_eq_cons (v : Json) : v.document.tokens = v.firstToken :: v.restTokens := by
  cases v with
  | null | bool | number | string => rfl
  | array items => cases items <;> rfl
  | object members => cases members <;> rfl

theorem hasValue_firstToken (v : Json) : v.firstToken.HasValue := by
  cases v <;> trivial

/-- The first tokens of equal texts are equal, and what is behind them. -/
theorem firstToken_append_inj {v w : Json} {rest rest' : List Char} (hrest : Token.EndsNumber rest)
    (hrest' : Token.EndsNumber rest') (h : v.document.chars ++ rest = w.document.chars ++ rest') :
    v.firstToken = w.firstToken ∧
      v.restTokens.flatMap Token.chars ++ rest = w.restTokens.flatMap Token.chars ++ rest' := by
  -- behind a number comes what is behind the value
  have hends {u : Json} {rest : List Char} (hrest : Token.EndsNumber rest) (n)
      (hn : u.firstToken = .number n) :
      Token.EndsNumber (u.restTokens.flatMap Token.chars ++ rest) := by
    cases u with
    | number => exact hrest
    | _ => cases hn
  simp only [Document.chars, tokens_eq_cons, List.flatMap_cons, List.append_assoc] at h
  exact Token.chars_append_inj (hasValue_firstToken v) (hasValue_firstToken w) (hends hrest)
    (hends hrest') h

theorem closeArray_append_ne (v : Json) {rest rest' : List Char} (hrest : Token.EndsNumber rest') :
    Token.closeArray.chars ++ rest ≠ v.document.chars ++ rest' := by
  intro h
  simp only [Document.chars, tokens_eq_cons, List.flatMap_cons, List.append_assoc] at h
  have hfirst := (Token.chars_append_inj (t := .closeArray) trivial (hasValue_firstToken v)
    (by simp) (fun n hn => ?_) h).1
  · cases v <;> cases hfirst
  · cases v with
    | number => exact hrest
    | _ => cases hn

theorem endsNumber_itemTokens (items : List Document) (rest : List Char) :
    Token.EndsNumber ((Document.itemTokens items).flatMap Token.chars ++ rest) := by
  cases items <;> exact Token.endsNumber_cons (by decide)

theorem endsNumber_memberTokens (members : List (Option String × Document)) (rest : List Char) :
    Token.EndsNumber ((Document.memberTokens members).flatMap Token.chars ++ rest) := by
  cases members <;> exact Token.endsNumber_cons (by decide)

theorem key_append_inj {k k' : String} {text text' : List Char}
    (h : (Token.string (some k)).chars ++ (Token.colon.chars ++ text) =
      (Token.string (some k')).chars ++ (Token.colon.chars ++ text')) : k = k' ∧ text = text' := by
  obtain ⟨hkey, hrest⟩ := Token.chars_append_inj (t := .string (some k)) (u := .string (some k'))
    rfl rfl (by simp) (by simp) h
  obtain ⟨rfl⟩ : k = k' := by simpa using hkey
  exact ⟨rfl, (List.cons.inj hrest).2⟩

open Token in
mutual

/-- **The text of a value shows which one it is**, and where it ends. -/
theorem chars_append_inj : (v w : Json) → {rest rest' : List Char} → EndsNumber rest →
    EndsNumber rest' → v.document.chars ++ rest = w.document.chars ++ rest' →
    v = w ∧ rest = rest'
  | .null, w, _, _, hrest, hrest', h => by
    obtain ⟨hfirst, hrests⟩ := firstToken_append_inj hrest hrest' h
    cases w <;> cases hfirst
    exact ⟨rfl, hrests⟩
  | .bool b, w, _, _, hrest, hrest', h => by
    obtain ⟨hfirst, hrests⟩ := firstToken_append_inj hrest hrest' h
    cases w <;> cases hfirst
    exact ⟨rfl, hrests⟩
  | .number n, w, _, _, hrest, hrest', h => by
    obtain ⟨hfirst, hrests⟩ := firstToken_append_inj hrest hrest' h
    cases w <;> cases hfirst
    exact ⟨rfl, hrests⟩
  | .string s, w, _, _, hrest, hrest', h => by
    obtain ⟨hfirst, hrests⟩ := firstToken_append_inj hrest hrest' h
    cases w <;> cases hfirst
    exact ⟨rfl, hrests⟩
  | .array [], w, _, _, hrest, hrest', h => by
    obtain ⟨hfirst, hrests⟩ := firstToken_append_inj hrest hrest' h
    cases w <;> cases hfirst
    next items =>
      cases items with
      | nil => exact ⟨rfl, (List.cons.inj hrests).2⟩
      | cons v items =>
        simp only [restTokens, List.flatMap_append, List.append_assoc] at hrests
        exact absurd hrests (closeArray_append_ne v (endsNumber_itemTokens _ _))
  | .array (v :: items), w, _, _, hrest, hrest', h => by
    obtain ⟨hfirst, hrests⟩ := firstToken_append_inj hrest hrest' h
    cases w <;> cases hfirst
    next items' =>
      cases items' with
      | nil =>
        simp only [restTokens, List.flatMap_append, List.append_assoc] at hrests
        exact absurd hrests.symm (closeArray_append_ne v (endsNumber_itemTokens _ _))
      | cons v' items' =>
        simp only [restTokens, List.flatMap_append, List.append_assoc] at hrests
        obtain ⟨rfl, hitems⟩ := chars_append_inj v v' (endsNumber_itemTokens _ _)
          (endsNumber_itemTokens _ _) hrests
        obtain ⟨rfl, hend⟩ := itemTokens_append_inj items items' hitems
        exact ⟨rfl, hend⟩
  | .object [], w, _, _, hrest, hrest', h => by
    obtain ⟨hfirst, hrests⟩ := firstToken_append_inj hrest hrest' h
    cases w <;> cases hfirst
    next members =>
      cases members with
      | nil => exact ⟨rfl, (List.cons.inj hrests).2⟩
      | cons m members => cases hrests
  | .object ((k, v) :: members), w, _, _, hrest, hrest', h => by
    obtain ⟨hfirst, hrests⟩ := firstToken_append_inj hrest hrest' h
    cases w <;> cases hfirst
    next members' =>
      cases members' with
      | nil => cases hrests
      | cons m' members' =>
        obtain ⟨k', v'⟩ := m'
        simp only [restTokens, List.flatMap_cons, List.flatMap_append, List.append_assoc] at hrests
        obtain ⟨rfl, hvalue⟩ := key_append_inj hrests
        obtain ⟨rfl, hmembers⟩ := chars_append_inj v v' (endsNumber_memberTokens _ _)
          (endsNumber_memberTokens _ _) hvalue
        obtain ⟨rfl, hend⟩ := memberTokens_append_inj members members' hmembers
        exact ⟨rfl, hend⟩

theorem itemTokens_append_inj : (items items' : List Json) → {rest rest' : List Char} →
    (Document.itemTokens (itemDocuments items)).flatMap chars ++ rest =
      (Document.itemTokens (itemDocuments items')).flatMap chars ++ rest' →
    items = items' ∧ rest = rest'
  | [], [], _, _, h => ⟨rfl, (List.cons.inj h).2⟩
  | [], _ :: _, _, _, h => by cases h
  | _ :: _, [], _, _, h => by cases h
  | v :: items, v' :: items', _, _, h => by
    simp only [itemDocuments, Document.itemTokens, List.flatMap_cons, List.flatMap_append,
      List.append_assoc] at h
    obtain ⟨rfl, hitems⟩ := chars_append_inj v v' (endsNumber_itemTokens _ _)
      (endsNumber_itemTokens _ _) (List.cons.inj h).2
    obtain ⟨rfl, hend⟩ := itemTokens_append_inj items items' hitems
    exact ⟨rfl, hend⟩

theorem memberTokens_append_inj : (members members' : List (String × Json)) →
    {rest rest' : List Char} →
    (Document.memberTokens (memberDocuments members)).flatMap chars ++ rest =
      (Document.memberTokens (memberDocuments members')).flatMap chars ++ rest' →
    members = members' ∧ rest = rest'
  | [], [], _, _, h => ⟨rfl, (List.cons.inj h).2⟩
  | [], _ :: _, _, _, h => by cases h
  | _ :: _, [], _, _, h => by cases h
  | (k, v) :: members, (k', v') :: members', _, _, h => by
    simp only [memberDocuments, Document.memberTokens, List.flatMap_cons, List.flatMap_append,
      List.append_assoc] at h
    obtain ⟨rfl, hvalue⟩ := key_append_inj (List.cons.inj h).2
    obtain ⟨rfl, hmembers⟩ := chars_append_inj v v' (endsNumber_memberTokens _ _)
      (endsNumber_memberTokens _ _) hvalue
    obtain ⟨rfl, hend⟩ := memberTokens_append_inj members members' hmembers
    exact ⟨rfl, hend⟩

end

/-- **Values with the same text are the same.** -/
theorem render_injective : Function.Injective render := by
  intro v w h
  have hchars : v.document.chars ++ [] = w.document.chars ++ [] := by
    rw [List.append_nil, List.append_nil]
    exact String.ofList_injective h
  exact (chars_append_inj v w Token.endsNumber_nil Token.endsNumber_nil hchars).1

end Json

/-! ### Messages -/

theorem CardAction.toJson_injective : Function.Injective CardAction.toJson := by
  intro a b h
  obtain ⟨⟩ := a
  obtain ⟨⟩ := b
  simpa [toJson] using h

namespace OutgoingMessage

open Json (memberIf lookup_memberIf)

/-- The members of the JSON form of a message, found by their names. -/
theorem lookup_toJson (m : OutgoingMessage) (members : List (String × Json))
    (h : m.toJson = .object members) :
    List.lookup "type" members = some (.string m.type) ∧
    List.lookup "text" members = some (.string m.text) ∧
    List.lookup "value" members = m.value ∧
    List.lookup "attachmentLayout" members = m.attachmentLayout.map .string ∧
    List.lookup "attachments" members = m.attachments.map .array ∧
    List.lookup "suggestedActions" members = (if m.suggestedActions.isEmpty then none
      else some (.array (m.suggestedActions.map CardAction.toJson))) ∧
    List.lookup "channelData" members =
      (if m.channelData.isEmpty then none else some (.object m.channelData)) := by
  rw [toJson, Json.ite_nil_member, Json.ite_nil_member] at h
  obtain rfl := Json.object.inj h
  simp [List.lookup_append, lookup_memberIf, Json.lookup_cons_members]

theorem eq_of_unless_isEmpty {α β : Type} {f : List α → β} (hf : Function.Injective f)
    {l l' : List α} (h : (if l.isEmpty then none else some (f l)) =
      if l'.isEmpty then none else some (f l')) : l = l' := by
  cases l with
  | nil =>
    cases l' with
    | nil => rfl
    | cons a l' => cases h
  | cons a l =>
    cases l' with
    | nil => cases h
    | cons b l' => exact hf (Option.some.inj h)

/-- **Messages with the same form are the same.** -/
theorem toJson_injective : Function.Injective toJson := by
  intro m m' h
  obtain ⟨htype, htext, hvalue, hlayout, hattachments, hactions, hdata⟩ := lookup_toJson m _ rfl
  obtain ⟨htype', htext', hvalue', hlayout', hattachments', hactions', hdata'⟩ :=
    lookup_toJson m' _ h.symm
  have hstring : Function.Injective Json.string := fun _ _ => Json.string.inj
  have harray : Function.Injective Json.array := fun _ _ => Json.array.inj
  have hobject : Function.Injective Json.object := fun _ _ => Json.object.inj
  have hforms : Function.Injective fun actions : List CardAction =>
      Json.array (actions.map CardAction.toJson) :=
    harray.comp (List.map_injective_iff.2 CardAction.toJson_injective)
  obtain ⟨⟩ := m
  obtain ⟨⟩ := m'
  obtain rfl := hstring (Option.some.inj (htype.symm.trans htype'))
  obtain rfl := hstring (Option.some.inj (htext.symm.trans htext'))
  obtain rfl := hvalue.symm.trans hvalue'
  obtain rfl := Option.map_injective hstring (hlayout.symm.trans hlayout')
  obtain rfl := Option.map_injective harray (hattachments.symm.trans hattachments')
  obtain rfl := eq_of_unless_isEmpty hforms (hactions.symm.trans hactions')
  obtain rfl := eq_of_unless_isEmpty hobject (hdata.symm.trans hdata')
  rfl

end OutgoingMessage

end Parley
