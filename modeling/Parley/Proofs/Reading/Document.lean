import Mathlib.Data.List.Chain
import Parley.Json.Document
import Parley.Proofs.Reading.Token

/-!
# Documents read back

The writer lists the tokens of a document and spells them one behind the other; the parser cuts
the text and runs a machine on the pieces.  Both ways are followed here.

The machine comes to the end of a document where it began, with the document complete
(`Machine.run_tokens`, by induction on the document, its items and its members).  The text of any
tokens that the machine takes is cut where they end (`Token.lex_flatMap_chars`): only a number
could run on into the next token, and behind a number the machine takes no number
(`Machine.isChain_of_run`).  So a document all of whose tokens are exact reads back
(`Document.parse?_chars`).
-/

namespace Parley

open Json (Token)

/-! ### Cutting -/

namespace Json.Token

/-- Two tokens can stand side by side. -/
def Apart (t u : Token) : Prop := ∀ n m, t = number n → u ≠ number m

/-- No token but a number begins like the rest of one. -/
theorem endsNumber_chars_append {t : Token} (h : t.IsExact) (hnumber : ∀ n, t ≠ number n)
    (rest : List Char) : EndsNumber (t.chars ++ rest) := by
  cases t with
  | number n => exact absurd rfl (hnumber n)
  | string s =>
    obtain ⟨text, rfl⟩ := Option.isSome_iff_exists.1 h
    exact endsNumber_cons (by decide)
  | bool b => cases b <;> exact endsNumber_cons (by decide)
  | openArray | closeArray | openObject | closeObject | comma | colon | null =>
    exact endsNumber_cons (by decide)

/-- Spelled tokens that can stand side by side are cut where they end. -/
theorem lexAll_flatMap_chars {ts : List Token} (hexact : ∀ t ∈ ts, t.IsExact)
    (hapart : ts.IsChain Apart) (done : List Token) :
    lexAll done (ts.flatMap chars) = some (done.reverse ++ ts) := by
  induction ts generalizing done with
  | nil =>
    rw [List.append_nil]
    exact lexAll_nil done
  | cons t ts ih =>
    have hrest : ∀ n, t = number n → EndsNumber (ts.flatMap chars) := by
      intro n hn
      cases ts with
      | nil => exact endsNumber_nil
      | cons u us =>
        have hu : u.IsExact := hexact u (by simp)
        exact endsNumber_chars_append hu (fun m => hapart.rel n m hn) _
    rw [List.flatMap_cons, lexAll_chars_append (hexact t List.mem_cons_self) hrest,
      ih (fun u hu => hexact u (List.mem_cons_of_mem t hu)) hapart.of_cons, List.reverse_cons,
      List.append_assoc, List.singleton_append]

theorem lex_flatMap_chars {ts : List Token} (hexact : ∀ t ∈ ts, t.IsExact)
    (hapart : ts.IsChain Apart) : lex (ts.flatMap chars) = some ts :=
  lexAll_flatMap_chars hexact hapart []

end Json.Token

namespace Document

/-! ### Parsing -/

namespace Machine

theorem run_cons (m : Machine) (t : Token) (ts : List Token) :
    m.run (t :: ts) = (m.step t).bind (run · ts) := List.foldlM_cons

theorem step_complete_number (opened : List Context) (d : Document) (n : Option Json.Number) :
    (complete opened d).step (.number n) = none := by
  cases opened with
  | nil => rfl
  | cons context rest => cases context <;> rfl

theorem step_number_of_step_number {m m' : Machine} {n : Option Json.Number}
    (h : m.step (.number n) = some m') (n' : Option Json.Number) : m'.step (.number n') = none := by
  cases m with
  | finished d => cases h
  | running opened expected =>
    have hcomplete : m' = complete opened (.number n) := by
      cases expected with
      | value => exact (Option.some.inj h).symm
      | firstItem | firstKey | key | colon | separator =>
        cases opened with
        | nil => cases h <;> rfl
        | cons context rest => cases context <;> cases h <;> rfl
    rw [hcomplete]
    exact step_complete_number opened _ n'

/-- Tokens that the machine takes can stand side by side. -/
theorem isChain_of_run {m m' : Machine} {ts : List Token} (h : m.run ts = some m') :
    ts.IsChain Token.Apart := by
  induction ts generalizing m with
  | nil => exact .nil
  | cons t ts ih =>
    rw [run_cons] at h
    obtain ⟨m₁, hstep, hrest⟩ := Option.bind_eq_some_iff.1 h
    cases ts with
    | nil => exact .singleton t
    | cons u us =>
      refine .cons_cons (fun n n' hn hn' => ?_) (ih hrest)
      subst hn hn'
      rw [run_cons, step_number_of_step_number hstep n'] at hrest
      cases hrest

/-- A document does not begin with the end of an array. -/
theorem run_firstItem (done : List Document) (opened : List Context) (d : Document)
    (rest : List Token) :
    run (running (.items done :: opened) .firstItem) (d.tokens ++ rest) =
      run (running (.items done :: opened) .value) (d.tokens ++ rest) := by
  cases d with
  | null | bool b | number n | string s => rfl
  | array items => cases items <;> rfl
  | object members => cases members <;> rfl

mutual

/-- **The machine completes a document** where it began with it. -/
theorem run_tokens (opened : List Context) (rest : List Token) : (d : Document) →
    run (running opened .value) (d.tokens ++ rest) = run (complete opened d) rest
  | .null => rfl
  | .bool _ => rfl
  | .number _ => rfl
  | .string _ => rfl
  | .array [] => rfl
  | .array (d :: items) => by
    have hfirst : run (running opened .value) ((Document.array (d :: items)).tokens ++ rest) =
        run (running (.items [] :: opened) .firstItem)
          (d.tokens ++ (itemTokens items ++ rest)) := by
      rw [tokens, List.cons_append, List.append_assoc]
      rfl
    rw [hfirst, run_firstItem, run_tokens _ _ d]
    exact run_itemTokens opened [d] rest items
  | .object [] => rfl
  | .object ((k, d) :: members) => by
    have hfirst :
        run (running opened .value) ((Document.object ((k, d) :: members)).tokens ++ rest) =
          run (running (.members [] k :: opened) .value)
            (d.tokens ++ (memberTokens members ++ rest)) := by
      rw [tokens, List.cons_append, List.cons_append, List.cons_append, List.append_assoc]
      rfl
    rw [hfirst, run_tokens _ _ d]
    exact run_memberTokens opened [(k, d)] k rest members

theorem run_itemTokens (opened : List Context) (done : List Document) (rest : List Token) :
    (items : List Document) →
    run (running (.items done :: opened) .separator) (itemTokens items ++ rest) =
      run (complete opened (.array (done.reverse ++ items))) rest
  | [] => by
    rw [List.append_nil]
    rfl
  | d :: items => by
    have hfirst : run (running (.items done :: opened) .separator)
        (itemTokens (d :: items) ++ rest) =
          run (running (.items done :: opened) .value)
            (d.tokens ++ (itemTokens items ++ rest)) := by
      rw [itemTokens, List.cons_append, List.append_assoc]
      rfl
    rw [hfirst, run_tokens _ _ d]
    refine (run_itemTokens opened (d :: done) rest items).trans ?_
    rw [List.reverse_cons, List.append_assoc, List.singleton_append]

theorem run_memberTokens (opened : List Context) (done : List (Option String × Document))
    (key : Option String) (rest : List Token) : (members : List (Option String × Document)) →
    run (running (.members done key :: opened) .separator) (memberTokens members ++ rest) =
      run (complete opened (.object (done.reverse ++ members))) rest
  | [] => by
    rw [List.append_nil]
    rfl
  | (k, d) :: members => by
    have hfirst : run (running (.members done key :: opened) .separator)
        (memberTokens ((k, d) :: members) ++ rest) =
          run (running (.members done k :: opened) .value)
            (d.tokens ++ (memberTokens members ++ rest)) := by
      rw [memberTokens, List.cons_append, List.cons_append, List.cons_append, List.append_assoc]
      rfl
    rw [hfirst, run_tokens _ _ d]
    refine (run_memberTokens opened ((k, d) :: done) k rest members).trans ?_
    rw [List.reverse_cons, List.append_assoc, List.singleton_append]

end

theorem run_value_tokens (d : Document) :
    run (running [] .value) d.tokens = some (finished d) := by
  have h := run_tokens [] [] d
  rw [List.append_nil] at h
  exact h

end Machine

theorem ofTokens?_tokens (d : Document) : ofTokens? d.tokens = some d := by
  rw [ofTokens?, Machine.run_value_tokens]

/-- **A document reads back** if all its tokens do. -/
theorem parse?_chars {d : Document} (h : ∀ t ∈ d.tokens, t.IsExact) :
    parse? (String.ofList d.chars) = some d := by
  rw [parse?, String.toList_ofList, chars,
    Token.lex_flatMap_chars h (Machine.isChain_of_run (Machine.run_value_tokens d)),
    Option.bind_some, ofTokens?_tokens]

end Document

end Parley
