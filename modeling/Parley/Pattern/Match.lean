import Std.Data.HashMap
import Parley.Pattern.Form

/-!
# Matching

A pattern is matched against a text by sets of places.  The places of a text with `n` characters
are `0 … n`, and a set of them is a bit mask.  `Overlay` is a form laid over a text: each set of
characters and each condition has become the mask of the places where it holds.  `Overlay.reach`
takes the places where a match may begin to the places where one may end.  It follows a repetition
only from the places that its last round has reached for the first time, so there are no more
rounds than places.

`Form.occursIn` asks whether a match exists anywhere in a text.
-/

namespace Parley.Pattern

open Text (Ranges)

namespace Assertion

/-- Whether a condition holds between two characters, of which either may be missing. -/
def holds (a : Assertion) (before behind : Option Char) : Bool :=
  let word (alphabet : Alphabet) (c : Option Char) : Bool := c.any alphabet.isWord
  match a with
  | startOfText => before.isNone
  | endOfText => behind.isNone
  | startOfLine false => before.isNone || before == some '\n'
  | endOfLine false => behind.isNone || behind == some '\n'
  | startOfLine true =>
    before.isNone || before == some '\n' || (before == some '\r' && behind != some '\n')
  | endOfLine true =>
    behind.isNone || behind == some '\r' || (behind == some '\n' && before != some '\r')
  | wordBoundary alphabet => word alphabet before != word alphabet behind
  | noWordBoundary alphabet => word alphabet before == word alphabet behind
  | wordStart alphabet => !word alphabet before && word alphabet behind
  | wordEnd alphabet => word alphabet before && !word alphabet behind
  | wordStartHalf alphabet => !word alphabet before
  | wordEndHalf alphabet => !word alphabet behind

end Assertion

/-! ### Sets of places -/

/-- The places from `first` on at which something holds, as the bits of a number: `2 ^ level` places
are looked at, one half after the other. -/
def placesWhere (holds : Nat → Bool) : Nat → Nat → Nat
  | 0, first => if holds first then 1 else 0
  | level + 1, first =>
    let half := Nat.pow 2 level
    placesWhere holds level first ||| placesWhere holds level (first + half) <<< half

/-- The places of a set that are not in another. -/
def placesWithout (a b : Nat) : Nat := a ^^^ (a &&& b)

theorem testBit_placesWhere (holds : Nat → Bool) (level first i : Nat) :
    (placesWhere holds level first).testBit i =
      (decide (i < Nat.pow 2 level) && holds (first + i)) := by
  induction level generalizing first i with
  | zero =>
    cases i with
    | zero => cases h : holds first <;> simp [placesWhere, h]
    | succ i => cases h : holds first <;> simp [placesWhere, h, Nat.testBit_succ]
  | succ level ih =>
    have double : Nat.pow 2 (level + 1) = Nat.pow 2 level + Nat.pow 2 level := by
      have : Nat.pow 2 (level + 1) = Nat.pow 2 level * 2 := rfl
      omega
    simp only [placesWhere, Nat.testBit_or, Nat.testBit_shiftLeft, ih, double]
    by_cases low : i < Nat.pow 2 level
    · have high : ¬ Nat.pow 2 level ≤ i := Nat.not_le.2 low
      have all : i < Nat.pow 2 level + Nat.pow 2 level := by omega
      simp only [low, high, all, decide_true, decide_false, Bool.true_and, Bool.false_and,
        Bool.or_false]
    · have high : Nat.pow 2 level ≤ i := Nat.not_lt.1 low
      have same : first + Nat.pow 2 level + (i - Nat.pow 2 level) = first + i := by omega
      have less : i - Nat.pow 2 level < Nat.pow 2 level ↔
          i < Nat.pow 2 level + Nat.pow 2 level := by omega
      simp only [low, high, same, less, decide_false, decide_true, Bool.false_and, Bool.true_and,
        Bool.false_or]

theorem testBit_placesWithout (a b i : Nat) :
    (placesWithout a b).testBit i = (a.testBit i && !b.testBit i) := by
  simp only [placesWithout, Nat.testBit_xor, Nat.testBit_and]
  cases a.testBit i <;> cases b.testBit i <;> rfl

/-- A text made ready for matching. -/
structure Subject where
  chars : Array Char

namespace Subject

/-- A text as a subject. -/
def of (text : String) : Subject := ⟨text.toList.toArray⟩

/-- The number of the last place. -/
def size (s : Subject) : Nat := s.chars.size

/-- The character behind a place. -/
def behind (s : Subject) (place : Nat) : Option Char := s.chars[place]?

/-- The character before a place. -/
def before (s : Subject) (place : Nat) : Option Char :=
  match place with
  | 0 => none
  | place + 1 => s.behind place

/-- All places at which something holds. -/
def placesWhere (s : Subject) (holds : Nat → Bool) : Nat :=
  Pattern.placesWhere (fun place => place ≤ s.size && holds place) (s.size.log2 + 1) 0

/-- All places. -/
def all (s : Subject) : Nat := Nat.pow 2 (s.size + 1) - 1

/-- The places before a character of a set. -/
def placesBefore (s : Subject) (chars : Ranges) : Nat :=
  s.placesWhere fun place => (s.behind place).any chars.has

/-- The places where a condition holds. -/
def placesOf (s : Subject) (a : Assertion) : Nat :=
  s.placesWhere fun place => a.holds (s.before place) (s.behind place)

end Subject

/-! ### Overlays -/

/-- A form laid over a text. -/
inductive Overlay where
  /-- Nothing. -/
  | here
  /-- One character, from any of some places. -/
  | step (places : Nat)
  /-- A condition, at any of some places. -/
  | stay (places : Nat)
  /-- An overlay again and again. -/
  | again (o : Overlay) (least : Nat) (most : Option Nat)
  /-- Overlays one after the other. -/
  | chain (overlays : List Overlay)
  /-- One of several overlays. -/
  | fork (overlays : List Overlay)

/-- The places before a character of each set, for all sets of a form. -/
abbrev Atlas := Std.HashMap Ranges Nat

namespace Form

/-- The set of a character. -/
def charSet (c : Char) : Ranges := .single c.toNat

mutual

/-- The sets of characters that a form looks at. -/
def sets : Form → List Ranges
  | empty | look _ => []
  | literal chars => chars.map charSet
  | set chars => [chars]
  | repetition f .. => f.sets
  | capture _ f => f.sets
  | concat forms => listSets forms
  | choice forms => listSets forms

@[inherit_doc sets]
def listSets : List Form → List Ranges
  | [] => []
  | f :: rest => f.sets ++ listSets rest

end

/-- The places before a character of each set of a form.  A set is looked for once, however often it
is there. -/
def atlas (s : Subject) (f : Form) : Atlas :=
  f.sets.foldl (fun atlas chars =>
    if atlas.contains chars then atlas else atlas.insert chars (s.placesBefore chars)) ∅

/-- What is in an atlas stays right when sets are added to it, and they are in it then. -/
theorem getD_foldl_atlas (s : Subject) (sets : List Ranges) {chars : Ranges} {atlas : Atlas}
    (hatlas : ∀ chars, atlas.contains chars = true → atlas.getD chars 0 = s.placesBefore chars)
    (hmem : chars ∈ sets ∨ atlas.contains chars = true) :
    (sets.foldl (fun atlas chars =>
      if atlas.contains chars then atlas else atlas.insert chars (s.placesBefore chars))
      atlas).getD chars 0 = s.placesBefore chars := by
  induction sets generalizing atlas with
  | nil => exact hatlas chars (hmem.resolve_left List.not_mem_nil)
  | cons first rest ih =>
    rw [List.foldl_cons]
    split
    case isTrue hcontains =>
      refine ih hatlas ?_
      rcases hmem with hmem | hmem
      · rcases List.mem_cons.1 hmem with rfl | hmem
        · exact .inr hcontains
        · exact .inl hmem
      · exact .inr hmem
    case isFalse hcontains =>
      refine ih (fun chars' hchars' => ?_) ?_
      · rw [Std.HashMap.getD_insert]
        rw [Std.HashMap.contains_insert, Bool.or_eq_true] at hchars'
        split
        case isTrue heq => rw [eq_of_beq heq]
        case isFalse hne => exact hatlas chars' (hchars'.resolve_left hne)
      · rw [Std.HashMap.contains_insert, Bool.or_eq_true]
        rcases hmem with hmem | hmem
        · rcases List.mem_cons.1 hmem with rfl | hmem
          · exact .inr (.inl (BEq.refl _))
          · exact .inl hmem
        · exact .inr (.inr hmem)

theorem getD_atlas (s : Subject) {f : Form} {chars : Ranges} (h : chars ∈ f.sets) :
    (f.atlas s).getD chars 0 = s.placesBefore chars :=
  getD_foldl_atlas s f.sets (fun chars hchars => by simp at hchars) (.inl h)

mutual

/-- Lay a form over a text. -/
def overlay (s : Subject) (atlas : Atlas) : Form → Overlay
  | empty => .here
  | literal chars => .chain (chars.map fun c => .step (atlas.getD (charSet c) 0))
  | set chars => .step (atlas.getD chars 0)
  | look a => .stay (s.placesOf a)
  | repetition f least most _ => .again (f.overlay s atlas) least most
  | capture _ f => f.overlay s atlas
  | concat forms => .chain (overlays s atlas forms)
  | choice forms => .fork (overlays s atlas forms)

/-- Lay several forms over a text. -/
def overlays (s : Subject) (atlas : Atlas) : List Form → List Overlay
  | [] => []
  | f :: rest => f.overlay s atlas :: overlays s atlas rest

end

end Form

/-- Apply a step a number of times, or until it changes nothing. -/
def iterate (step : Nat → Nat) : Nat → Nat → Nat
  | 0, places => places
  | rounds + 1, places =>
    let next := step places
    if next = places then places else iterate step rounds next

/-- All places that a step reaches in at most so many rounds from those that are reached already.
Only what the last round has reached for the first time can lead to anything new. -/
def spread (step : Nat → Nat) : Nat → Nat → Nat → Nat
  | 0, reached, _ => reached
  | rounds + 1, reached, newest =>
    if newest = 0 then reached
    else
      let next := placesWithout (step newest) reached
      spread step rounds (reached ||| next) next

namespace Overlay

mutual

/-- The places where a match may end that begins at one of the given places. -/
def reach (rounds : Nat) : Overlay → Nat → Nat
  | here, places => places
  | step mask, places => (places &&& mask) <<< 1
  | stay mask, places => places &&& mask
  | again o least most, places =>
    let required := iterate (o.reach rounds) (Nat.min least rounds) places
    let further := match most with
      | none => rounds
      | some most => Nat.min (most - least) rounds
    spread (o.reach rounds) further required required
  | chain overlays, places => reachThrough rounds overlays places
  | fork overlays, places => reachAny rounds overlays places

/-- The places reached through overlays one after the other. -/
def reachThrough (rounds : Nat) : List Overlay → Nat → Nat
  | [], places => places
  | o :: rest, places => if places = 0 then 0 else reachThrough rounds rest (o.reach rounds places)

/-- The places reached through any of several overlays. -/
def reachAny (rounds : Nat) : List Overlay → Nat → Nat
  | [], _ => 0
  | o :: rest, places => o.reach rounds places ||| reachAny rounds rest places

end

end Overlay

namespace Form

/-- Whether a form matches somewhere in a text. -/
def occursIn (f : Form) (text : String) : Bool :=
  let s := Subject.of text
  (f.overlay s (f.atlas s)).reach (s.size + 1) s.all != 0

/-- Where a literal occurs does not depend on how its places are kept. -/
theorem occursIn_literal (chars : List Char) (text : String) :
    (literal chars).occursIn text =
      let s := Subject.of text
      let steps := chars.map fun c => Overlay.step (s.placesBefore (charSet c))
      (Overlay.chain steps).reach (s.size + 1) s.all != 0 := by
  have hsteps (s : Subject) : (literal chars).overlay s ((literal chars).atlas s) =
      .chain (chars.map fun c => .step (s.placesBefore (charSet c))) := by
    rw [overlay]
    refine congrArg Overlay.chain (List.map_congr_left fun c hc => ?_)
    rw [getD_atlas s (List.mem_map_of_mem hc)]
  rw [occursIn, hsteps]

end Form

end Parley.Pattern
