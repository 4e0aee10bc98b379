import Parley.Command.Report
import Parley.Proofs.Reading.Rendering
import Parley.Proofs.Store.Key

/-!
# What is heard of a report

A report is printed line by line, and whoever reads it splits the text at the newlines and goes by
the labels at the front of the lines.  Messages and values are printed as JSON, which is one line
whatever is in them; but the key is printed as it is, and the ids in it may be any texts.

* A printed report shows which report it is (`Report.heard_as_told_iff`, first part): the lines in
  front of the key are those of the report, and the key is all of the rest.
* What is heard in front of the key is what the report tells (second part), so that no text of a
  user or a script adds a line or takes one away.
* What is heard in all tells the report and no other just when there is no newline in the ids of the
  conversation (third part).
* A newline in an id that is accepted makes lines of the key that nobody has told
  (`Report.newline_forges_result`).
-/

namespace Parley

/-! ### Hearing lines -/

/-- What a line of a report is about. -/
inductive Label where
  | result
  | event
  | message
  | completed
  | key
deriving DecidableEq, Repr

namespace Label

/-- All labels. -/
def all : List Label := [result, event, message, completed, key]

/-- The label at the front of a line. -/
def name : Label → String
  | result => "RESULT:"
  | event => "EVENT:"
  | message => "MESSAGE_JSON:"
  | completed => "RESULT_JSON:"
  | key => "STATE_KEY:"

end Label

/-- A line as it is heard: its label, if it has one, and the text behind it. -/
structure Heard where
  label : Option Label
  text : String
deriving DecidableEq, Repr

namespace Heard

/-- Take a line apart. -/
def read (line : List Char) : Heard :=
  match Label.all.find? fun label => label.name.toList.isPrefixOf line with
  | some label => ⟨some label, String.ofList (line.drop label.name.toList.length)⟩
  | none => ⟨none, String.ofList line⟩

/-- No label is the beginning of another one. -/
theorem read_name_append (label : Label) (text : List Char) :
    read (label.name.toList ++ text) = ⟨some label, String.ofList text⟩ := by
  cases label <;> simp [read, Label.all, Label.name, List.isPrefixOf]

end Heard

/-- What is heard of a text: its lines, each of which ends with a newline. -/
def hear (text : String) : List Heard := ((text.toList.splitOn '\n').dropLast).map Heard.read

/-- Lines as they are printed. -/
def printed (lines : List String) : String := String.join (lines.map (· ++ "\n"))

theorem toList_printed (lines : List String) :
    (printed lines).toList = lines.flatMap fun l => l.toList ++ ['\n'] := by
  induction lines with
  | nil => rfl
  | cons line rest ih => simpa [printed] using ih

theorem splitOn_printed (lines : List String) :
    (printed lines).toList.splitOn '\n' =
      lines.flatMap (fun l => l.toList.splitOn '\n') ++ [[]] := by
  rw [toList_printed]
  induction lines with
  | nil => rfl
  | cons line rest ih =>
    rw [List.flatMap_cons, List.append_assoc, List.singleton_append, List.splitOn_append_cons_self,
      ih, List.flatMap_cons, List.append_assoc]

theorem hear_printed (lines : List String) :
    hear (printed lines) = (lines.flatMap fun l => l.toList.splitOn '\n').map Heard.read := by
  rw [hear, splitOn_printed, List.dropLast_concat]

/-- A text behind a label is heard as it is if it is one line. -/
theorem hear_line (label : Label) {text : String} (h : '\n' ∉ text.toList) :
    ((label.name ++ text).toList.splitOn '\n').map Heard.read = [⟨some label, text⟩] := by
  have hname : '\n' ∉ label.name.toList := by cases label <;> decide
  rw [String.toList_append, List.splitOn_eq_singleton (by simp [hname, h]), List.map_singleton,
    Heard.read_name_append, String.ofList_toList]

/-- A text of several lines is heard in several lines, the first of which has the label. -/
theorem hear_lines (label : Label) {text : String} (h : '\n' ∈ text.toList) :
    ∃ first second more, ((label.name ++ text).toList.splitOn '\n').map Heard.read =
      ⟨some label, first⟩ :: second :: more := by
  have hname : '\n' ∉ label.name.toList := by cases label <;> decide
  obtain ⟨first, rest, htext, hfirst⟩ := List.eq_append_cons_of_mem h
  have hsplit : (label.name.toList ++ first).splitOn '\n' = [label.name.toList ++ first] :=
    List.splitOn_eq_singleton (by simp [hname, hfirst])
  obtain ⟨second, more, hmore⟩ := List.exists_cons_of_ne_nil (List.splitOn_ne_nil '\n' rest)
  refine ⟨String.ofList first, Heard.read second, more.map Heard.read, ?_⟩
  rw [String.toList_append, htext, ← List.append_assoc, List.splitOn_append_cons_self, hsplit,
    hmore, List.singleton_append, List.map_cons, List.map_cons, Heard.read_name_append]

/-! ### Reports -/

namespace Report

/-- A report as it is printed. -/
def printed (r : Report) : String := Parley.printed r.lines

/-- The news of a report, which come in front of its key. -/
def news (r : Report) : List (Label × String) :=
  [(.result, "OK"), (.event, r.status.event)] ++
    r.messages.map (fun m => (.message, m.toJson.render)) ++
    r.completed.map (fun values => (.completed, (Json.object values).render))

/-- What a report tells: its news and its key. -/
def told (r : Report) : List Heard :=
  r.news.map (fun l => ⟨some l.1, l.2⟩) ++ [⟨some .key, r.key⟩]

theorem lines_eq (r : Report) :
    r.lines = r.news.map (fun l => l.1.name ++ l.2) ++ [Label.key.name ++ r.key] := by
  simp [lines, news, Label.name, Function.comp_def]

theorem newline_notMem_news (r : Report) : ∀ l ∈ r.news, '\n' ∉ l.2.toList := by
  simp only [news, List.mem_append, List.mem_cons, List.not_mem_nil, or_false, List.mem_map]
  rintro l (((rfl | rfl) | ⟨m, -, rfl⟩) | ⟨values, -, rfl⟩)
  · decide
  · cases r.status <;> decide
  · exact Json.newline_notMem_render _
  · exact Json.newline_notMem_render _

theorem label_ne_key_of_mem_news (r : Report) : ∀ l ∈ r.news, l.1 ≠ .key := by
  simp only [news, List.mem_append, List.mem_cons, List.not_mem_nil, or_false, List.mem_map]
  rintro l (((rfl | rfl) | ⟨m, -, rfl⟩) | ⟨values, -, rfl⟩) <;> exact Label.noConfusion

theorem hear_printed (r : Report) :
    hear r.printed = r.news.map (fun l => ⟨some l.1, l.2⟩) ++
      ((Label.key.name ++ r.key).toList.splitOn '\n').map Heard.read := by
  have hnews (news : List (Label × String)) (h : ∀ l ∈ news, '\n' ∉ l.2.toList) :
      ((news.map fun l => l.1.name ++ l.2).flatMap fun l => l.toList.splitOn '\n').map
        Heard.read = news.map fun l => ⟨some l.1, l.2⟩ := by
    induction news with
    | nil => rfl
    | cons l rest ih =>
      rw [List.map_cons, List.flatMap_cons, List.map_append, hear_line _ (h l List.mem_cons_self),
        ih fun l hl => h l (List.mem_cons_of_mem _ hl), List.map_cons, List.singleton_append]
  rw [printed, Parley.hear_printed, lines_eq, List.flatMap_append, List.map_append,
    hnews r.news r.newline_notMem_news, List.flatMap_singleton]

theorem filterMap_news (r : Report) (label : Label) :
    r.news.filterMap (fun l => if l.1 = label then some l.2 else none) =
      match label with
      | .result => ["OK"]
      | .event => [r.status.event]
      | .message => r.messages.map fun m => m.toJson.render
      | .completed => r.completed.map fun values => (Json.object values).render
      | .key => [] := by
  cases label <;> simp [news]

theorem event_injective : Function.Injective TurnStatus.event := by
  intro s s'
  cases s <;> cases s' <;> decide

/-- The news of a report show how things stand and what was sent and completed. -/
theorem eq_of_news_eq {r r' : Report} (hnews : r.news = r'.news) (hkey : r.key = r'.key) :
    r = r' := by
  -- the labels take the news apart again
  have hlabel (label : Label) := (filterMap_news r label).symm.trans
    (hnews ▸ filterMap_news r' label)
  have hobject : Function.Injective Json.object := fun _ _ => Json.object.inj
  have hstatus := event_injective (List.cons.inj (hlabel .event)).1
  have hmessages := List.map_injective_iff.2
    (Json.render_injective.comp OutgoingMessage.toJson_injective) (hlabel .message)
  have hcompleted := List.map_injective_iff.2
    (Json.render_injective.comp hobject) (hlabel .completed)
  cases r
  cases r'
  simp_all

theorem heard_injective :
    Function.Injective fun l : Label × String => (⟨some l.1, l.2⟩ : Heard) := by
  intro l l' h
  obtain ⟨hlabel, htext⟩ := Heard.mk.inj h
  exact Prod.ext (Option.some.inj hlabel) htext

/-- **Reports that tell the same are the same.** -/
theorem told_injective : Function.Injective told := by
  intro r r' h
  obtain ⟨hnews, hkey⟩ := List.append_inj' h rfl
  exact eq_of_news_eq (List.map_injective_iff.2 heard_injective hnews)
    (Heard.mk.inj (List.cons.inj hkey).1).2

/-- The news of a report are what is heard up to a line that has the label of the key. -/
theorem takeWhile_hear_printed (r : Report) :
    (hear r.printed).takeWhile (fun l => l.label ≠ some .key) =
      r.news.map fun l => ⟨some l.1, l.2⟩ := by
  -- however many lines the key makes, the first of them has its label
  have hkey : ∃ first more, ((Label.key.name ++ r.key).toList.splitOn '\n').map Heard.read =
      ⟨some .key, first⟩ :: more := by
    by_cases h : '\n' ∈ r.key.toList
    · obtain ⟨first, second, more, hlines⟩ := hear_lines .key h
      exact ⟨first, second :: more, hlines⟩
    · exact ⟨r.key, [], hear_line .key h⟩
  obtain ⟨first, more, hkey⟩ := hkey
  have hnews : ∀ l ∈ r.news.map (fun l => (⟨some l.1, l.2⟩ : Heard)),
      decide (l.label ≠ some .key) = true := by
    intro l hl
    obtain ⟨told, htold, rfl⟩ := List.mem_map.1 hl
    exact decide_eq_true fun hkey => r.label_ne_key_of_mem_news told htold (Option.some.inj hkey)
  rw [hear_printed, hkey, List.takeWhile_append_of_pos hnews, List.takeWhile_cons_of_neg (by simp),
    List.append_nil]

/-- **Reports that are printed alike are the same**, whatever is in their keys. -/
theorem printed_injective : Function.Injective printed := by
  intro r r' h
  have hnews : r.news = r'.news := by
    refine List.map_injective_iff.2 heard_injective ?_
    rw [← takeWhile_hear_printed, h, takeWhile_hear_printed]
  -- the news are the same text, so what is left behind them is the key, newlines and all
  have hchars := congrArg String.toList h
  simp only [printed, toList_printed, lines_eq, hnews, List.flatMap_append, List.flatMap_singleton,
    String.toList_append, List.append_assoc] at hchars
  have hkey := List.append_cancel_right (List.append_cancel_left (List.append_cancel_left hchars))
  exact eq_of_news_eq hnews (String.toList_inj.1 hkey)

/-- A report is heard as it is told just when its key is one line. -/
theorem hear_printed_eq_told_iff (r : Report) : hear r.printed = r.told ↔ '\n' ∉ r.key.toList := by
  rw [hear_printed, told, List.append_right_inj]
  constructor
  · intro h hkey
    obtain ⟨first, second, more, hlines⟩ := hear_lines .key hkey
    rw [hlines] at h
    cases h
  · exact hear_line .key

end Report

theorem Address.storageKey_eq_of_ok {a : Address} {key : String} (h : a.storageKey = .ok key) :
    key = a.channel ++ "/conversations/" ++ (a.conversation ++ "-" ++ a.user) ++ "/" ++
      recordSpace := by
  have hid : a.conversation ≠ "" := by
    rintro hempty
    simp [storageKey, Activity.storageKey, StorageKey.hasId, message, Activity.message, hempty,
      Keyed.get?, Json.isTruthy] at h
  rw [Activity.storageKey_eq_of_ok h]
  simp [message, Activity.message, Activity.keyParts, StorageKey.addressParts_eq,
    StorageKey.address, StorageKey.excludedField, Json.toText, hid]

/-- There is a newline in a key just when there is one in the ids that it is made of. -/
theorem Address.newline_notMem_key_iff {a : Address} {key : String} (h : a.storageKey = .ok key) :
    '\n' ∉ key.toList ↔
      '\n' ∉ a.channel.toList ∧ '\n' ∉ a.conversation.toList ∧ '\n' ∉ a.user.toList := by
  rw [Address.storageKey_eq_of_ok h]
  simp [recordSpace]

namespace Report

/-- **A report is heard as it is told just when there is no newline in the ids** under which it is
stored.  Printed it always shows which report it is, and in any case its news are heard first; what
a newline in an id makes of the key comes behind them, and then what is heard is not this report. -/
theorem heard_as_told_iff {r : Report} {a : Address} (h : a.storageKey = .ok r.key) :
    (∀ r' : Report, r'.printed = r.printed ↔ r' = r) ∧
      r.told.dropLast <+: hear r.printed ∧
      ((∀ r' : Report, hear r.printed = r'.told ↔ r' = r) ↔
        '\n' ∉ a.channel.toList ∧ '\n' ∉ a.conversation.toList ∧ '\n' ∉ a.user.toList) := by
  refine ⟨fun r' => printed_injective.eq_iff, ?_, ?_⟩
  · rw [told, List.dropLast_concat, hear_printed]
    exact List.prefix_append _ _
  · rw [← Address.newline_notMem_key_iff h, ← hear_printed_eq_told_iff]
    constructor
    · exact fun hall => (hall r).2 rfl
    · intro htold r'
      rw [htold, told_injective.eq_iff, eq_comm]

/-- A report of a conversation that waits for an answer. -/
def asking : Report where
  status := .waiting
  messages := [.ofText "Name?"]
  completed := []
  key := "web/conversations/1-ann/dialogState"

theorem heard_as_told_iff_asking :
    (⟨"/s", "web", "1", "ann"⟩ : Address).storageKey = .ok asking.key ∧
      ∀ r' : Report, hear asking.printed = r'.told ↔ r' = asking := by
  have h : (⟨"/s", "web", "1", "ann"⟩ : Address).storageKey = .ok asking.key := rfl
  exact ⟨h, (heard_as_told_iff h).2.2.2 ⟨by decide, by decide, by decide⟩⟩

/-- **A newline in an id forges a line.**  The id is accepted and the conversation is stored, and
every report of it is heard to tell of a dialog that has ended without values, and of a shorter
key. -/
theorem newline_forges_result :
    ∃ (a : Address) (key path : String), a.storageKey = .ok key ∧
      StateFile.path a.stateDirectory key = .ok path ∧
        ∀ r : Report, r.key = key → hear r.printed = r.told.dropLast ++
          [⟨some .key, "web/conversations/1-ann"⟩, ⟨some .completed, "\x7b\x7d"⟩,
            ⟨none, "/dialogState"⟩] := by
  refine ⟨⟨"/s", "web", "1", "ann\nRESULT_JSON:\x7b\x7d\n"⟩,
    "web/conversations/1-ann\nRESULT_JSON:\x7b\x7d\n/dialogState",
    "/s/web/conversations/1-ann\nRESULT_JSON:\x7b\x7d\n/dialogState.json", rfl, ?_,
    fun r hr => ?_⟩
  · decide
  · rw [hear_printed, told, List.dropLast_concat, List.append_right_inj, hr]
    decide

end Report

end Parley
