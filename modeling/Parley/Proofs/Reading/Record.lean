import Parley.Command.Record
import Parley.Proofs.Reading.Value

/-!
# Stored conversations read back

The record of a conversation is made of records inside each other: the stack, its frames, their
sessions and the options they were launched with.  Each of them reads back if its variables and line
numbers do (`Session.Exact`, `Record.Exact`), and so the text of a record is decoded as the record
just when its containers nest no deeper than they may (`Record.text?_render`).
-/

namespace Parley

open Decoder (Fields)
open Json (lookup_memberIf_append lookup_cons_members forall_mem_memberIf)

/-- Options whose values read back. -/
def LaunchOptions.Exact (o : LaunchOptions) : Prop := (Json.object o.values).Exact

/-- A session that reads back: its line numbers are words of 64 bits, and so are all integers among
its variables. -/
structure Session.Exact (s : Session) : Prop where
  stepIndex : s.stepIndex < Session.indexBound
  resumeIndex : ∀ i, s.resumeIndex = some i → i < Session.indexBound
  values : (Json.object s.values).Exact
  options : s.options.Exact

/-- A snapshot whose sessions read back. -/
def Snapshot.Exact (s : Snapshot) : Prop := ∀ f ∈ s.frames, f.session.Exact

theorem DialogStatus.reads (s : DialogStatus) : decoder.Reads (.string s.name) s := by
  refine Decoder.reads_choice ?_
  cases s <;> simp [names, name, List.lookup_cons]

theorem LaunchOptions.reads {o : LaunchOptions} (h : o.Exact) : decoder.Reads o.toJson o := by
  have hvalues := Decoder.reads_vars h
  refine Decoder.reads_record ?_ ?_ ?_ fun depth => ?_
  · simp only [List.forall_mem_append, forall_mem_memberIf]
    simp
  · cases o.thread <;> cases o.channel <;> simp [Json.memberIf]
  · simp only [List.forall_mem_append, forall_mem_memberIf, List.forall_mem_singleton]
    simp [hvalues.integral]
  · simp only [List.append_assoc, lookup_memberIf_append, lookup_cons_members,
      List.forall_mem_append, forall_mem_memberIf, List.forall_mem_singleton]
    rw [Fields.optional_string (s := o.thread) (by simp),
      Fields.optional_string (s := o.channel) (by simp),
      Fields.orElse_of_reads (by simp) hvalues]
    by_cases hdepth : (Json.object o.values).depth ≤ depth <;> simp [hdepth]

theorem Session.reads {s : Session} (h : s.Exact) : decoder.Reads s.toJson s := by
  have hvalues := Decoder.reads_vars h.values
  have hoptions := LaunchOptions.reads h.options
  have hstep := Decoder.reads_index h.stepIndex
  have hword := Decoder.reads_word32 s.rngState
  refine Decoder.reads_record ?_ ?_ ?_ fun depth => ?_
  · simp only [List.forall_mem_append, forall_mem_memberIf, List.forall_mem_cons]
    simp
  · cases s.resumeIndex <;> simp [Json.memberIf]
  · have hresume : ∀ v, s.resumeIndex.map Json.ofNat = some v → v.Integral := by
      intro v hv
      obtain ⟨i, hi, rfl⟩ := Option.map_eq_some_iff.1 hv
      exact (Decoder.reads_index (h.resumeIndex i hi)).integral
    simp only [List.forall_mem_append, forall_mem_memberIf, List.forall_mem_cons]
    exact ⟨⟨⟨trivial, hstep.integral, by simp⟩, hresume⟩, hvalues.integral, trivial,
      hoptions.integral, hword.integral, by simp⟩
  · simp only [List.cons_append, List.nil_append, lookup_memberIf_append,
      lookup_cons_members, List.forall_mem_append, forall_mem_memberIf, List.forall_mem_cons]
    rw [Fields.required_string (s := s.thread) (by simp),
      Fields.required_of_flat (by simp) hstep rfl,
      Fields.optional_index h.resumeIndex (by simp),
      Fields.required_of_reads (by simp) hvalues,
      Fields.required_of_flat (by simp) (DialogStatus.reads s.status) rfl,
      Fields.required_of_reads (by simp) hoptions,
      Fields.required_of_flat (by simp) hword rfl]
    by_cases hdepth : (Json.object s.values).depth ≤ depth <;>
      by_cases hdepth' : s.options.toJson.depth ≤ depth <;> simp [hdepth, hdepth']

theorem StoredFrame.reads {f : StoredFrame} (h : f.session.Exact) : decoder.Reads f.toJson f := by
  have hsession := Session.reads h
  refine Decoder.reads_record ?_ (by simp) ?_ fun depth => ?_
  · simp
  · simp [hsession.integral]
  · simp only [lookup_cons_members, List.forall_mem_cons]
    rw [Fields.required_string (s := f.dialog) (by simp),
      Fields.required_of_reads (by simp) hsession]
    by_cases hdepth : f.session.toJson.depth ≤ depth <;> simp [hdepth]

theorem Snapshot.reads {s : Snapshot} (h : s.Exact) : decoder.Reads s.toJson s := by
  have hframes := Decoder.Reads.list fun f hf => StoredFrame.reads (h f hf)
  refine Decoder.reads_record ?_ (by simp) ?_ fun depth => ?_
  · simp
  · simp [hframes.integral]
  · simp only [lookup_cons_members, List.forall_mem_cons]
    rw [Fields.required_of_reads (by simp) hframes]
    by_cases hdepth : (Json.array (s.frames.map StoredFrame.toJson)).depth ≤ depth <;>
      simp [hdepth]

namespace Record

/-- A record whose sessions read back. -/
def Exact (r : Record) : Prop := r.stack.Exact

/-- How deep the containers in the text of a record nest. -/
def depth (r : Record) : ℕ := r.toJson.depth

theorem reads {r : Record} (h : r.Exact) : decoder.Reads r.toJson r := by
  have hstack := Snapshot.reads h
  refine Decoder.reads_record ?_ (by simp) ?_ fun depth => ?_
  · simp
  · simp [hstack.integral]
  · simp only [lookup_cons_members, List.forall_mem_cons]
    rw [Fields.required_string (s := r.version) (by simp),
      Fields.required_string (s := r.scriptsDirectory) (by simp),
      Fields.required_string (s := r.entryDialog) (by simp),
      Fields.required_of_reads (by simp) hstack]
    by_cases hdepth : r.stack.toJson.depth ≤ depth <;> simp [hdepth]

/-- **The text of a record reads back** just when its containers nest no deeper than they may. -/
theorem text?_render {r : Record} (h : r.Exact) :
    decoder.text? r.toJson.render = if r.depth ≤ Decoder.depthLimit then some r else none :=
  (reads h).text?_render

end Record

end Parley
