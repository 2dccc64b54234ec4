import Mathlib.Data.List.DropRight
import Mathlib.Data.List.Induction
import Mathlib.Tactic.Common

/-! Logs of records that each end with one stop, where what follows the last stop counts for nothing:
what a log holds, what a torn write leaves of it and what can be cut off it. -/

namespace PublicLighting.Foundations.RecordLog

variable {α : Type*} {stop : α} {records others : List (List α)} {record contents later tail part : List α}

def frame (stop : α) (records : List (List α)) : List α := records.flatMap (· ++ [stop])

/-- The log holds these records, and after them only a torn one. -/
structure Holds (stop : α) (contents : List α) (records : List (List α)) : Prop where
  clean : ∀ record ∈ records, stop ∉ record
  torn : ∃ tail, contents = frame stop records ++ tail ∧ stop ∉ tail

theorem frame_cons (record : List α) (records : List (List α)) :
    frame stop (record :: records) = record ++ [stop] ++ frame stop records := List.flatMap_cons

theorem frame_concat (records : List (List α)) (record : List α) :
    frame stop (records ++ [record]) = frame stop records ++ (record ++ [stop]) := by
  simp [frame]

theorem frame_intercalate (record : List α) (records : List (List α)) :
    frame stop (record :: records) = [stop].intercalate (record :: records) ++ [stop] := by
  induction records generalizing record with
  | nil => simp [frame]
  | cons next records ih =>
      rw [frame_cons, ih, List.intercalate_cons_cons]
      simp

/-- A torn write has written the whole record with its stop, or no stop. -/
theorem torn_write (clean : stop ∉ record) (cut : part <+: record ++ [stop]) : part = record ++ [stop] ∨
    stop ∉ part := by
  rcases List.prefix_concat_iff.mp cut with whole | inside
  · exact Or.inl whole
  · exact Or.inr fun member => clean (inside.subset member)

theorem Holds.nil : Holds stop [] [] := ⟨by simp, [], rfl, List.not_mem_nil⟩

/-- What is left of a log that is cut off anywhere. -/
theorem Holds.cut (holds : Holds stop contents records) (cut : part <+: contents) :
    ∃ kept, kept <+: records ∧ Holds stop part kept := by
  obtain ⟨tail, rfl, whole⟩ := holds.torn
  have clean := holds.clean
  clear holds
  induction records generalizing part with
  | nil =>
      exact ⟨[], List.nil_prefix, by simp, part, rfl, fun member => whole (cut.subset member)⟩
  | cons record records ih =>
      rw [frame_cons, List.append_assoc] at cut
      have first := clean record List.mem_cons_self
      obtain ⟨rest, whole'⟩ := cut
      rcases List.append_eq_append_iff.mp whole' with ⟨middle, short, _⟩ | ⟨middle, rfl, long⟩
      · rcases torn_write first ⟨middle, short.symm⟩ with rfl | torn
        · have one : Holds stop (record ++ [stop]) [record] := ⟨by simpa using first, [], by simp [frame], by simp⟩
          exact ⟨[record], by simp, one⟩
        · exact ⟨[], List.nil_prefix, by simp, part, rfl, torn⟩
      · have later : ∀ other ∈ records, stop ∉ other :=
          fun other member => clean other (List.mem_cons_of_mem _ member)
        obtain ⟨kept, leads, clear, tail, rfl, torn⟩ := ih ⟨rest, long.symm⟩ later
        refine ⟨record :: kept, by simpa using leads, ?_, tail, ?_, torn⟩
        · simpa using ⟨first, clear⟩
        · rw [frame_cons, List.append_assoc (record ++ [stop])]

section Reading

variable [DecidableEq α]

def committed (stop : α) (contents : List α) : List α := contents.rdropWhile (· ≠ stop)

/-- The records of the committed part, without their stops. -/
def split (stop : α) (contents : List α) : List (List α) :=
  if committed stop contents = [] then [] else (committed stop contents).dropLast.splitOn stop

theorem rdropWhile_tail (log : List α) (whole : stop ∉ tail) :
    (log ++ tail).rdropWhile (· ≠ stop) = log.rdropWhile (· ≠ stop) := by
  induction tail using List.reverseRecOn with
  | nil => rw [List.append_nil]
  | append_singleton tail last ih =>
      rw [List.mem_append, List.mem_singleton, not_or] at whole
      rw [← List.append_assoc, List.rdropWhile_concat_pos _ _ _ (by simpa using Ne.symm whole.2), ih whole.1]

theorem committed_frame (records : List (List α)) (whole : stop ∉ tail) :
    committed stop (frame stop records ++ tail) = frame stop records := by
  rw [committed, rdropWhile_tail _ whole]
  induction records using List.reverseRecOn with
  | nil => rfl
  | append_singleton records record _ =>
      rw [frame_concat, ← List.append_assoc, List.rdropWhile_concat_neg _ _ _ (by simp)]

theorem Holds.committed (holds : Holds stop contents records) : committed stop contents = frame stop records := by
  obtain ⟨tail, rfl, whole⟩ := holds.torn
  exact committed_frame records whole

theorem Holds.split (holds : Holds stop contents records) : split stop contents = records := by
  rw [RecordLog.split, holds.committed]
  cases records with
  | nil => rfl
  | cons record records =>
      rw [if_neg (by simp [frame]), frame_intercalate, List.dropLast_concat]
      exact List.splitOn_intercalate stop holds.clean (List.cons_ne_nil record records)

theorem holds_unique (one : Holds stop contents records) (other : Holds stop contents others) :
    records = others := by
  rw [← one.split, other.split]

theorem Holds.leads (one : Holds stop contents records) (other : Holds stop later others)
    (grown : contents <+: later) :
    records <+: others := by
  obtain ⟨kept, leads, same⟩ := other.cut grown
  rw [holds_unique one same]
  exact leads

theorem Holds.repaired (holds : Holds stop contents records) :
    Holds stop (RecordLog.committed stop contents) records where
  clean := holds.clean
  torn := ⟨[], by rw [holds.committed, List.append_nil], List.not_mem_nil⟩

/-- What a log holds while a record is written behind its committed part. -/
theorem Holds.write (holds : Holds stop contents records) (clean : stop ∉ record) (cut : part <+: record ++ [stop]) :
    part = record ++ [stop] ∧ Holds stop (RecordLog.committed stop contents ++ part) (records ++ [record]) ∨
      stop ∉ part ∧ Holds stop (RecordLog.committed stop contents ++ part) records := by
  rw [holds.committed]
  rcases torn_write clean cut with rfl | short
  · refine Or.inl ⟨rfl, ?_, [], ?_, List.not_mem_nil⟩
    · intro other member
      rcases List.mem_append.mp member with earlier | last
      · exact holds.clean other earlier
      · rw [List.mem_singleton.mp last]
        exact clean
    · rw [frame_concat, List.append_nil]
  · exact Or.inr ⟨short, holds.clean, part, rfl, short⟩

theorem committed_committed (contents : List α) :
    committed stop (committed stop contents) = committed stop contents :=
  List.rdropWhile_idempotent _ _

theorem committed_leads (contents : List α) : committed stop contents <+: contents := List.rdropWhile_prefix _ _

end Reading

end PublicLighting.Foundations.RecordLog
