import PublicLighting.Operations.Retention

/-! What the chunks of a retention run delete, and how the counts go with them. -/

namespace PublicLighting.Operations

open Foundations
open Foundations.OldestFirst

/-- The instant before which the rows of a table may go: the start of the run for a session,
the cutoff for the others. -/
def rowLimit (clock : ℤ × ℤ) : RetentionTable → ℤ
  | .adminRefreshSessions => clock.1
  | _ => clock.2

/-- The start and the cutoff that the run works with, if it gets to know them. -/
def capturedClock (surroundings : RetentionSurroundings) (options : RetentionOptions) : Option (ℤ × ℤ) :=
  match options.nowForTest with
  | some now =>
      match now, utcCalendarYearCutoff now with
      | some startedAt, .ok (some cutoff) => some (startedAt, cutoff)
      | _, _ => none
  | none => some (surroundings.serverNow / 1000, plusMonths (-12) surroundings.serverNow / 1000)

def mayDelete (clock : Option (ℤ × ℤ)) (table : RetentionTable) (row : RetentionRow) : Bool :=
  clock.any fun clock => isOlder (rowLimit clock table) row

def removedFrom (table : RetentionTable) (chunks : List RetentionChunk) : Nat :=
  (chunks.map fun chunk => if chunk.table = table then chunk.removed else 0).sum

def chunksOf (table : RetentionTable) (chunks : List RetentionChunk) : Nat :=
  chunks.countP fun chunk => chunk.table = table

def nonEmpty (chunks : List RetentionChunk) : Nat := chunks.countP fun chunk => chunk.removed ≠ 0

section Deleting

variable {rows : List RetentionRow} {tables : RetentionTables} {table : RetentionTable} {cutoff : ℤ}

theorem distinct_keys (distinct : (rows.map RetentionRow.id).Nodup) : (rows.map ageKey).Nodup := by
  apply List.Nodup.of_map fun key : ℤ ×ₗ Nat => (ofLex key).2
  rw [List.map_map]
  exact distinct

/-- The statement takes the eldest rows, which it finds by their ids. -/
theorem deleteOldest_eq (distinct : ((tables table).map RetentionRow.id).Nodup) :
    deleteOldest table cutoff tables =
      ((eldest ageKey (isOlder cutoff) retentionChunkSize (tables table)).length,
        Function.update tables table (left ageKey (isOlder cutoff) retentionChunkSize (tables table))) := by
  have target : ∀ row ∈ tables table,
      (decide (row.id ∈ (eldest ageKey (isOlder cutoff) retentionChunkSize (tables table)).map
        (·.id)) && isOlder cutoff row) =
        decide (row ∈ eldest ageKey (isOlder cutoff) retentionChunkSize (tables table)) := by
    intro row member
    rw [Bool.eq_iff_iff, Bool.and_eq_true, decide_eq_true_eq, decide_eq_true_eq, List.mem_map]
    constructor
    · intro ⟨⟨other, early, same⟩, _⟩
      rw [← List.inj_on_of_nodup_map distinct (mem_eldest early).1 member same]
      exact early
    · intro early
      exact ⟨⟨row, early, rfl⟩, (mem_eldest early).2⟩
  have gone : left ageKey (isOlder cutoff) retentionChunkSize (tables table) =
      (tables table).filter fun row =>
        !(decide (row.id ∈ (eldest ageKey (isOlder cutoff) retentionChunkSize (tables table)).map
          (·.id)) && isOlder cutoff row) := by
    apply List.filter_congr
    intro row member
    rw [target row member, decide_not]
  have number : (tables table).countP (fun row =>
      decide (row.id ∈ (eldest ageKey (isOlder cutoff) retentionChunkSize (tables table)).map
        (·.id)) && isOlder cutoff row) =
        (eldest ageKey (isOlder cutoff) retentionChunkSize (tables table)).length := by
    have whole := @left_length _ _ _ retentionChunkSize _ ageKey (isOlder cutoff) _ (distinct_keys distinct)
    rw [← @eldest_length _ _ _ _ _ ageKey, gone, ← List.countP_eq_length_filter] at whole
    have split := @List.length_eq_countP_add_countP _ (fun row : RetentionRow =>
      decide (row.id ∈ (eldest ageKey (isOlder cutoff) retentionChunkSize (tables table)).map
        (·.id)) && isOlder cutoff row)
      (tables table)
    simp only [Bool.not_eq_true, Bool.decide_eq_false] at split
    omega
  unfold deleteOldest
  rw [gone]
  exact Prod.ext number rfl

end Deleting

section Chunks

variable {table other : RetentionTable} {chunk : RetentionChunk} {chunks : List RetentionChunk}

theorem removedFrom_append : removedFrom other (chunks ++ [chunk]) =
    removedFrom other chunks + if chunk.table = other then chunk.removed else 0 := by
  rw [removedFrom, List.map_append, List.sum_append, List.map_singleton, List.sum_singleton, ← removedFrom]

theorem chunksOf_append : chunksOf other (chunks ++ [chunk]) =
    chunksOf other chunks + if chunk.table = other then 1 else 0 := by
  rw [chunksOf, List.countP_append, List.countP_singleton, ← chunksOf]
  simp only [decide_eq_true_eq]

theorem nonEmpty_append : nonEmpty (chunks ++ [chunk]) = nonEmpty chunks + if chunk.removed = 0 then 0 else 1 := by
  rw [nonEmpty, List.countP_append, List.countP_singleton, ← nonEmpty]
  split <;> simp_all

theorem removedFrom_le {size : Nat} (small : ∀ chunk ∈ chunks, chunk.removed ≤ size) :
    removedFrom table chunks ≤ chunksOf table chunks * size := by
  induction chunks with
  | nil => exact Nat.zero_le _
  | cons chunk chunks ih =>
      have rest := ih fun chunk member => small chunk (List.mem_cons_of_mem _ member)
      have first := small chunk List.mem_cons_self
      rw [removedFrom, chunksOf, List.map_cons, List.sum_cons, List.countP_cons, ← removedFrom,
        ← chunksOf, Nat.add_mul]
      simp only [decide_eq_true_eq]
      split
      · omega
      · omega

end Chunks

/-- The chunks whose `COMMIT` was answered. -/
def heardOf (chunks : List RetentionChunk) : List RetentionChunk := chunks.filter (·.heard)

def unheardOf (chunks : List RetentionChunk) : List RetentionChunk := chunks.filter fun chunk => !chunk.heard

/-- The committed tables lack the eldest rows, as many as the chunks say. -/
structure Deleted (clock : Option (ℤ × ℤ)) (start : RetentionTables) (quota : RetentionTable → Nat)
    (core : RetentionCore) : Prop where
  tables : ∀ table, core.committed table = left ageKey (mayDelete clock table) (removedFrom table core.chunks)
    (start table)
  within : ∀ table, removedFrom table core.chunks ≤ ((start table).filter (mayDelete clock table)).length
  bounded : ∀ table, chunksOf table core.chunks ≤ quota table
  small : ∀ chunk ∈ core.chunks, chunk.removed ≤ retentionChunkSize

/-- The counts tell of the chunks, all but a few that no answer came for. -/
structure Sound (clock : Option (ℤ × ℤ)) (start : RetentionTables) (quota : RetentionTable → Nat) (missing : Nat)
    (core : RetentionCore) : Prop extends Deleted clock start quota core where
  counted : ∀ table, core.counts.removed table = removedFrom table (heardOf core.chunks)
  chunks : core.counts.chunks = nonEmpty (heardOf core.chunks)
  unheard : (unheardOf core.chunks).length ≤ missing

/-- After the `COMMIT` of the next chunk. -/
def chunkCore (table : RetentionTable) (cutoff : ℤ) (heard : Bool) (core : RetentionCore) : RetentionCore :=
  { core with
    committed := (deleteOldest table cutoff core.committed).2
    chunks := core.chunks ++ [⟨table, (deleteOldest table cutoff core.committed).1, heard⟩] }

def countCore (table : RetentionTable) (removed : Nat) (core : RetentionCore) : RetentionCore :=
  if removed = 0 then core else { core with counts := countChunk table removed core.counts }

section Steps

variable {clock : Option (ℤ × ℤ)} {start : RetentionTables} {quota more : RetentionTable → Nat}
  {core : RetentionCore}
  {table : RetentionTable} {cutoff : ℤ} {missing : Nat}

theorem Deleted.distinct (deleted : Deleted clock start quota core)
    (distinct : ∀ table, ((start table).map RetentionRow.id).Nodup)
    (table : RetentionTable) : ((core.committed table).map RetentionRow.id).Nodup := by
  rw [deleted.tables]
  exact (distinct table).sublist (List.filter_sublist.map _)

theorem Deleted.chunk (deleted : Deleted clock start quota core)
    (distinct : ∀ table, ((start table).map RetentionRow.id).Nodup)
    (limited : mayDelete clock table = isOlder cutoff) (heard : Bool) :
    Deleted clock start (Function.update quota table (quota table + 1)) (chunkCore table cutoff heard core) := by
  have step := @deleteOldest_eq core.committed table cutoff (deleted.distinct distinct table)
  rw [← limited, deleted.tables table] at step
  have again := @left_again _ _ _ (removedFrom table core.chunks) retentionChunkSize _ ageKey
    (mayDelete clock table) _
    (distinct_keys (distinct table))
  have number := @eldest_left _ _ _ (removedFrom table core.chunks) retentionChunkSize _ ageKey
    (mayDelete clock table) _
    (distinct_keys (distinct table))
  have most := deleted.within table
  constructor
  · intro other
    simp only [chunkCore, removedFrom_append, step]
    by_cases same : table = other
    · cases same
      rw [if_pos rfl, Function.update_self]
      exact again
    · rw [if_neg same, Function.update_of_ne (Ne.symm same), Nat.add_zero]
      exact deleted.tables other
  · intro other
    simp only [chunkCore, removedFrom_append]
    by_cases same : table = other
    · cases same
      rw [if_pos rfl, step, number]
      omega
    · rw [if_neg same]
      exact deleted.within other
  · intro other
    simp only [chunkCore, chunksOf_append]
    have before := deleted.bounded other
    by_cases same : table = other
    · cases same
      rw [if_pos rfl, Function.update_self]
      omega
    · rw [if_neg same, Function.update_of_ne (Ne.symm same)]
      exact before
  · intro chunk member
    cases List.mem_append.mp member with
    | inl earlier => exact deleted.small chunk earlier
    | inr last =>
        rw [List.mem_singleton.mp last, step]
        exact number.trans_le (Nat.min_le_left _ _)

theorem Deleted.mono (deleted : Deleted clock start quota core) (wider : ∀ table, quota table ≤ more table) :
    Deleted clock start more core :=
  { deleted with bounded := fun table => (deleted.bounded table).trans (wider table) }

theorem Sound.mono (sound : Sound clock start quota missing core) (wider : ∀ table, quota table ≤ more table) :
    Sound clock start more missing core :=
  { sound with toDeleted := sound.toDeleted.mono wider }

theorem Sound.same (sound : Sound clock start quota missing core) {other : RetentionCore}
    (committed : other.committed = core.committed)
    (chunks : other.chunks = core.chunks) (removed : other.counts.removed = core.counts.removed)
    (number : other.counts.chunks = core.counts.chunks) : Sound clock start quota missing other := by
  obtain ⟨⟨tables, within, bounded, small⟩, counted, numbered, unheard⟩ := sound
  rw [← committed, ← chunks] at tables
  rw [← chunks] at within bounded small counted numbered unheard
  rw [← removed] at counted
  rw [← number] at numbered
  exact ⟨⟨tables, within, bounded, small⟩, counted, numbered, unheard⟩

theorem Sound.lost (sound : Sound clock start quota 0 core)
    (distinct : ∀ table, ((start table).map RetentionRow.id).Nodup)
    (limited : mayDelete clock table = isOlder cutoff) :
    Sound clock start (Function.update quota table (quota table + 1)) 1 (chunkCore table cutoff false core) := by
  have heard : heardOf (chunkCore table cutoff false core).chunks = heardOf core.chunks := by
    simp [chunkCore, heardOf]
  refine ⟨sound.toDeleted.chunk distinct limited false, ?_, ?_, ?_⟩
  · intro other
    rw [heard]
    exact sound.counted other
  · rw [heard]
    exact sound.chunks
  · have unheard : unheardOf (chunkCore table cutoff false core).chunks =
        unheardOf core.chunks ++ [⟨table, (deleteOldest table cutoff core.committed).1, false⟩] := by
      simp [chunkCore, unheardOf]
    rw [unheard, List.length_append]
    exact Nat.add_le_add_right sound.unheard 1

theorem Sound.next (sound : Sound clock start quota 0 core)
    (distinct : ∀ table, ((start table).map RetentionRow.id).Nodup)
    (limited : mayDelete clock table = isOlder cutoff) :
    Sound clock start (Function.update quota table (quota table + 1)) 0
      (countCore table (deleteOldest table cutoff core.committed).1 (chunkCore table cutoff true core)) := by
  have deleted := sound.toDeleted.chunk distinct limited true
  have heard : heardOf (chunkCore table cutoff true core).chunks =
      heardOf core.chunks ++ [⟨table, (deleteOldest table cutoff core.committed).1, true⟩] := by
    simp [chunkCore, heardOf]
  have unheard : unheardOf (chunkCore table cutoff true core).chunks = unheardOf core.chunks := by
    simp [chunkCore, unheardOf]
  unfold countCore
  split
  · rename_i nothing
    refine ⟨deleted, ?_, ?_, ?_⟩
    · intro other
      rw [heard, removedFrom_append, nothing, ite_self]
      exact sound.counted other
    · rw [heard, nonEmpty_append, if_pos nothing]
      exact sound.chunks
    · rw [unheard]
      exact sound.unheard
  · rename_i some
    refine ⟨⟨deleted.tables, deleted.within, deleted.bounded, deleted.small⟩, ?_, ?_, ?_⟩
    · intro other
      change Function.update core.counts.removed table _ other = _
      rw [heard, removedFrom_append]
      by_cases same : table = other
      · cases same
        rw [Function.update_self, if_pos rfl]
        exact congrArg (· + _) (sound.counted table)
      · rw [Function.update_of_ne (Ne.symm same), if_neg same]
        exact sound.counted other
    · change core.counts.chunks + 1 = _
      rw [heard, nonEmpty_append, if_neg some, sound.chunks]
    · change (unheardOf (chunkCore table cutoff true core).chunks).length ≤ 0
      rw [unheard]
      exact sound.unheard

end Steps

end PublicLighting.Operations
