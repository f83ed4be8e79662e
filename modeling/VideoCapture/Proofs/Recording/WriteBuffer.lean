import Mathlib.Tactic.Lemma
import VideoCapture.Recording.WriteBuffer

/-!
# Write buffers keep the stream

A write buffer and the writer behind it together carry one stream of bytes: what the writer has received,
followed by what is still gathered (`WriteBuffer.Carries`). Every operation keeps that, whether its writes
succeed or fail, and never takes anything back from the writer. What a writer has received is a relation
`R` of which only `Writer.Lawful` is asked: a write adds all of its bytes or none.
-/

namespace VideoCapture

/-- The relation `R` tells what a writer has received: a write adds all of its bytes, or none if it fails. -/
structure Writer.Lawful {ω : Type} [Writer ω] (R : ω → Bytes → Prop) : Prop where
  written : ∀ {out after r bytes}, R out r → Writer.write out bytes = (.ok (), after) →
    R after (r ++ bytes)
  refused : ∀ {out after r bytes error}, R out r → Writer.write out bytes = (.error error, after) →
    R after r
  flushed : ∀ {out r}, R out r → R (Writer.flush out).2 r

/-- The writer never fails. -/
structure Writer.Reliable {ω : Type} [Writer ω] (R : ω → Bytes → Prop) : Prop extends
    Writer.Lawful R where
  succeeds : ∀ {out r} bytes, R out r → (Writer.write out bytes).1 = .ok ()
  flushes : ∀ {out r}, R out r → (Writer.flush out).1 = .ok ()

namespace WriteBuffer

/-- What an operation with the given result has taken of its bytes: all of them, or none if it failed. -/
def taken {ε : Type} (result : Except ε Unit) (bytes : Bytes) : Bytes :=
  match result with
  | .ok () => bytes
  | .error _ => []

/-- An operation that succeeded has taken its bytes. -/
@[simp] lemma taken_ok {ε : Type} (bytes : Bytes) : taken (.ok () : Except ε Unit) bytes = bytes := rfl

/-- An operation that failed has taken nothing. -/
@[simp] lemma taken_error {ε : Type} (error : ε) (bytes : Bytes) : taken (.error error) bytes = [] := rfl

variable {ω : Type} {R : ω → Bytes → Prop}

/-- A buffer with the given limit and its writer carry a stream, of which the writer has received the
first part. -/
structure Carries (R : ω → Bytes → Prop) (limit : Nat) (buffer : WriteBuffer) (out : ω)
    (received stream : Bytes) : Prop where
  reaches : R out received
  whole : received ++ buffer.pending = stream
  limit_eq : buffer.limit = limit
  within : buffer.pending.length ≤ limit
  counted : buffer.stats.written = received.length

/-- Other counters and the clock do not matter. -/
lemma Carries.recount {limit : Nat} {buffer other : WriteBuffer} {out : ω} {received stream : Bytes}
    (carries : Carries R limit buffer out received stream) (gathered : other.gathered = buffer.gathered)
    (same : other.limit = buffer.limit) (written : other.stats.written = buffer.stats.written) :
    Carries R limit other out received stream := by
  obtain ⟨reaches, whole, limit_eq, within, counted⟩ := carries
  refine ⟨reaches, ?_, same.trans limit_eq, ?_, written.trans counted⟩
  · rw [pending, gathered]
    exact whole
  · rw [pending, gathered]
    exact within

/-- Gathering bytes for which there is room makes the stream longer. -/
lemma Carries.gather {limit : Nat} {buffer : WriteBuffer} {out : ω} {received stream : Bytes}
    (carries : Carries R limit buffer out received stream) {bytes : Bytes}
    (room : buffer.gathered.size + bytes.length ≤ limit) :
    Carries R limit (buffer.gather bytes) out received (stream ++ bytes) where
  reaches := carries.reaches
  whole := by rw [pending_gather, ← List.append_assoc, carries.whole]
  limit_eq := carries.limit_eq
  within := by
    rw [pending_gather, List.length_append, pending, ByteLog.length_toBytes]
    exact room
  counted := carries.counted

variable [Writer ω]

/-- Writing out what is gathered leaves the stream as it is, and the buffer empty unless it failed. -/
lemma Carries.writePending (law : Writer.Lawful R) {limit now : Nat} {buffer buffer' : WriteBuffer}
    {out out' : ω} {received stream : Bytes} {result : Except FileError Unit}
    (carries : Carries R limit buffer out received stream)
    (run : buffer.writePending out now = (result, buffer', out')) :
    ∃ received', Carries R limit buffer' out' received' stream ∧ received <+: received' ∧
      (result = .ok () → buffer'.pending = []) := by
  unfold WriteBuffer.writePending at run
  split at run
  · rename_i empty
    cases run
    have nothing : buffer.pending = [] := (ByteLog.isEmpty_iff _).mp empty
    exact ⟨received, carries.recount rfl rfl rfl, List.prefix_refl _, fun _ => nothing⟩
  · split at run
    · rename_i refusal
      cases run
      have reaches := law.refused carries.reaches refusal
      exact ⟨received, ⟨reaches, carries.whole, carries.limit_eq, carries.within, carries.counted⟩,
        List.prefix_refl _, nofun⟩
    · rename_i success
      cases run
      have reaches := law.written carries.reaches success
      refine ⟨received ++ buffer.pending, ⟨reaches, ?_, carries.limit_eq, ?_, ?_⟩,
        List.prefix_append _ _, fun _ => rfl⟩
      · exact (List.append_nil _).trans carries.whole
      · exact Nat.zero_le _
      · rw [List.length_append, ← carries.counted, pending, ByteLog.length_toBytes]
        rfl

/-- An append adds its bytes to the stream, or none of them if it fails. -/
lemma Carries.append (law : Writer.Lawful R) {limit now : Nat} {buffer buffer' : WriteBuffer}
    {out out' : ω} {received stream bytes : Bytes} {result : Except FileError Unit}
    (carries : Carries R limit buffer out received stream)
    (run : buffer.append out now bytes = (result, buffer', out')) :
    ∃ received', Carries R limit buffer' out' received' (stream ++ taken result bytes) ∧
      received <+: received' := by
  unfold WriteBuffer.append at run
  split at run
  · rename_i room
    cases run
    rw [carries.limit_eq] at room
    exact ⟨received, carries.gather room, List.prefix_refl _⟩
  · have forced : Carries R limit { buffer with
        stats := { buffer.stats with forced := buffer.stats.forced + 1 } } out received stream :=
      carries.recount rfl rfl rfl
    dsimp only at run
    split at run
    · rename_i refusal
      cases run
      obtain ⟨received', carries', grown, -⟩ := forced.writePending law refusal
      refine ⟨received', ?_, grown⟩
      simpa using carries'
    · rename_i emptied
      obtain ⟨received', carries', grown, nothing⟩ := forced.writePending law emptied
      have pending_nil := nothing rfl
      have size_zero := congrArg List.length pending_nil
      rw [pending, ByteLog.length_toBytes, List.length_nil] at size_zero
      split at run
      · rename_i fits
        cases run
        rw [carries'.limit_eq] at fits
        exact ⟨received', carries'.gather (by omega), grown⟩
      · have whole := carries'.whole
        rw [pending_nil, List.append_nil] at whole
        -- too large for the buffer: the bytes go straight to the writer
        split at run
        · rename_i refusal
          cases run
          have reaches := law.refused carries'.reaches refusal
          refine ⟨received', ⟨reaches, ?_, carries'.limit_eq, carries'.within, carries'.counted⟩, grown⟩
          simpa [pending_nil] using whole
        · rename_i success
          cases run
          have reaches := law.written carries'.reaches success
          refine ⟨received' ++ bytes, ⟨reaches, ?_, carries'.limit_eq, carries'.within, ?_⟩,
            grown.trans (List.prefix_append _ _)⟩
          · rw [← whole, taken_ok]
            exact (congrArg _ pending_nil).trans (List.append_nil _)
          · rw [List.length_append, ← carries'.counted]
            rfl

/-- Appends in a row add their bytes to the stream up to the first failure. -/
lemma Carries.appendAll (law : Writer.Lawful R) {limit now : Nat} {buffer buffer' : WriteBuffer}
    {out out' : ω} {received stream : Bytes} {pieces : List Bytes} {result : Except FileError Unit}
    (carries : Carries R limit buffer out received stream)
    (run : buffer.appendAll out now pieces = (result, buffer', out')) :
    ∃ received' added, Carries R limit buffer' out' received' (stream ++ added) ∧
      received <+: received' ∧ added <+: pieces.flatten ∧ (result = .ok () → added = pieces.flatten) := by
  induction pieces generalizing buffer out received stream with
  | nil =>
    cases run
    refine ⟨received, [], ?_, List.prefix_refl _, List.prefix_refl _, fun _ => rfl⟩
    simpa using carries
  | cons bytes rest ih =>
    unfold WriteBuffer.appendAll at run
    split at run
    · rename_i refusal
      cases run
      obtain ⟨received', carries', grown⟩ := carries.append law refusal
      exact ⟨received', [], by simpa using carries', grown, List.nil_prefix, nofun⟩
    · rename_i success
      obtain ⟨received', carries', grown⟩ := carries.append law success
      obtain ⟨received'', added, carries'', grown', inside, all⟩ := ih carries' run
      refine ⟨received'', bytes ++ added, ?_, grown.trans grown', ?_, ?_⟩
      · simpa using carries''
      · simpa using inside
      · intro fine
        simp [all fine]

/-- A flush that may not be due leaves the stream as it is. -/
lemma Carries.flushIfDue (law : Writer.Lawful R) {limit now : Nat} {buffer buffer' : WriteBuffer}
    {out out' : ω} {received stream : Bytes} {result : Except FileError Bool}
    (carries : Carries R limit buffer out received stream)
    (run : buffer.flushIfDue out now = (result, buffer', out')) :
    ∃ received', Carries R limit buffer' out' received' stream ∧ received <+: received' := by
  unfold WriteBuffer.flushIfDue at run
  split at run
  · cases run
    exact ⟨received, carries, List.prefix_refl _⟩
  · have scheduled : Carries R limit { buffer with
        stats := { buffer.stats with scheduled := buffer.stats.scheduled + 1 } } out received stream :=
      carries.recount rfl rfl rfl
    dsimp only at run
    split at run <;>
    · rename_i outcome
      cases run
      obtain ⟨received', carries', grown, -⟩ := scheduled.writePending law outcome
      exact ⟨received', carries', grown⟩

/-- A flush leaves the stream as it is. When it succeeds, the writer has received all of it. -/
lemma Carries.flush (law : Writer.Lawful R) {limit now : Nat} {buffer buffer' : WriteBuffer}
    {out out' : ω} {received stream : Bytes} {result : Except FileError Unit}
    (carries : Carries R limit buffer out received stream)
    (run : buffer.flush out now = (result, buffer', out')) :
    ∃ received', Carries R limit buffer' out' received' stream ∧ received <+: received' ∧
      (result = .ok () → received' = stream) := by
  unfold WriteBuffer.flush at run
  have explicit : Carries R limit { buffer with
      stats := { buffer.stats with explicit := buffer.stats.explicit + 1 } } out received stream :=
    carries.recount rfl rfl rfl
  dsimp only at run
  split at run
  · rename_i refusal
    cases run
    obtain ⟨received', carries', grown, -⟩ := explicit.writePending law refusal
    exact ⟨received', carries', grown, nofun⟩
  · rename_i emptied
    cases run
    obtain ⟨received', carries', grown, nothing⟩ := explicit.writePending law emptied
    refine ⟨received', ?_, grown, fun _ => ?_⟩
    · exact ⟨law.flushed carries'.reaches, carries'.whole, carries'.limit_eq, carries'.within,
        carries'.counted⟩
    · rw [← carries'.whole, nothing rfl, List.append_nil]

/-- A reliable writer takes all that is pending. -/
lemma Carries.writePending_succeeds (rel : Writer.Reliable R) {limit : Nat} {buffer : WriteBuffer} {out : ω}
    {received stream : Bytes} (carries : Carries R limit buffer out received stream) (now : Nat) :
    (buffer.writePending out now).1 = .ok () := by
  have fine := rel.succeeds buffer.pending carries.reaches
  unfold WriteBuffer.writePending
  split
  · rfl
  · split
    · rename_i refusal
      rw [refusal] at fine
      cases fine
    · rfl

/-- A reliable writer takes all that is appended. -/
lemma Carries.append_succeeds (rel : Writer.Reliable R) {limit : Nat} {buffer : WriteBuffer} {out : ω}
    {received stream : Bytes} (carries : Carries R limit buffer out received stream) (now : Nat)
    (bytes : Bytes) : (buffer.append out now bytes).1 = .ok () := by
  unfold WriteBuffer.append
  split
  · rfl
  · have forced : Carries R limit { buffer with
        stats := { buffer.stats with forced := buffer.stats.forced + 1 } } out received stream :=
      carries.recount rfl rfl rfl
    have fine := forced.writePending_succeeds rel now
    dsimp only
    split
    · rename_i refusal
      rw [refusal] at fine
      cases fine
    · rename_i emptied
      obtain ⟨received', carries', -, -⟩ := forced.writePending rel.toLawful emptied
      have fine' := rel.succeeds bytes carries'.reaches
      split
      · rfl
      · split
        · rename_i refusal
          rw [refusal] at fine'
          cases fine'
        · rfl

/-- Behind a reliable writer, appends in a row succeed and make the stream longer by all their bytes. -/
lemma Carries.appendAll_succeeds (rel : Writer.Reliable R) {limit : Nat} {buffer : WriteBuffer} {out : ω}
    {received stream : Bytes} (carries : Carries R limit buffer out received stream) (now : Nat)
    (pieces : List Bytes) :
    ∃ buffer' out' received', buffer.appendAll out now pieces = (.ok (), buffer', out') ∧
      Carries R limit buffer' out' received' (stream ++ pieces.flatten) ∧ received <+: received' := by
  have fine : (buffer.appendAll out now pieces).1 = .ok () := by
    induction pieces generalizing buffer out received stream with
    | nil => rfl
    | cons bytes rest ih =>
      have first := carries.append_succeeds rel now bytes
      unfold WriteBuffer.appendAll
      split
      · rename_i refusal
        rw [refusal] at first
        cases first
      · rename_i success
        obtain ⟨received', carries', -⟩ := carries.append rel.toLawful success
        exact ih carries'
  rcases run : buffer.appendAll out now pieces with ⟨result, buffer', out'⟩
  rw [run] at fine
  cases fine
  obtain ⟨received', added, carries', grown, -, all⟩ := carries.appendAll rel.toLawful run
  rw [all rfl] at carries'
  exact ⟨buffer', out', received', rfl, carries', grown⟩

/-- Behind a reliable writer, a flush that may not be due succeeds. -/
lemma Carries.flushIfDue_succeeds (rel : Writer.Reliable R) {limit : Nat} {buffer : WriteBuffer} {out : ω}
    {received stream : Bytes} (carries : Carries R limit buffer out received stream) (now : Nat) :
    ∃ due buffer' out' received', buffer.flushIfDue out now = (.ok due, buffer', out') ∧
      Carries R limit buffer' out' received' stream ∧ received <+: received' := by
  have fine : ∃ due, (buffer.flushIfDue out now).1 = .ok due := by
    unfold WriteBuffer.flushIfDue
    split
    · exact ⟨false, rfl⟩
    · have scheduled : Carries R limit { buffer with
          stats := { buffer.stats with scheduled := buffer.stats.scheduled + 1 } } out received stream :=
        carries.recount rfl rfl rfl
      have fine := scheduled.writePending_succeeds rel now
      dsimp only
      split
      · rename_i refusal
        rw [refusal] at fine
        cases fine
      · exact ⟨true, rfl⟩
  obtain ⟨due, fine⟩ := fine
  rcases run : buffer.flushIfDue out now with ⟨result, buffer', out'⟩
  rw [run] at fine
  cases fine
  obtain ⟨received', carries', grown⟩ := carries.flushIfDue rel.toLawful run
  exact ⟨due, buffer', out', received', rfl, carries', grown⟩

/-- Behind a reliable writer, a flush succeeds and hands the whole stream over. -/
lemma Carries.flush_succeeds (rel : Writer.Reliable R) {limit : Nat} {buffer : WriteBuffer} {out : ω}
    {received stream : Bytes} (carries : Carries R limit buffer out received stream) (now : Nat) :
    ∃ buffer' out', buffer.flush out now = (.ok (), buffer', out') ∧
      Carries R limit buffer' out' stream stream ∧ received <+: stream := by
  have fine : (buffer.flush out now).1 = .ok () := by
    have explicit : Carries R limit { buffer with
        stats := { buffer.stats with explicit := buffer.stats.explicit + 1 } } out received stream :=
      carries.recount rfl rfl rfl
    have fine := explicit.writePending_succeeds rel now
    unfold WriteBuffer.flush
    dsimp only
    split
    · rename_i refusal
      rw [refusal] at fine
      cases fine
    · rename_i emptied
      obtain ⟨received', carries', -, -⟩ := explicit.writePending rel.toLawful emptied
      exact rel.flushes carries'.reaches
  rcases run : buffer.flush out now with ⟨result, buffer', out'⟩
  rw [run] at fine
  cases fine
  obtain ⟨received', carries', grown, all⟩ := carries.flush rel.toLawful run
  rw [all rfl] at carries' grown
  exact ⟨buffer', out', rfl, carries', grown⟩

end WriteBuffer

end VideoCapture
