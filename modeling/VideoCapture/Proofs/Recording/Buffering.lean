import VideoCapture.Proofs.Recording.WriteBuffer

/-!
# Buffering is not noticed

A write buffer is asked to append and to flush, in any order and at any times, in front of a writer that may refuse
any of its writes. An append that succeeds adds its bytes to the stream and one that fails adds none, as if they had
gone to the writer at once: what the writer has received and what is still gathered are the bytes of the successful
appends, each of them once and in order (`buffering_unseen`).
-/

namespace VideoCapture

/-- What a write buffer can be asked to do. -/
inductive BufferCall where
  | append (bytes : Bytes)
  | flushIfDue
  | flush
  deriving DecidableEq, Repr

/-- A call of a write buffer with the answer to it. -/
inductive BufferEvent where
  | appended (bytes : Bytes) (result : Except FileError Unit)
  | flushedIfDue (result : Except FileError Bool)
  | flushed (result : Except FileError Unit)
  deriving Repr

namespace BufferEvent

/-- The call that was answered. -/
def call : BufferEvent → BufferCall
  | appended bytes _ => .append bytes
  | flushedIfDue _ => .flushIfDue
  | flushed _ => .flush

/-- What was taken of the bytes of an append. -/
def accepted : BufferEvent → Bytes
  | appended bytes result => WriteBuffer.taken result bytes
  | flushedIfDue _ | flushed _ => []

/-- Whether the call was successful. -/
def succeeded : BufferEvent → Bool
  | appended _ result => result.isOk
  | flushedIfDue result => result.isOk
  | flushed result => result.isOk

end BufferEvent

namespace WriteBuffer

variable {ω : Type} [Writer ω]

/-- Answers a call. -/
def perform (buffer : WriteBuffer) (out : ω) (now : Nat) : BufferCall → BufferEvent × WriteBuffer × ω
  | .append bytes =>
    let (result, buffer, out) := buffer.append out now bytes
    (.appended bytes result, buffer, out)
  | .flushIfDue =>
    let (result, buffer, out) := buffer.flushIfDue out now
    (.flushedIfDue result, buffer, out)
  | .flush =>
    let (result, buffer, out) := buffer.flush out now
    (.flushed result, buffer, out)

/-- Answers calls that are made one after the other, each at a time of its own. -/
def performAll (buffer : WriteBuffer) (out : ω) : List (Nat × BufferCall) → List BufferEvent × WriteBuffer × ω
  | [] => ([], buffer, out)
  | (now, call) :: rest =>
    let (event, buffer, out) := buffer.perform out now call
    let (events, buffer, out) := buffer.performAll out rest
    (event :: events, buffer, out)

variable {R : ω → Bytes → Prop} {limit now : Nat} {buffer buffer' : WriteBuffer} {out out' : ω}
  {received stream : Bytes} {call : BufferCall} {event : BufferEvent}

/-- The event of a call is about that call. -/
lemma call_perform (run : buffer.perform out now call = (event, buffer', out')) : event.call = call := by
  cases call with
  | append bytes => cases run; exact rfl
  | flushIfDue => cases run; exact rfl
  | flush => cases run; exact rfl

/-- One call makes the stream longer by what it was answered to have accepted. -/
lemma Carries.perform (law : Writer.Lawful R) (carries : Carries R limit buffer out received stream)
    (run : buffer.perform out now call = (event, buffer', out')) :
    ∃ received', Carries R limit buffer' out' received' (stream ++ event.accepted) := by
  cases call with
  | append bytes =>
    rcases appended : buffer.append out now bytes with ⟨result, buffer₁, out₁⟩
    rw [WriteBuffer.perform, appended] at run
    cases run
    obtain ⟨received', carries', -⟩ := carries.append law appended
    exact ⟨received', carries'⟩
  | flushIfDue =>
    rcases flushed : buffer.flushIfDue out now with ⟨result, buffer₁, out₁⟩
    rw [WriteBuffer.perform, flushed] at run
    cases run
    obtain ⟨received', carries', -⟩ := carries.flushIfDue law flushed
    refine ⟨received', ?_⟩
    rw [BufferEvent.accepted, List.append_nil]
    exact carries'
  | flush =>
    rcases flushed : buffer.flush out now with ⟨result, buffer₁, out₁⟩
    rw [WriteBuffer.perform, flushed] at run
    cases run
    obtain ⟨received', carries', -⟩ := carries.flush law flushed
    refine ⟨received', ?_⟩
    rw [BufferEvent.accepted, List.append_nil]
    exact carries'

/-- With a reliable writer every call of a buffer succeeds. -/
lemma Carries.perform_succeeds (rel : Writer.Reliable R) (carries : Carries R limit buffer out received stream)
    (run : buffer.perform out now call = (event, buffer', out')) : event.succeeded = true := by
  cases call with
  | append bytes =>
    have fine := carries.append_succeeds rel now bytes
    rcases appended : buffer.append out now bytes with ⟨result, buffer₁, out₁⟩
    rw [appended] at fine
    rw [WriteBuffer.perform, appended] at run
    cases run
    cases fine
    exact rfl
  | flushIfDue =>
    obtain ⟨due, _, _, _, fine, -⟩ := carries.flushIfDue_succeeds rel now
    rw [WriteBuffer.perform, fine] at run
    cases run
    exact rfl
  | flush =>
    obtain ⟨_, _, fine, -⟩ := carries.flush_succeeds rel now
    rw [WriteBuffer.perform, fine] at run
    cases run
    exact rfl

/-- Calls one after the other make the stream longer by what each of them was answered to have accepted. Behind a reliable
writer they are all successful. -/
lemma Carries.performAll (law : Writer.Lawful R) {calls : List (Nat × BufferCall)} {events : List BufferEvent}
    (carries : Carries R limit buffer out received stream)
    (run : buffer.performAll out calls = (events, buffer', out')) :
    (∃ received', Carries R limit buffer' out' received' (stream ++ events.flatMap BufferEvent.accepted)) ∧
      events.map BufferEvent.call = calls.map Prod.snd ∧
      (Writer.Reliable R → ∀ event ∈ events, event.succeeded = true) := by
  induction calls generalizing buffer out received stream events with
  | nil =>
    cases run
    refine ⟨⟨received, ?_⟩, rfl, fun _ => List.forall_mem_nil _⟩
    rw [List.flatMap_nil, List.append_nil]
    exact carries
  | cons first rest ih =>
    obtain ⟨now, call⟩ := first
    rcases answered : buffer.perform out now call with ⟨event, buffer₁, out₁⟩
    rcases followed : buffer₁.performAll out₁ rest with ⟨others, buffer₂, out₂⟩
    rw [WriteBuffer.performAll, answered] at run
    dsimp only at run
    rw [followed] at run
    cases run
    obtain ⟨received₁, carries₁⟩ := carries.perform law answered
    obtain ⟨⟨received₂, carries₂⟩, called, successful⟩ := ih carries₁ followed
    refine ⟨⟨received₂, ?_⟩, ?_, ?_⟩
    · rw [List.flatMap_cons, ← List.append_assoc]
      exact carries₂
    · rw [List.map_cons, List.map_cons, called, call_perform answered]
    · intro rel
      exact List.forall_mem_cons.mpr ⟨carries.perform_succeeds rel answered, successful rel⟩

/-- Writing out something that is gathered takes it all to the writer, or nothing if it fails. -/
lemma Carries.writePending_reaches (law : Writer.Lawful R) {result : Except FileError Unit}
    (carries : Carries R limit buffer out received stream) (some_byte : buffer.gathered.isEmpty = false)
    (run : buffer.writePending out now = (result, buffer', out')) :
    (result = .ok () ∧ R out' stream) ∨ (∃ error, result = .error error) ∧ R out' received := by
  rw [WriteBuffer.writePending, if_neg (Bool.eq_false_iff.mp some_byte)] at run
  split at run
  · rename_i error after refusal
    cases run
    exact .inr ⟨⟨error, rfl⟩, law.refused carries.reaches refusal⟩
  · rename_i after success
    cases run
    have reaches := law.written carries.reaches success
    rw [carries.whole] at reaches
    exact .inl ⟨rfl, reaches⟩

/-- A flush that may not be due says that it wrote something exactly if the writer has received something. -/
lemma Carries.flushIfDue_reaches (law : Writer.Lawful R) {result : Except FileError Bool}
    (carries : Carries R limit buffer out received stream)
    (run : buffer.flushIfDue out now = (result, buffer', out')) :
    ∃ received', R out' received' ∧ (result = .ok true ↔ received' ≠ received) := by
  unfold WriteBuffer.flushIfDue at run
  split at run
  · cases run
    exact ⟨received, carries.reaches, nofun, fun changed => absurd rfl changed⟩
  · rename_i due
    obtain ⟨some_byte, -⟩ := not_or.mp due
    have some_byte : buffer.gathered.isEmpty = false := Bool.eq_false_iff.mpr some_byte
    have scheduled : Carries R limit { buffer with
        stats := { buffer.stats with scheduled := buffer.stats.scheduled + 1 } } out received stream :=
      carries.recount rfl rfl rfl
    dsimp only at run
    split at run
    · rename_i refusal
      cases run
      rcases scheduled.writePending_reaches law some_byte refusal with ⟨impossible, -⟩ | ⟨-, reaches⟩
      · cases impossible
      · exact ⟨received, reaches, nofun, fun changed => absurd rfl changed⟩
    · rename_i emptied
      cases run
      rcases scheduled.writePending_reaches law some_byte emptied with ⟨-, reaches⟩ | ⟨⟨error, impossible⟩, -⟩
      · refine ⟨stream, reaches, fun _ same => ?_, fun _ => rfl⟩
        -- something was gathered, so the stream goes beyond what the writer had
        have gathered : buffer.pending = [] := by
          rw [← carries.whole] at same
          exact List.append_right_eq_self.mp same
        rw [(ByteLog.isEmpty_iff _).mpr gathered] at some_byte
        cases some_byte
      · cases impossible

end WriteBuffer

/-- What a writer has received can be counted from some moment on. -/
lemma Writer.Lawful.behind {ω : Type} [Writer ω] {received : ω → Bytes} (law : Lawful fun out r => received out = r)
    (before : Bytes) : Lawful fun out r => received out = before ++ r where
  written reaches success := by rw [law.written reaches success, List.append_assoc]
  refused reaches refusal := law.refused reaches refusal
  flushed reaches := law.flushed reaches

/-- A writer that reliably receives bytes does so behind bytes that were there before. -/
lemma Writer.Reliable.behind {ω : Type} [Writer ω] {received : ω → Bytes}
    (rel : Reliable fun out r => received out = r) (before : Bytes) :
    Reliable fun out r => received out = before ++ r where
  toLawful := rel.toLawful.behind before
  succeeds bytes reaches := rel.succeeds bytes reaches
  flushes reaches := rel.flushes reaches

/-- Writing to memory is reliable. -/
lemma MemoryWriter.reliable : Writer.Reliable fun (out : MemoryWriter) r => out.received = r where
  written reaches success := by
    cases reaches
    cases success
    exact rfl
  refused _ refusal := by cases refusal
  flushed reaches := reaches
  succeeds _ _ := rfl
  flushes _ := rfl

/-- A writer in memory that follows a plan: for each of the next writes it says whether to refuse it, and how. -/
structure PlannedWriter where
  received : Bytes := []
  plan : List (Option FileError) := []
  deriving DecidableEq, Repr

/-- A write follows the next entry of the plan. Without one it succeeds. -/
instance : Writer PlannedWriter where
  write out bytes :=
    match out.plan with
    | some error :: plan => (.error error, { out with plan })
    | none :: plan => (.ok (), ⟨out.received ++ bytes, plan⟩)
    | [] => (.ok (), { out with received := out.received ++ bytes })
  flush out := (.ok (), out)

/-- A writer that fails according to a plan is lawful. -/
lemma PlannedWriter.lawful : Writer.Lawful fun (out : PlannedWriter) r => out.received = r where
  written {out after r bytes} reaches success := by
    obtain ⟨received, plan⟩ := out
    subst reaches
    rcases plan with _ | ⟨_ | error, plan⟩
    · cases success
      exact rfl
    · cases success
      exact rfl
    · cases success
  refused {out after r bytes error} reaches refusal := by
    obtain ⟨received, plan⟩ := out
    subst reaches
    rcases plan with _ | ⟨_ | error, plan⟩
    · cases refusal
    · cases refusal
    · cases refusal
      exact rfl
  flushed reaches := reaches

/-- A new write buffer is called any number of times, at any times, in front of a writer that takes all bytes of a write
or refuses them all. At every moment the writer has received all bytes of the successful appends, in order, but for those
that are gathered, which never exceed the limit. The buffer counts what it has handed on, a successful flush leaves
nothing gathered, and a flush that may not be due says whether it wrote anything. Unless the writer fails, nothing
fails. -/
theorem buffering_unseen {ω : Type} [Writer ω] {received : ω → Bytes}
    (law : Writer.Lawful fun out r => received out = r) (limit interval start : Nat) (origin : ω)
    (calls : List (Nat × BufferCall)) :
    let fresh : WriteBuffer := { limit, interval, lastFlush := start }
    ∃ events buffer out, fresh.performAll origin calls = (events, buffer, out) ∧
      events.map BufferEvent.call = calls.map Prod.snd ∧
      received out ++ buffer.pending = received origin ++ events.flatMap BufferEvent.accepted ∧
      buffer.pending.length ≤ limit ∧
      (received out).length = (received origin).length + buffer.stats.written ∧
      (∀ now, (buffer.flush out now).1 = .ok () → (buffer.flush out now).2.1.pending = []) ∧
      (∀ now, (buffer.flushIfDue out now).1 = .ok true ↔
        received (buffer.flushIfDue out now).2.2 ≠ received out) ∧
      ((Writer.Reliable fun out r => received out = r) → ∀ event ∈ events, event.succeeded = true) := by
  intro fresh
  have law' := law.behind (received origin)
  have carries : fresh.Carries (fun out r => received out = received origin ++ r) limit origin [] [] :=
    ⟨(List.append_nil _).symm, rfl, rfl, Nat.zero_le _, rfl⟩
  rcases run : fresh.performAll origin calls with ⟨events, buffer, out⟩
  obtain ⟨⟨passed, carries'⟩, called, successful⟩ := carries.performAll law' run
  have reaches : received out = received origin ++ passed := carries'.reaches
  refine ⟨events, buffer, out, rfl, called, ?_, carries'.within, ?_, ?_, ?_, ?_⟩
  · rw [reaches, List.append_assoc, carries'.whole, List.nil_append]
  · rw [reaches, List.length_append, carries'.counted]
  · intro now fine
    rcases flushed : buffer.flush out now with ⟨result, buffer', out'⟩
    rw [flushed] at fine
    obtain ⟨passed', carries'', -, all⟩ := carries'.flush law' flushed
    have whole := carries''.whole
    rw [all fine] at whole
    exact List.append_right_eq_self.mp whole
  · intro now
    rcases flushed : buffer.flushIfDue out now with ⟨result, buffer', out'⟩
    obtain ⟨passed', reaches', told⟩ := carries'.flushIfDue_reaches law' flushed
    rw [told, reaches, reaches', ne_eq, ne_eq, List.append_cancel_left_eq]
  · intro rel
    exact successful (rel.behind _)

/-- A forced, a scheduled and a direct write are refused, the last of them behind a write that was not. The bytes of two
appends are missing, and those of the others are all there. A writer that refuses nothing gets them all. -/
theorem buffering_unseen_three_refusals :
    let fresh : WriteBuffer := { limit := 4, interval := 10 }
    let full := some FileError.storageFull
    let writer : PlannedWriter := ⟨[0], [full, full, none, full]⟩
    let calls := [(1, BufferCall.append [1, 2, 3]), (2, .append [4, 5]), (3, .append [6]), (20, .flushIfDue),
      (21, .append [7, 7, 7, 7, 7]), (22, .append [8])]
    ∃ events buffer out, fresh.performAll writer calls = (events, buffer, out) ∧
      events.map BufferEvent.succeeded = [true, false, true, false, false, true] ∧
      out.received = [0, 1, 2, 3, 6] ∧ out.received ++ buffer.pending = [0, 1, 2, 3, 6, 8] ∧
      (buffer.flush out 23).2.1.pending = [] ∧ (buffer.flushIfDue out 23).1 ≠ .ok true ∧
      ∀ event ∈ (fresh.performAll ({} : MemoryWriter) calls).1, event.succeeded = true := by
  intro fresh full writer calls
  obtain ⟨events, buffer, out, run, -, whole, -, -, flushes, wrote, -⟩ :=
    buffering_unseen PlannedWriter.lawful 4 10 0 writer calls
  have answers : (fresh.performAll writer calls).1.map BufferEvent.succeeded =
      [true, false, true, false, false, true] := by decide +kernel
  have accepted : (fresh.performAll writer calls).1.flatMap BufferEvent.accepted = [1, 2, 3, 6, 8] := by decide +kernel
  have reached : (fresh.performAll writer calls).2.2.received = [0, 1, 2, 3, 6] := by decide +kernel
  have fine : ((fresh.performAll writer calls).2.1.flush (fresh.performAll writer calls).2.2 23).1 = .ok () := rfl
  have idle : ((fresh.performAll writer calls).2.1.flushIfDue (fresh.performAll writer calls).2.2 23).2.2.received =
      [0, 1, 2, 3, 6] := by decide +kernel
  rw [run] at answers accepted reached fine idle
  rw [accepted] at whole
  refine ⟨events, buffer, out, run, answers, reached, whole, flushes 23 fine,
    fun said => (wrote 23).mp said (idle.trans reached.symm), ?_⟩
  obtain ⟨events', _, _, run', -, -, -, -, -, -, successful⟩ :=
    buffering_unseen MemoryWriter.reliable.toLawful 4 10 0 {} calls
  rw [run']
  exact successful MemoryWriter.reliable

end VideoCapture
