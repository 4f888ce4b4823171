import HandleWatch.Proofs.IncrementalHash
import HandleWatch.Proofs.LogIntegrity

/-!
# What emitters tell of their logs

An emitter counts the lines of its log and hashes them as it writes them. As no line
has a newline in it, nor any of its bytes in UTF-8 (`newline_not_mem_textBytes`), this
agrees with the bytes of the log, in which each newline ends a line; and a hash of the
pieces is a hash of the whole (`Sha256.Hasher.Took`).

What an emitter writes is told by the calls alone: how many trace ids were drawn before
and how often the clock was read (`Emitter.written`).

* `Emitter.Accounts`, `Emitter.Accounts.run`: what an emitter keeps after some calls;
* `Emitter.tells_run`: the emitter of a log in memory tells the lines and the hash of
  its bytes, and its lines are the entries that it was given, completed. To ask for them
  changes nothing.
-/

namespace HandleWatch.Log

/-! ## Bytes -/

theorem textBytes_eq (s : String) : textBytes s = s.toList.flatMap String.utf8EncodeChar := by
  rw [textBytes, String.toUTF8_eq_toByteArray, ← String.utf8Encode_toList, List.utf8Encode,
    List.toList_data_toByteArray]

theorem textBytes_append (s t : String) : textBytes (s ++ t) = textBytes s ++ textBytes t := by
  rw [textBytes_eq, textBytes_eq, textBytes_eq, String.toList_append, List.flatMap_append]

/-- A byte of a character is the character itself, or it has the highest bit. -/
theorem toNat_of_mem_utf8EncodeChar {c : Char} {b : UInt8} (h : b ∈ String.utf8EncodeChar c) :
    b.toNat = c.val.toNat ∨ 128 ≤ b.toNat := by
  unfold String.utf8EncodeChar at h
  extract_lets v at h
  -- There are one to four bytes.
  split at h
  · left
    rw [List.mem_singleton.1 h, UInt8.toNat_ofNat', Nat.mod_eq_of_lt (by omega)]
  · right
    split at h
    · simp only [List.mem_cons, List.not_mem_nil, or_false] at h
      rcases h with rfl | rfl
      all_goals rw [UInt8.toNat_ofNat']; omega
    · split at h
      · simp only [List.mem_cons, List.not_mem_nil, or_false] at h
        rcases h with rfl | rfl | rfl
        all_goals rw [UInt8.toNat_ofNat']; omega
      · simp only [List.mem_cons, List.not_mem_nil, or_false] at h
        rcases h with rfl | rfl | rfl | rfl
        all_goals rw [UInt8.toNat_ofNat']; omega

/-- A text without a line break has no byte of one, as the bytes of other characters are
    different. -/
theorem newline_not_mem_textBytes {s : String} (h : '\n' ∉ s.toList) : 10 ∉ textBytes s := by
  rw [textBytes_eq, List.mem_flatMap]
  rintro ⟨c, hc, hbyte⟩
  rcases toNat_of_mem_utf8EncodeChar hbyte with hv | hhigh
  · have hnewline : c = '\n' := Char.ext (UInt32.toNat_inj.1 hv.symm)
    exact h (hnewline ▸ hc)
  · exact absurd hhigh (by decide)

theorem logText_singleton (e : Entry) : logText [e] = e.line ++ "\n" := by
  simp [logText]

/-- The bytes of a line of a log, without its newline. -/
def Entry.bytes (e : Entry) : List UInt8 := textBytes e.line

/-- The line of an entry is a line: it has no line break. -/
theorem Entry.newline_not_mem_bytes (e : Entry) : 10 ∉ e.bytes :=
  newline_not_mem_textBytes e.newline_not_mem_line

/-- The bytes of a log are those of its lines, each with a line break after it. -/
theorem textBytes_logText (entries : List Entry) :
    textBytes (logText entries) = entries.flatMap fun e => e.bytes ++ [10] := by
  induction entries with
  | nil => rfl
  | cons e entries ih =>
    have hcons : logText (e :: entries) = logText [e] ++ logText entries :=
      logText_append [e] entries
    rw [hcons, logText_singleton, textBytes_append, textBytes_append, ih, List.flatMap_cons]
    rfl

/-- There are as many line breaks as entries. -/
theorem count_textBytes_logText (entries : List Entry) :
    (textBytes (logText entries)).count 10 = entries.length := by
  rw [textBytes_logText]
  induction entries with
  | nil => rfl
  | cons e entries ih =>
    rw [List.flatMap_cons, List.count_append, ih, List.count_append,
      List.count_eq_zero_of_not_mem e.newline_not_mem_bytes, List.length_cons, Nat.zero_add,
      Nat.add_comm]
    rfl

/-- Cut at the line breaks, a log is the lines of its entries. -/
theorem splitOn_textBytes_logText (entries : List Entry) :
    (textBytes (logText entries)).splitOn 10 = entries.map Entry.bytes ++ [[]] := by
  rw [textBytes_logText]
  induction entries with
  | nil => rfl
  | cons e entries ih =>
    have he : ([10].intercalate [e.bytes]).splitOn 10 = [e.bytes] :=
      List.splitOn_intercalate 10 (List.forall_mem_singleton.2 e.newline_not_mem_bytes)
        (List.cons_ne_nil _ _)
    rw [List.intercalate_singleton] at he
    rw [List.flatMap_cons, List.append_assoc, List.singleton_append,
      List.splitOn_append_cons_self, ih, he]
    rfl

/-- A log ends with a line break, unless it is empty. -/
theorem getLast?_textBytes_logText {entries : List Entry}
    (h : textBytes (logText entries) ≠ []) :
    (textBytes (logText entries)).getLast? = some 10 := by
  rw [textBytes_logText] at h ⊢
  rcases List.eq_nil_or_concat entries with rfl | ⟨earlier, e, rfl⟩
  · exact absurd rfl h
  · rw [List.concat_eq_append, List.flatMap_append, List.flatMap_singleton,
      ← List.append_assoc, List.getLast?_concat]

/-! ## Calls -/

namespace Emitter

/-- A call of an emitter. -/
inductive Call where
  /-- Making the next entry, which is not written. -/
  | entry (severity : Severity) (event : String)
  /-- Writing the next entry. -/
  | emitNext (severity : Severity) (event : String)
  /-- Writing any entry. -/
  | emit (e : Entry)
  | sha256
  | lines

/-- The answer to a call. -/
inductive Reply where
  | made (e : Entry)
  | emitted (result : Except FileFault Entry)
  | wrote (result : Except FileFault Unit)
  | sha256 (hash : String)
  | lines (n : Nat)

namespace Call

/-- Whether a call takes the next trace id. -/
def takesId : Call → Bool
  | entry _ _ | emitNext _ _ => true
  | emit e => e.traceId.isEmpty
  | sha256 | lines => false

/-- Whether a call reads the clock. -/
def readsClock : Call → Bool
  | entry _ _ | emitNext _ _ => true
  | emit _ | sha256 | lines => false

/-- Whether a call only asks. -/
def asks : Call → Bool
  | sha256 | lines => true
  | entry _ _ | emitNext _ _ | emit _ => false

/-- The entry that a call writes, if it does, of an emitter that was `m` before some
    earlier calls. -/
def writes? (m : Emitter) (earlier : List Call) : Call → Option Entry
  | emitNext severity event => some {
      timestamp := (m.clock.reading (m.clock.reads + earlier.countP readsClock)).text
      traceId := m.traceId (m.sequence + earlier.countP takesId + 1)
      severity
      event
      scenario := some m.scenario }
  | emit e => some { e with
      traceId := if e.traceId.isEmpty then m.traceId (m.sequence + earlier.countP takesId + 1)
        else e.traceId
      scenario := some (e.scenario.getD m.scenario) }
  | entry _ _ | sha256 | lines => none

end Call

/-- One call. -/
def perform (m : Emitter) : Call → Reply × Emitter
  | .entry severity event => (m.entry severity event).map .made id
  | .emitNext severity event => (m.emitNext severity event).map .emitted id
  | .emit e => (m.emit e).map .wrote id
  | .sha256 => (.sha256 m.sha256, m)
  | .lines => (.lines m.lines, m)

/-- The emitter after some calls. -/
def run (m : Emitter) (calls : List Call) : Emitter :=
  calls.foldl (fun m call => (m.perform call).2) m

/-- The entries that some calls write, each completed. -/
def written (m : Emitter) (calls : List Call) : List Entry :=
  (List.range calls.length).filterMap fun i => calls[i]?.bind (Call.writes? m (calls.take i))

/-- One more call adds the entry that it writes, if it writes one. -/
theorem written_concat (m : Emitter) (calls : List Call) (call : Call) :
    m.written (calls ++ [call]) = m.written calls ++ (call.writes? m calls).toList := by
  have hbefore : (List.range calls.length).filterMap (fun i =>
      (calls ++ [call])[i]?.bind (Call.writes? m ((calls ++ [call]).take i))) =
      m.written calls := by
    refine List.filterMap_congr fun i hi => ?_
    have hlt : i < calls.length := List.mem_range.1 hi
    rw [List.getElem?_append_left hlt, List.take_append_of_le_length (Nat.le_of_lt hlt)]
  rw [written, List.length_append, List.length_singleton, List.range_succ,
    List.filterMap_append, hbefore, List.filterMap_cons, List.filterMap_nil, List.take_left,
    List.getElem?_concat_length, Option.bind_some]
  cases call.writes? m calls with
  | none => rfl
  | some e => rfl

theorem run_concat (m : Emitter) (calls : List Call) (call : Call) :
    m.run (calls ++ [call]) = ((m.run calls).perform call).2 := List.foldl_append

/-- To ask changes nothing, then or later. -/
theorem run_filter_asks (m : Emitter) (calls : List Call) :
    m.run (calls.filter fun call => !call.asks) = m.run calls := by
  induction calls generalizing m with
  | nil => rfl
  | cons call calls ih =>
    cases call with
    | sha256 => exact ih m
    | lines => exact ih m
    | entry severity event => exact ih _
    | emitNext severity event => exact ih _
    | emit e => exact ih _

/-! ## What an emitter keeps -/

/-- The emitter after a line is written. -/
def append (m : Emitter) (e : Entry) : Emitter :=
  { m with
    medium := { m.medium with
      contents := m.medium.contents ++ (e.line ++ "\n")
      attempts := m.medium.attempts + 1 }
    hasher := m.hasher.update (textBytes (e.line ++ "\n"))
    lines := m.lines + 1 }

/-- The emitter after what a call does other than writing. -/
def advance (m : Emitter) (call : Call) : Emitter :=
  { m with
    sequence := m.sequence + if call.takesId then 1 else 0
    clock := { m.clock with reads := m.clock.reads + if call.readsClock then 1 else 0 } }

/-- An entry that has no trace id takes the next one, and its scenario is the emitter's
    unless it has one. -/
theorem complete_eq (m : Emitter) (e : Entry) :
    m.complete e =
      ({ e with
          traceId := if e.traceId.isEmpty then m.traceId (m.sequence + 1) else e.traceId
          scenario := some (e.scenario.getD m.scenario) },
        m.advance (.emit e)) := by
  rw [complete, advance, Call.takesId]
  cases e.traceId.isEmpty with
  | false => rfl
  | true => rfl

/-- Without faults an entry is written as it was completed. -/
theorem emit_of_writeFault {m : Emitter} (h : ∀ n, m.medium.writeFault n = none) (e : Entry) :
    m.emit e = (.ok (), (m.complete e).2.append (m.complete e).1) := by
  have hmedium : (m.complete e).2.medium = m.medium := by
    rw [complete_eq]
    rfl
  simp only [emit, Medium.write, hmedium, h]
  rw [append, hmedium]

theorem emitNext_of_writeFault {m : Emitter} (h : ∀ n, m.medium.writeFault n = none)
    (severity : Severity) (event : String) :
    m.emitNext severity event =
      (.ok (m.entry severity event).1,
        (m.entry severity event).2.append (m.entry severity event).1) := by
  have hcomplete : (m.entry severity event).2.complete (m.entry severity event).1 =
      ((m.entry severity event).1, (m.entry severity event).2) := complete_eq_self rfl rfl
  have hwrite : ∀ n, (m.entry severity event).2.medium.writeFault n = none := h
  simp only [emitNext, emit_of_writeFault hwrite, hcomplete]

/-- What an emitter that was `start` makes its entries of, after some calls. -/
structure Keeps (start : Emitter) (calls : List Call) (m : Emitter) : Prop where
  scenario : m.scenario = start.scenario
  runId : m.runId = start.runId
  reading : m.clock.reading = start.clock.reading
  reads : m.clock.reads = start.clock.reads + calls.countP Call.readsClock
  sequence : m.sequence = start.sequence + calls.countP Call.takesId
  writeFault : ∀ n, m.medium.writeFault n = none

namespace Keeps

variable {start m : Emitter} {calls : List Call}

theorem traceId_eq (h : Keeps start calls m) (n : Nat) : m.traceId n = start.traceId n := by
  rw [traceId, traceId, h.scenario, h.runId]

/-- What an emitter keeps goes on with each call. -/
theorem advance (h : Keeps start calls m) (call : Call) :
    Keeps start (calls ++ [call]) (m.advance call) where
  scenario := h.scenario
  runId := h.runId
  reading := h.reading
  reads := by
    rw [List.countP_append, List.countP_singleton, ← Nat.add_assoc, ← h.reads]
    rfl
  sequence := by
    rw [List.countP_append, List.countP_singleton, ← Nat.add_assoc, ← h.sequence]
    rfl
  writeFault := h.writeFault

theorem append (h : Keeps start calls m) (e : Entry) : Keeps start calls (m.append e) :=
  ⟨h.scenario, h.runId, h.reading, h.reads, h.sequence, h.writeFault⟩

/-- A call does no more than to advance the emitter and to write its entry, if there is
    one. -/
theorem perform_eq (h : Keeps start calls m) (call : Call) :
    (m.perform call).2 =
      (call.writes? start calls).elim (m.advance call) (m.advance call).append := by
  cases call with
  | entry severity event => rfl
  | sha256 => rfl
  | lines => rfl
  | emitNext severity event =>
    -- The clock and the numbers are where the calls so far have left them.
    have hentry : (m.entry severity event).1 = {
        timestamp := (start.clock.reading (start.clock.reads + calls.countP Call.readsClock)).text
        traceId := start.traceId (start.sequence + calls.countP Call.takesId + 1)
        severity
        event
        scenario := some start.scenario } := by
      rw [← h.reading, ← h.reads, ← h.traceId_eq, ← h.sequence, ← h.scenario]
      rfl
    rw [perform, emitNext_of_writeFault h.writeFault, hentry]
    rfl
  | emit e =>
    rw [perform, emit_of_writeFault h.writeFault, complete_eq, h.traceId_eq, h.sequence,
      h.scenario]
    rfl

end Keeps

/-- An emitter after some calls, which was `start` before them: the log has the entries
    that the calls write, and the emitter has counted and hashed them. -/
structure Accounts (start : Emitter) (calls : List Call) (m : Emitter) : Prop
    extends Keeps start calls m where
  contents : m.medium.contents = logText (start.written calls)
  lines : m.lines = (start.written calls).length
  hasher : m.hasher.Took (textBytes m.medium.contents)

namespace Accounts

variable {start m : Emitter} {calls : List Call}

/-- One more call: what it writes is in the log, in the count and in the hash. -/
theorem perform (h : Accounts start calls m) (call : Call) :
    Accounts start (calls ++ [call]) (m.perform call).2 := by
  have hkeeps := h.toKeeps.advance call
  have hwritten := start.written_concat calls call
  rw [h.perform_eq]
  -- A call that only asks changes nothing in the log.
  cases hcall : call.writes? start calls with
  | none =>
    rw [hcall, Option.toList_none, List.append_nil] at hwritten
    exact ⟨hkeeps, hwritten ▸ h.contents, hwritten ▸ h.lines, h.hasher⟩
  | some e =>
    rw [hcall, Option.toList_some] at hwritten
    refine ⟨hkeeps.append e, ?_, ?_, ?_⟩
    · rw [hwritten, logText_append, ← h.contents, logText_singleton]
      rfl
    · rw [hwritten, List.length_append, ← h.lines]
      rfl
    · have htook := h.hasher.update (textBytes (e.line ++ "\n"))
      rwa [← textBytes_append] at htook

/-- After any calls the emitter accounts for what they wrote. -/
theorem run (h : Accounts start [] start) (calls : List Call) :
    Accounts start calls (start.run calls) := by
  induction calls using List.reverseRecOn with
  | nil => exact h
  | append_singleton calls call ih =>
    rw [run_concat]
    exact ih.perform call

end Accounts

/-! ## What an emitter tells -/

/-- An emitter of a log in memory, which is empty. -/
def inMemory (scenario runId : String) (clock : Clock) : Emitter := { scenario, runId, clock }

/-- The bytes of the log. -/
def bytes (m : Emitter) : List UInt8 := textBytes m.medium.contents

/-- The log of an emitter has these entries, each on a line that ends with the byte of a
    newline, and the emitter tells the number of lines and the hash of all the bytes, in
    lowercase hexadecimal digits. -/
structure Tells (m : Emitter) (entries : List Entry) : Prop where
  segments : m.bytes.splitOn 10 = entries.map (textBytes ·.line) ++ [[]]
  ends : m.bytes ≠ [] → m.bytes.getLast? = some 10
  lines : m.perform .lines = (.lines (m.bytes.count 10), m)
  sha256 : m.perform .sha256 = (.sha256 (Sha256.hex (Sha256.digest m.bytes)), m)
  digits : m.sha256.length = 64 ∧ ∀ c ∈ m.sha256.toList, c ∈ "0123456789abcdef".toList

/-- So what it tells is true of the log. -/
theorem Accounts.tells {start m : Emitter} {calls : List Call} (h : Accounts start calls m) :
    m.Tells (start.written calls) where
  segments := by
    rw [bytes, h.contents]
    exact splitOn_textBytes_logText _
  ends := by
    rw [bytes, h.contents]
    exact getLast?_textBytes_logText
  lines := by rw [bytes, h.contents, count_textBytes_logText, ← h.lines]; rfl
  sha256 := by rw [bytes, ← h.hasher.finish]; rfl
  digits := by
    rw [Emitter.sha256, h.hasher.finish, Sha256.length_hex, Sha256.length_digest]
    exact ⟨rfl, fun c hc => Sha256.mem_hex hc⟩

/-- What is asked of the emitter of a log in memory is so of the bytes of the log, which
    are the entries that the calls write, one on a line; and to ask for it makes no
    difference to what the emitter is after any calls. -/
theorem tells_run (scenario runId : String) (clock : Clock) (calls : List Call) :
    ((inMemory scenario runId clock).run calls).Tells
        ((inMemory scenario runId clock).written calls) ∧
      (inMemory scenario runId clock).run (calls.filter fun call => !call.asks) =
        (inMemory scenario runId clock).run calls := by
  have hstart : Accounts (inMemory scenario runId clock) [] (inMemory scenario runId clock) :=
    ⟨⟨rfl, rfl, rfl, rfl, rfl, fun _ => rfl⟩, rfl, rfl, .empty⟩
  exact ⟨(hstart.run calls).tells, run_filter_asks _ calls⟩

end Emitter

end HandleWatch.Log
