import Mathlib.Data.List.DropRight
import RadioFrame.Proofs.Outcome
import RadioFrame.Value.Payload

/-!
Buffers over whole runs.

A buffer stands for the byte string that it holds, and has room for as many bytes as it has cells. A
run begins with one of the ways a buffer is made (`Buffer.Origin`) and goes on with writes and
resets (`Buffer.Operation`); its log tells what was done and what was answered (`Buffer.Event`).

* `Buffer.perform_write_cases`: a write appends all of its bytes or none; it is refused when there
  is no room for them (`Buffer.write_of_overflow`), and only then (`Buffer.exists_write`).
* `Buffer.IsClear.perform`, `Buffer.Run.isClear`: the spare cells are clear in every buffer that is
  made, every operation keeps them so, and therefore every run. So a buffer is known from its
  content (`Buffer.IsClear.eq_of_content`).
* `Buffer.Run.content_of`: the content at the end of a run is what the log says was written since
  the last reset, behind what was there at first if there was no reset.

The cells are reached by their places. A range of places that a row of cells does not have is no
range (`Buffer.slice?`, `Buffer.overwrite?`), and no operation comes to ask for one.
-/

namespace RadioFrame.Buffer

variable {capacity : Nat}

/-! ### Ranges of cells -/

/-- The cells from one place up to another, if the row has such places. -/
def slice? (cells : Bytes) (start stop : Nat) : Option Bytes :=
  if start ≤ stop ∧ stop ≤ cells.length then some ((cells.take stop).drop start) else none

/-- The row in which bytes stand from one place up to another, if it has such places and they are as
many as the bytes. -/
def overwrite? (cells : Bytes) (start stop : Nat) (bytes : Bytes) : Option Bytes :=
  if start ≤ stop ∧ stop ≤ cells.length ∧ bytes.length = stop - start then
    some (cells.take start ++ bytes ++ cells.drop stop)
  else none

/-- The cells in use are a range of the cells. -/
lemma slice?_content (b : Buffer capacity) : slice? b.cells 0 b.used = some b.content := by
  rw [slice?, if_pos ⟨Nat.zero_le _, b.length_cells.symm ▸ b.used_le⟩, List.drop_zero, content]

/-! ### Operations -/

/-- The ways in which a buffer is made. -/
inductive Origin (capacity : Nat) where
  /-- Without content. -/
  | empty
  /-- With content in every cell. -/
  | full (cells : Block capacity)
  /-- With given content. -/
  | ofBytes (bytes : Bytes)

namespace Origin

/-- The buffer that is made, if there is room. -/
def buffer : Origin capacity → Except Overflow (Buffer capacity)
  | empty => .ok (.empty capacity)
  | full cells => .ok (.full cells)
  | ofBytes bytes => Buffer.ofBytes capacity bytes

/-- What it should hold. -/
def content : Origin capacity → Bytes
  | empty => []
  | full cells => cells.bytes
  | ofBytes bytes => bytes

end Origin

/-- What is done with a buffer. -/
inductive Operation where
  /-- Appends bytes. -/
  | write (bytes : Bytes)
  /-- Clears every cell. -/
  | reset

/-- What was done with a buffer, and what was answered. -/
inductive Event where
  /-- Bytes were to be appended; the answer is how many were. -/
  | write (bytes : Bytes) (answer : Except Overflow Nat)
  /-- Every cell was cleared. -/
  | reset

namespace Event

/-- Whether every cell was cleared. -/
def isReset : Event → Bool
  | reset => true
  | write _ _ => false

/-- What was appended. -/
def appended : Event → Bytes
  | write bytes (.ok _) => bytes
  | write _ (.error _) => []
  | reset => []

/-- What was asked for. -/
def operation : Event → Operation
  | write bytes _ => .write bytes
  | reset => .reset

/-- What a buffer that held `initial` at first holds after some events: all that was appended since
the last reset, behind what was there at first if there was no reset. -/
def contentAfter (initial : Bytes) (events : List Event) : Bytes :=
  (if events.any isReset then [] else initial) ++
    (events.rtakeWhile fun e => !e.isReset).flatMap appended

/-- One more event adds what it appended, unless it cleared every cell. -/
lemma contentAfter_concat (initial : Bytes) (events : List Event) (e : Event) :
    contentAfter initial (events ++ [e]) =
      (if e.isReset then [] else contentAfter initial events) ++ e.appended := by
  cases hreset : e.isReset with
  | true =>
      obtain rfl : e = reset := by
        cases e with
        | reset => rfl
        | write => cases hreset
      rw [contentAfter, List.rtakeWhile_concat_neg _ _ _ (by simp [isReset])]
      simp [isReset, appended]
  | false =>
      rw [contentAfter, List.rtakeWhile_concat_pos _ _ _ (by simp [hreset])]
      simp [contentAfter, hreset]

end Event

/-- Carries out an operation. A write that is refused leaves the buffer as it was. -/
def perform (b : Buffer capacity) : Operation → Buffer capacity × Event
  | .write bytes =>
      match b.write bytes with
      | .ok (count, written) => (written, .write bytes (.ok count))
      | .error e => (b, .write bytes (.error e))
  | .reset => (b.reset, .reset)

/-- A buffer and the log of what was done with it. -/
structure Run (capacity : Nat) where
  /-- The buffer. -/
  buffer : Buffer capacity
  /-- The log, the earliest event first. -/
  log : List Event

namespace Run

/-- Carries out one more operation. -/
def perform (r : Run capacity) (operation : Operation) : Run capacity :=
  ⟨(r.buffer.perform operation).1, r.log ++ [(r.buffer.perform operation).2]⟩

/-- The run of operations that begins with a buffer. -/
def of (start : Buffer capacity) (operations : List Operation) : Run capacity :=
  operations.foldl perform ⟨start, []⟩

end Run

/-! ### One operation -/

section Write

variable {b : Buffer capacity} {bytes : Bytes}

/-- A write for which there is room appends its bytes, in cells that exist, and tells how many. -/
lemma exists_write (h : b.used + bytes.length ≤ capacity) :
    ∃ written, b.write bytes = .ok (bytes.length, written) ∧
      written.content = b.content ++ bytes ∧ written.spare = b.spare.drop bytes.length ∧
      overwrite? b.cells b.used (b.used + bytes.length) bytes = some written.cells := by
  have hrange : b.used ≤ b.used + bytes.length ∧ b.used + bytes.length ≤ b.cells.length ∧
      bytes.length = b.used + bytes.length - b.used := by
    rw [b.length_cells]
    omega
  obtain ⟨written, hwrite, hcells, hused⟩ : ∃ written,
      b.write bytes = .ok (bytes.length, written) ∧
      written.cells = b.content ++ bytes ++ b.cells.drop (b.used + bytes.length) ∧
      written.used = b.used + bytes.length := by
    by_cases hempty : bytes = []
    · subst hempty
      refine ⟨b, if_pos rfl, ?_, rfl⟩
      rw [List.append_nil]
      exact (List.take_append_drop _ _).symm
    · exact ⟨_, (if_neg hempty).trans (dif_pos h), rfl, rfl⟩
  have hlength : (b.content ++ bytes).length = b.used + bytes.length := by
    rw [List.length_append, length_content]
  refine ⟨written, hwrite, ?_, ?_, ?_⟩
  · rw [content, hcells, hused, List.take_left' hlength]
  · rw [spare, hcells, hused, List.drop_left' hlength, spare, List.drop_drop]
  · rw [overwrite?, if_pos hrange, hcells, content]

/-- A write without room is refused. -/
lemma write_of_overflow (h : capacity < b.used + bytes.length) :
    b.write bytes = .error ⟨b.used + bytes.length, capacity⟩ := by
  have hfull : bytes ≠ [] := by
    rintro rfl
    exact Nat.not_lt_of_le b.used_le h
  rw [write, if_neg hfull, dif_neg (Nat.not_le_of_lt h)]

lemma perform_write_of_ok {count : Nat} {written : Buffer capacity}
    (h : b.write bytes = .ok (count, written)) :
    b.perform (.write bytes) = (written, .write bytes (.ok count)) := by
  rw [perform, h]

lemma perform_write_of_error {e : Overflow} (h : b.write bytes = .error e) :
    b.perform (.write bytes) = (b, .write bytes (.error e)) := by
  rw [perform, h]

/-- A write appends all of its bytes, or it is refused and changes nothing. -/
lemma perform_write_cases (b : Buffer capacity) (bytes : Bytes) :
    (∃ written, b.perform (.write bytes) = (written, .write bytes (.ok bytes.length)) ∧
        written.content = b.content ++ bytes ∧ written.spare = b.spare.drop bytes.length) ∨
      b.perform (.write bytes)
        = (b, .write bytes (.error ⟨b.used + bytes.length, capacity⟩)) := by
  by_cases h : b.used + bytes.length ≤ capacity
  · obtain ⟨written, hwrite, hcontent, hspare, -⟩ := exists_write h
    exact .inl ⟨written, perform_write_of_ok hwrite, hcontent, hspare⟩
  · exact .inr (perform_write_of_error (write_of_overflow (Nat.lt_of_not_le h)))

end Write

lemma operation_perform (b : Buffer capacity) (operation : Operation) :
    (b.perform operation).2.operation = operation := by
  cases operation with
  | reset => rfl
  | write bytes =>
      rw [perform]
      split <;> rfl

/-- What an operation leaves is told by its event. -/
lemma content_perform (b : Buffer capacity) (operation : Operation) :
    (b.perform operation).1.content =
      (if (b.perform operation).2.isReset then [] else b.content) ++
        (b.perform operation).2.appended := by
  cases operation with
  | reset => rfl
  | write bytes =>
      rcases b.perform_write_cases bytes with ⟨written, hperform, hcontent, -⟩ | hperform
      · rw [hperform]
        exact hcontent
      · rw [hperform]
        exact (List.append_nil _).symm

/-! ### Spare cells -/

/-- The cells not in use are clear. -/
def IsClear (b : Buffer capacity) : Prop := ∀ cell ∈ b.spare, cell = 0

lemma isClear_empty (capacity : Nat) : (empty capacity).IsClear := fun _ h =>
  List.eq_of_mem_replicate h

lemma isClear_full (cells : Block capacity) : (full cells).IsClear := by
  have hspare : (full cells).spare = [] := List.drop_eq_nil_of_le (Nat.le_of_eq cells.length_eq)
  rw [IsClear, hspare]
  exact nofun

/-- Every operation keeps the spare cells clear. -/
lemma IsClear.perform {b : Buffer capacity} (h : b.IsClear) (operation : Operation) :
    (b.perform operation).1.IsClear := by
  cases operation with
  | reset => exact isClear_empty capacity
  | write bytes =>
      rcases b.perform_write_cases bytes with ⟨written, hperform, -, hspare⟩ | hperform
      · rw [hperform, IsClear, hspare]
        exact fun cell hcell => h cell (List.mem_of_mem_drop hcell)
      · rw [hperform]
        exact h

section Clear

variable {a b : Buffer capacity}

/-- A buffer whose spare cells are clear is known from its content. -/
lemma IsClear.eq_of_content (ha : a.IsClear) (hb : b.IsClear) (h : a.content = b.content) :
    a = b := by
  have hused : a.used = b.used := by rw [← a.length_content, h, b.length_content]
  have hlength : a.spare.length = b.spare.length := by
    rw [spare, spare, List.length_drop, List.length_drop, a.length_cells, b.length_cells, hused]
  have hcells : a.cells = b.cells := by
    calc a.cells = a.content ++ a.spare := (List.take_append_drop _ _).symm
      _ = b.content ++ b.spare := by
          rw [h, List.eq_replicate_of_mem ha, List.eq_replicate_of_mem hb, hlength]
      _ = b.cells := List.take_append_drop _ _
  cases a
  cases b
  simp only [mk.injEq]
  exact ⟨hcells, hused⟩

/-- Buffers count as equal when they have the same content, and if their spare cells are clear they
are then the same. -/
lemma IsClear.beq_iff (ha : a.IsClear) (hb : b.IsClear) :
    ((a == b) = true ↔ a.content = b.content) ∧ ((a == b) = true ↔ a = b) := by
  have hbeq : (a == b) = true ↔ a.content = b.content :=
    (beq_iff_eq : (a.content == b.content) = true ↔ a.content = b.content)
  exact ⟨hbeq, hbeq.trans ⟨ha.eq_of_content hb, fun h => h ▸ rfl⟩⟩

/-- A write leaves the buffer whose content is longer by what was written, and tells by how much. -/
lemma IsClear.write_eq_ok_iff (hb : b.IsClear) {bytes : Bytes} {count : Nat} :
    b.write bytes = .ok (count, a) ↔
      count = bytes.length ∧ a.IsClear ∧ a.content = b.content ++ bytes := by
  have hleaves : ∀ {count written}, b.write bytes = .ok (count, written) → written.IsClear := by
    intro count written hwrite
    have hclear := hb.perform (.write bytes)
    rwa [perform_write_of_ok hwrite] at hclear
  by_cases hroom : b.used + bytes.length ≤ capacity
  · obtain ⟨written, hwrite, hcontent, -⟩ := exists_write hroom
    rw [hwrite]
    constructor
    · intro h
      cases h
      exact ⟨rfl, hleaves hwrite, hcontent⟩
    · rintro ⟨rfl, ha, hsame⟩
      rw [(hleaves hwrite).eq_of_content ha (hcontent.trans hsame.symm)]
  · rw [write_of_overflow (Nat.lt_of_not_le hroom)]
    constructor
    · intro h
      cases h
    · rintro ⟨-, -, hsame⟩
      have hlength := congrArg List.length hsame
      rw [List.length_append, length_content, length_content] at hlength
      exact absurd (hlength ▸ a.used_le) hroom

/-- The buffer that is made of given bytes holds them and nothing else. -/
lemma ofBytes_eq_ok_iff {bytes : Bytes} :
    ofBytes capacity bytes = .ok a ↔ a.IsClear ∧ a.content = bytes := by
  have hempty := isClear_empty capacity
  rw [ofBytes, bind_eq_ok]
  constructor
  · rintro ⟨⟨count, written⟩, hwrite, h⟩
    cases h
    exact (hempty.write_eq_ok_iff.mp hwrite).2
  · exact fun h => ⟨(bytes.length, a), hempty.write_eq_ok_iff.mpr ⟨rfl, h⟩, rfl⟩

end Clear

/-- Bytes can be written at once or in two pieces. -/
lemma ofBytes_append {bytes more : Bytes} {b : Buffer capacity} :
    ofBytes capacity (bytes ++ more) = .ok b ↔
      ∃ a, ofBytes capacity bytes = .ok a ∧ a.write more = .ok (more.length, b) := by
  constructor
  · intro h
    obtain ⟨hclear, hcontent⟩ := ofBytes_eq_ok_iff.mp h
    obtain ⟨a, ha⟩ : ∃ a, ofBytes capacity bytes = .ok a := by
      have hlength : b.used = bytes.length + more.length := by
        rw [← b.length_content, hcontent, List.length_append]
      have hroom : (empty capacity).used + bytes.length ≤ capacity := by
        have hused := b.used_le
        change 0 + bytes.length ≤ capacity
        omega
      obtain ⟨a, hwrite, -⟩ := exists_write hroom
      exact ⟨a, by rw [ofBytes, hwrite]; rfl⟩
    obtain ⟨haclear, hacontent⟩ := ofBytes_eq_ok_iff.mp ha
    exact ⟨a, ha, haclear.write_eq_ok_iff.mpr ⟨rfl, hclear, hacontent.symm ▸ hcontent⟩⟩
  · rintro ⟨a, ha, hwrite⟩
    obtain ⟨haclear, rfl⟩ := ofBytes_eq_ok_iff.mp ha
    exact ofBytes_eq_ok_iff.mpr (haclear.write_eq_ok_iff.mp hwrite).2

/-! ### Runs -/

/-- A buffer that is made holds what it should, and its spare cells are clear. -/
lemma Origin.isClear_and_content {origin : Origin capacity} {start : Buffer capacity}
    (h : origin.buffer = .ok start) : start.IsClear ∧ start.content = origin.content := by
  cases origin with
  | empty =>
      cases h
      exact ⟨isClear_empty capacity, rfl⟩
  | full cells =>
      cases h
      exact ⟨isClear_full cells, List.take_of_length_le (Nat.le_of_eq cells.length_eq)⟩
  | ofBytes bytes => exact ofBytes_eq_ok_iff.mp h

namespace Run

lemma of_concat (start : Buffer capacity) (operations : List Operation) (operation : Operation) :
    of start (operations ++ [operation]) = (of start operations).perform operation := by
  rw [of, List.foldl_append]
  rfl

/-- Every run keeps the spare cells clear. -/
lemma isClear {start : Buffer capacity} (h : start.IsClear) (operations : List Operation) :
    (of start operations).buffer.IsClear := by
  induction operations using List.reverseRecOn with
  | nil => exact h
  | append_singleton operations operation ih =>
      rw [of_concat]
      exact ih.perform operation

/-- The content at the end of a run is what its log tells. -/
lemma content_of (start : Buffer capacity) (operations : List Operation) :
    (of start operations).buffer.content =
      Event.contentAfter start.content (of start operations).log := by
  induction operations using List.reverseRecOn with
  | nil => exact (List.append_nil _).symm
  | append_singleton operations operation ih =>
      rw [of_concat, perform, content_perform, ih, Event.contentAfter_concat]

/-- The log tells the operations in their order. -/
lemma log_of (start : Buffer capacity) (operations : List Operation) :
    (of start operations).log.map Event.operation = operations := by
  induction operations using List.reverseRecOn with
  | nil => rfl
  | append_singleton operations operation ih =>
      rw [of_concat, perform, List.map_append, ih, List.map_singleton, operation_perform]

end Run

/-- What can be said of the buffer `b` at the end of any run. Its content is what the log tells,
there are as many bytes as cells in use, no more than there are cells, and the others are clear. A
write is refused, and changes nothing, just if there is something to write and no room for it;
nothing at all can be written to a full buffer too. The cells that are read and written exist. Of
the buffers that are reached, those are equal that have the same content. And what is written into a
new buffer can be written in two pieces. -/
theorem run_of_origin (origin : Origin capacity) (start : Buffer capacity)
    (h : origin.buffer = .ok start) (operations : List Operation) :
    let r := Run.of start operations
    let b := r.buffer
    (r.log.map Event.operation = operations ∧ b.content = Event.contentAfter origin.content r.log ∧
        b.content.length = b.used ∧ b.used ≤ capacity ∧ ∀ cell ∈ b.spare, cell = 0) ∧
      (∀ bytes, bytes ≠ [] ∧ capacity < b.used + bytes.length →
        b.perform (.write bytes)
          = (b, .write bytes (.error ⟨b.used + bytes.length, capacity⟩))) ∧
      (∀ bytes, ¬(bytes ≠ [] ∧ capacity < b.used + bytes.length) →
        ∃ written, b.perform (.write bytes) = (written, .write bytes (.ok bytes.length)) ∧
          overwrite? b.cells b.used (b.used + bytes.length) bytes = some written.cells) ∧
      b.perform (.write []) = (b, .write [] (.ok 0)) ∧
      slice? b.cells 0 b.used = some b.content ∧
      (∀ (origin' : Origin capacity) (start' : Buffer capacity) (operations' : List Operation),
        origin'.buffer = .ok start' →
          let b' := (Run.of start' operations').buffer
          ((b == b') = true ↔ b.content = b'.content) ∧ ((b == b') = true ↔ b = b')) ∧
      ∀ bytes more q, ofBytes capacity (bytes ++ more) = .ok q ↔
        ∃ p, ofBytes capacity bytes = .ok p ∧ p.write more = .ok (more.length, q) := by
  intro r b
  obtain ⟨hstart, hcontent⟩ := origin.isClear_and_content h
  have hclear : b.IsClear := Run.isClear hstart operations
  refine ⟨⟨Run.log_of start operations, ?_, b.length_content, b.used_le, hclear⟩, ?_, ?_, ?_,
    b.slice?_content, ?_, fun _ _ _ => ofBytes_append⟩
  · rw [← hcontent]
    exact Run.content_of start operations
  · rintro bytes ⟨-, hover⟩
    exact perform_write_of_error (write_of_overflow hover)
  · intro bytes hfits
    have hroom : b.used + bytes.length ≤ capacity := by
      by_contra hover
      refine hfits ⟨?_, Nat.lt_of_not_le hover⟩
      rintro rfl
      exact hover b.used_le
    obtain ⟨written, hwrite, -, -, hcells⟩ := exists_write hroom
    exact ⟨written, perform_write_of_ok hwrite, hcells⟩
  · exact perform_write_of_ok
      (hclear.write_eq_ok_iff.mpr ⟨rfl, hclear, (List.append_nil b.content).symm⟩)
  · intro origin' start' operations' h'
    exact hclear.beq_iff (Run.isClear (origin'.isClear_and_content h').1 operations')

/-- Four cells of which two hold a byte. -/
def halfFull : Buffer 4 := ⟨[0xaa, 0xbb, 0, 0], 2, rfl, by decide⟩

/-- Three bytes do not fit behind two in four cells; two do, and fill them. -/
def filling : List Operation := [.write [1, 2, 3], .write [0xcc, 0xdd]]

/-- Then one byte more is refused, nothing at all is not, and after a reset a byte is in the place
that it has in a buffer made of it. -/
theorem run_of_origin_halfFull :
    (Origin.ofBytes [0xaa, 0xbb]).buffer = .ok halfFull ∧
      let full := (Run.of halfFull filling).buffer
      (full.content = [0xaa, 0xbb, 0xcc, 0xdd] ∧
        full.perform (.write [5]) = (full, .write [5] (.error ⟨5, 4⟩)) ∧
        full.perform (.write []) = (full, .write [] (.ok 0))) ∧
      (∃ written, halfFull.perform (.write [7]) = (written, .write [7] (.ok 1)) ∧
        overwrite? halfFull.cells 2 3 [7] = some written.cells) ∧
      ((Run.of halfFull (filling ++ [.reset, .write [9]])).buffer
        == (Run.of halfFull [.reset, .write [9]]).buffer) = true := by
  have hmade : (Origin.ofBytes [0xaa, 0xbb]).buffer = .ok halfFull := rfl
  have hfull := run_of_origin _ _ hmade filling
  have hhalf := run_of_origin _ _ hmade []
  have hnine := run_of_origin _ _ hmade (filling ++ [.reset, .write [9]])
  refine ⟨hmade, ⟨rfl, hfull.2.1 [5] (by decide), hfull.2.2.2.1⟩, hhalf.2.2.1 [7] (by decide), ?_⟩
  exact (hnine.2.2.2.2.2.1 _ _ [.reset, .write [9]] hmade).1.mpr rfl

end RadioFrame.Buffer
