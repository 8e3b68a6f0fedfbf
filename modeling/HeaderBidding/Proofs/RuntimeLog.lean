import Mathlib.Tactic.Lemma
import Mathlib.Tactic.Set
import HeaderBidding.Log.Leveled

/-!
# The runtime log writes each accepted entry once

The runtime log's writer takes entries from a channel and writes them to one file per level,
through one buffer per level. Whatever the order in which calls that log, steps of the writer
and the shutdown come (`RuntimeLog.Op`), the log keeps an invariant (`RuntimeLog.Writes`):

* the channel holds the entries accepted after those the writer has received, so it is first in,
  first out;
* for each level with a file, the entries written to the file followed by those in the level's
  buffer are exactly the received entries of that level, in order;
* each such buffer holds fewer entries than a batch;
* nothing is written for a level without a file;
* once the writer has finished, the sender is gone and the channel and buffers are empty.

So once the writer has finished every file holds exactly the accepted entries of its level
(`Writes.written_of_finished`), and closing the log finishes it (`finished_close`).
-/

namespace HeaderBidding

namespace RuntimeLog

variable {l : RuntimeLog} {m : String → List LogEntry} {level L L₀ : String}
  {es : List LogEntry}

/-! ### The map of levels -/

@[simp] lemma setLevel_self : setLevel m level es level = es := if_pos rfl

lemma setLevel_of_ne (h : L ≠ level) : setLevel m level es L = m L := if_neg h

/-! ### What each operation keeps -/

lemma receive_of_cons {e : LogEntry} {rest : List LogEntry} (h : l.channel = e :: rest) :
    l.receive =
      let l₁ : RuntimeLog := { l with
        channel := rest, buffers := setLevel l.buffers e.level (l.buffers e.level ++ [e]) }
      if decide (l.batch ≤ (l.buffers e.level ++ [e]).length) && levels.contains e.level then
        l₁.flush e.level
      else l₁ := by
  simp only [receive, h]

/-- The writer's taking of an entry changes neither the batch, the accepted entries, the sender
nor whether it has finished, and shortens the channel by its head. -/
lemma receive_keeps (l : RuntimeLog) :
    l.receive.batch = l.batch ∧ l.receive.accepted = l.accepted ∧
      l.receive.accepting = l.accepting ∧ l.receive.finished = l.finished ∧
      l.receive.channel = l.channel.tail := by
  cases h : l.channel with
  | nil => simp [receive, h]
  | cons e rest =>
    rw [receive_of_cons h]
    dsimp only
    split <;> exact ⟨rfl, rfl, rfl, rfl, rfl⟩

/-- A tick changes neither the batch, the accepted entries, the channel nor the sender. -/
lemma tick_keeps (l : RuntimeLog) :
    l.tick.batch = l.batch ∧ l.tick.accepted = l.accepted ∧ l.tick.channel = l.channel ∧
      l.tick.accepting = l.accepting := by
  unfold tick
  -- each flush keeps the four
  generalize levels = ls
  induction ls generalizing l with
  | nil => exact ⟨rfl, rfl, rfl, rfl⟩
  | cons L rest ih => exact ih (l.flush L)

lemma repeat_receive_keeps (l : RuntimeLog) (n : Nat) :
    (Nat.repeat receive n l).batch = l.batch ∧ (Nat.repeat receive n l).accepted = l.accepted ∧
      (Nat.repeat receive n l).accepting = l.accepting ∧
      (Nat.repeat receive n l).channel = l.channel.drop n := by
  induction n with
  | zero => exact ⟨rfl, rfl, rfl, rfl⟩
  | succ n ih =>
    obtain ⟨hb, ha, hs, hc⟩ := ih
    obtain ⟨hb', ha', hs', -, hc'⟩ := receive_keeps (Nat.repeat receive n l)
    refine ⟨hb'.trans hb, ha'.trans ha, hs'.trans hs, ?_⟩
    change (receive (Nat.repeat receive n l)).channel = _
    rw [hc', hc, List.tail_drop]

/-- Running the writer changes neither the batch, the accepted entries nor the sender, and
empties the channel. -/
lemma advance_keeps (l : RuntimeLog) :
    l.advance.batch = l.batch ∧ l.advance.accepted = l.accepted ∧
      l.advance.accepting = l.accepting ∧ l.advance.channel = [] := by
  obtain ⟨hb, ha, hs, hc⟩ := repeat_receive_keeps l l.channel.length
  exact ⟨hb, ha, hs, hc.trans List.drop_length⟩

/-- After a tick every level with a file has an empty buffer. -/
lemma tick_buffers (hL : L ∈ levels) : l.tick.buffers L = [] := by
  unfold tick
  -- a flush empties its own level and leaves the others; the last flush of `L` wins
  have hfold : ∀ (ls : List String) (l : RuntimeLog),
      (ls.foldl flush l).buffers L = if L ∈ ls then [] else l.buffers L := by
    intro ls
    induction ls with
    | nil => simp
    | cons L' rest ih =>
      intro l
      rw [List.foldl_cons, ih]
      by_cases hL' : L = L'
      · subst hL'
        simp [flush]
      · by_cases hrest : L ∈ rest
        · simp [hrest]
        · simp [hrest, hL', flush, setLevel_of_ne hL']
  rw [hfold, if_pos hL]

/-! ### The received entries -/

/-- The entries the writer has taken from the channel: those accepted before the ones still in
it. -/
def received (l : RuntimeLog) : List LogEntry :=
  l.accepted.take (l.accepted.length - l.channel.length)

lemma received_eq {r : List LogEntry} (h : l.accepted = r ++ l.channel) : l.received = r := by
  unfold received
  rw [h, List.length_append, Nat.add_sub_cancel]
  exact List.take_left' rfl

/-- The entries of a level in a list, with one more at its end. -/
lemma filter_level_concat (r : List LogEntry) (e : LogEntry) (L : String) :
    (r ++ [e]).filter (·.level = L) = r.filter (·.level = L) ++ if e.level = L then [e] else [] := by
  by_cases h : e.level = L <;> simp [List.filter_append, h]

/-! ### The invariant -/

/-- What the runtime log keeps at every step: a first-in first-out channel; for each level with
a file, its written entries followed by its buffer are exactly its received entries, and the
buffer is shorter than a batch; nothing written for other levels; and, once the writer has
finished, no sender, an empty channel and empty buffers. -/
structure Writes (l : RuntimeLog) : Prop where
  fifo : l.accepted = l.received ++ l.channel
  files : ∀ L ∈ levels, l.written L ++ l.buffers L = l.received.filter (·.level = L)
  short : ∀ L ∈ levels, (l.buffers L).length < l.batch
  noFile : ∀ L, L ∉ levels → l.written L = []
  finished : l.finished = true →
    l.accepting = false ∧ l.channel = [] ∧ ∀ L ∈ levels, l.buffers L = []

lemma writes_new (capacity batch : Nat) (hb : 0 < batch) : (new capacity batch).Writes where
  fifo := rfl
  files _ _ := rfl
  short _ _ := hb
  noFile _ _ := rfl
  finished h := absurd h Bool.false_ne_true

/-- The channel takes an entry while the sender is there. -/
lemma Writes.enqueue (h : l.Writes) (ha : l.accepting = true) (e : LogEntry) :
    (l.enqueue e).Writes := by
  have hreceived : (l.enqueue e).received = l.received :=
    received_eq (by simp [RuntimeLog.enqueue, h.fifo])
  refine ⟨?_, ?_, h.short, h.noFile, fun hf => ?_⟩
  · rw [hreceived]
    simp [RuntimeLog.enqueue, h.fifo]
  · rw [hreceived]
    exact h.files
  · -- a finished writer has no sender, so nothing is taken after it
    rw [(h.finished hf).1] at ha
    cases ha

/-- Writing a buffer moves it to the end of its file. -/
lemma flush_sum (l : RuntimeLog) (L₀ L : String) :
    (l.flush L₀).written L ++ (l.flush L₀).buffers L = l.written L ++ l.buffers L := by
  by_cases hL : L = L₀
  · subst hL
    simp [flush]
  · simp [flush, setLevel_of_ne hL]

/-- Once a level's buffer is written, every buffer is shorter than a batch if every other one
was. -/
lemma short_flush (hb : 0 < l.batch)
    (hshort : ∀ L ∈ levels, L ≠ L₀ → (l.buffers L).length < l.batch) :
    ∀ L ∈ levels, ((l.flush L₀).buffers L).length < (l.flush L₀).batch := by
  intro L hL
  by_cases hL' : L = L₀
  · subst hL'
    simpa [RuntimeLog.flush] using hb
  · simpa [RuntimeLog.flush, setLevel_of_ne hL'] using hshort L hL hL'

/-- Writing the buffer of a level with a file writes nothing for the levels without one. -/
lemma noFile_flush (hL₀ : L₀ ∈ levels) (h : ∀ L, L ∉ levels → l.written L = []) :
    ∀ L, L ∉ levels → (l.flush L₀).written L = [] := by
  intro L hL
  -- a level without a file is not the one written
  have hne : L ≠ L₀ := fun heq => hL (heq ▸ hL₀)
  simpa [RuntimeLog.flush, setLevel_of_ne hne] using h L hL

lemma Writes.flush (h : l.Writes) (hL₀ : L₀ ∈ levels) (hb : 0 < l.batch) :
    (l.flush L₀).Writes := by
  refine ⟨h.fifo, fun L hL => (flush_sum l L₀ L).trans (h.files L hL),
    short_flush hb fun L hL _ => h.short L hL, noFile_flush hL₀ h.noFile, fun hf => ?_⟩
  obtain ⟨hs, hc, hbuf⟩ := h.finished hf
  refine ⟨hs, hc, fun L hL => ?_⟩
  by_cases hL' : L = L₀
  · subst hL'
    simp [RuntimeLog.flush]
  · simpa [RuntimeLog.flush, setLevel_of_ne hL'] using hbuf L hL

lemma Writes.tick (h : l.Writes) (hb : 0 < l.batch) : l.tick.Writes := by
  unfold RuntimeLog.tick
  -- flush the levels one after another; each has a file
  have hfold : ∀ ls : List String, (∀ L ∈ ls, L ∈ levels) →
      ∀ l : RuntimeLog, l.Writes → 0 < l.batch → (ls.foldl RuntimeLog.flush l).Writes := by
    intro ls
    induction ls with
    | nil => intro _ l h _; exact h
    | cons L rest ih =>
      intro hls l h hb
      exact ih (fun L' hL' => hls L' (List.mem_cons_of_mem _ hL')) _
        (h.flush (hls L List.mem_cons_self) hb) hb
  exact hfold levels (fun _ hL => hL) l h hb

lemma Writes.receive (h : l.Writes) (hb : 0 < l.batch) : l.receive.Writes := by
  cases hch : l.channel with
  | nil =>
    have : l.receive = l := by simp [RuntimeLog.receive, hch]
    rw [this]
    exact h
  | cons e rest =>
    rw [receive_of_cons hch]
    dsimp only
    -- the entry joins its level's buffer: the writer has received one more entry
    set l₁ : RuntimeLog := { l with
      channel := rest, buffers := setLevel l.buffers e.level (l.buffers e.level ++ [e]) }
    have hreceived : l₁.received = l.received ++ [e] :=
      received_eq (by simp [l₁, h.fifo, hch])
    have hsum : ∀ L, l₁.written L ++ l₁.buffers L =
        l.written L ++ l.buffers L ++ if e.level = L then [e] else [] := by
      intro L
      by_cases hL : e.level = L
      · subst hL
        simp [l₁]
      · simp [l₁, hL, setLevel_of_ne (Ne.symm hL)]
    have hfiles : ∀ L ∈ levels, l₁.written L ++ l₁.buffers L = l₁.received.filter (·.level = L) := by
      intro L hL
      rw [hsum, h.files L hL, hreceived, filter_level_concat]
    have hfifo : l₁.accepted = l₁.received ++ l₁.channel := by
      rw [hreceived]
      simp [l₁, h.fifo, hch]
    have hunfinished : l₁.finished = true → False := fun hf => by
      have := (h.finished hf).2.1
      rw [hch] at this
      cases this
    have hothers : ∀ L ∈ levels, L ≠ e.level → (l₁.buffers L).length < l₁.batch :=
      fun L hL hL' => by simpa [l₁, setLevel_of_ne hL'] using h.short L hL
    split
    · -- a batch is full: the buffer goes to the file
      rename_i hfull
      have hmem : e.level ∈ levels := List.contains_iff_mem.mp (Bool.and_eq_true _ _ ▸ hfull).2
      exact ⟨hfifo, fun L hL => (flush_sum l₁ e.level L).trans (hfiles L hL),
        short_flush hb hothers, noFile_flush hmem h.noFile, fun hf => (hunfinished hf).elim⟩
    · -- otherwise the buffer stays shorter than a batch
      rename_i hshort
      refine ⟨hfifo, hfiles, fun L hL => ?_, h.noFile, fun hf => (hunfinished hf).elim⟩
      by_cases hL' : L = e.level
      · subst hL'
        have : ¬l.batch ≤ (l.buffers e.level ++ [e]).length := by
          simpa [hL] using hshort
        simpa [l₁] using this
      · exact hothers L hL hL'

lemma Writes.advance (h : l.Writes) (hb : 0 < l.batch) : l.advance.Writes := by
  unfold RuntimeLog.advance
  generalize l.channel.length = n
  induction n with
  | zero => exact h
  | succ n ih =>
    exact ih.receive (by rw [(repeat_receive_keeps l n).1]; exact hb)

lemma Writes.send (h : l.Writes) (hb : 0 < l.batch) : (l.send level message).Writes := by
  unfold RuntimeLog.send
  split
  · rename_i ha
    dsimp only
    split
    · exact (h.advance hb).enqueue (by rw [(advance_keeps l).2.2.1, ha]) _
    · exact h.enqueue ha _
  · exact h

lemma Writes.offer (h : l.Writes) : (l.offer level message).Writes := by
  unfold RuntimeLog.offer
  split
  · rename_i hok
    exact h.enqueue (Bool.and_eq_true _ _ ▸ hok).1 _
  · exact h

lemma Writes.shutdown (h : l.Writes) : l.shutdown.Writes :=
  ⟨h.fifo, h.files, h.short, h.noFile, fun hf =>
    ⟨rfl, (h.finished hf).2.1, (h.finished hf).2.2⟩⟩

lemma Writes.finish (h : l.Writes) (hb : 0 < l.batch) : l.finish.Writes := by
  unfold RuntimeLog.finish
  split
  · rename_i hdone
    have hdone' : l.accepting = false ∧ l.channel = [] := by simpa using hdone
    have ht := h.tick hb
    obtain ⟨-, -, hc, hs⟩ := tick_keeps l
    exact ⟨ht.fifo, ht.files, ht.short, ht.noFile, fun _ =>
      ⟨hs.trans hdone'.1, hc.trans hdone'.2, fun L hL => tick_buffers hL⟩⟩
  · exact h

/-! ### Runs -/

/-- What can happen to a runtime log: a call that logs without waiting or logs and waits; a step
of the writer, which takes the oldest entry, ticks, or finishes once the channel has closed and
emptied; or the shutdown that drops the sender. -/
inductive Op where
  | offer (level message : String)
  | send (level message : String)
  | receive
  | tick
  | shutdown
  | finish

/-- The log after an operation. -/
def apply (l : RuntimeLog) : Op → RuntimeLog
  | .offer level message => l.offer level message
  | .send level message => l.send level message
  | .receive => l.receive
  | .tick => l.tick
  | .shutdown => l.shutdown
  | .finish => l.finish

/-- The log after operations, in order. -/
def run (l : RuntimeLog) (ops : List Op) : RuntimeLog :=
  ops.foldl apply l

/-- No operation changes the batch. -/
lemma batch_apply (l : RuntimeLog) (op : Op) : (l.apply op).batch = l.batch := by
  cases op with
  | offer level message =>
    show (l.offer level message).batch = l.batch
    unfold RuntimeLog.offer
    split <;> rfl
  | send level message =>
    show (l.send level message).batch = l.batch
    unfold RuntimeLog.send
    split
    · dsimp only
      split
      · exact (advance_keeps l).1
      · rfl
    · rfl
  | receive => exact (receive_keeps l).1
  | tick => exact (tick_keeps l).1
  | shutdown => rfl
  | finish =>
    show l.finish.batch = l.batch
    unfold RuntimeLog.finish
    split
    · exact (tick_keeps l).1
    · rfl

lemma Writes.apply (h : l.Writes) (hb : 0 < l.batch) (op : Op) : (l.apply op).Writes := by
  cases op with
  | offer level message => exact h.offer
  | send level message => exact h.send hb
  | receive => exact h.receive hb
  | tick => exact h.tick hb
  | shutdown => exact h.shutdown
  | finish => exact h.finish hb

lemma Writes.run (h : l.Writes) (hb : 0 < l.batch) (ops : List Op) : (l.run ops).Writes := by
  induction ops generalizing l with
  | nil => exact h
  | cons op rest ih => exact ih (h.apply hb op) (by rw [batch_apply]; exact hb)

lemma batch_run (l : RuntimeLog) (ops : List Op) : (l.run ops).batch = l.batch := by
  induction ops generalizing l with
  | nil => rfl
  | cons op rest ih => exact (ih _).trans (batch_apply l op)

/-! ### Acceptance -/

/-- Without a sender no operation accepts an entry, and none brings the sender back. -/
lemma apply_of_not_accepting (ha : l.accepting = false) (op : Op) :
    (l.apply op).accepted = l.accepted ∧ (l.apply op).accepting = false := by
  cases op with
  | offer level message => simp [apply, RuntimeLog.offer, ha]
  | send level message => simp [apply, RuntimeLog.send, ha]
  | receive => exact ⟨(receive_keeps l).2.1, (receive_keeps l).2.2.1.trans ha⟩
  | tick => exact ⟨(tick_keeps l).2.1, (tick_keeps l).2.2.2.trans ha⟩
  | shutdown => exact ⟨rfl, rfl⟩
  | finish =>
    show l.finish.accepted = l.accepted ∧ l.finish.accepting = false
    unfold RuntimeLog.finish
    split
    · exact ⟨(tick_keeps l).2.1, (tick_keeps l).2.2.2.trans ha⟩
    · exact ⟨rfl, ha⟩

lemma run_of_not_accepting (ha : l.accepting = false) (ops : List Op) :
    (l.run ops).accepted = l.accepted ∧ (l.run ops).accepting = false := by
  induction ops generalizing l with
  | nil => exact ⟨rfl, ha⟩
  | cons op rest ih =>
    obtain ⟨hacc, hs⟩ := apply_of_not_accepting ha op
    obtain ⟨hacc', hs'⟩ := ih hs
    exact ⟨hacc'.trans hacc, hs'⟩

/-- Logging without waiting takes the entry exactly when the sender is there and the channel
has room. -/
lemma accepted_offer (l : RuntimeLog) (level message : String) :
    (l.offer level message).accepted =
      if l.accepting = true ∧ l.channel.length < l.capacity then l.accepted ++ [⟨level, message⟩]
      else l.accepted := by
  unfold RuntimeLog.offer
  by_cases hok : l.accepting = true ∧ l.channel.length < l.capacity
  · simp [hok, RuntimeLog.enqueue]
  · rw [if_neg hok, if_neg (by simpa using hok)]

/-! ### Finishing -/

/-- Once the writer has finished, every level's file holds exactly the accepted entries of that
level. -/
lemma Writes.written_of_finished (h : l.Writes) (hf : l.finished = true) (hL : L ∈ levels) :
    l.written L = l.accepted.filter (·.level = L) := by
  obtain ⟨-, hc, hbuf⟩ := h.finished hf
  have hfile := h.files L hL
  rw [hbuf L hL, List.append_nil] at hfile
  rw [hfile, h.fifo, hc, List.append_nil]

/-- Closing a log finishes its writer, and accepts nothing. -/
lemma finished_close (l : RuntimeLog) : l.close.finished = true ∧ l.close.accepted = l.accepted := by
  obtain ⟨-, hacc, hs, hc⟩ := advance_keeps l.shutdown
  have hdone : (!l.shutdown.advance.accepting && l.shutdown.advance.channel.isEmpty) = true := by
    rw [hs, hc]
    rfl
  unfold RuntimeLog.close RuntimeLog.finish
  rw [if_pos hdone]
  exact ⟨rfl, (tick_keeps _).2.1.trans hacc⟩

lemma Writes.close (h : l.Writes) (hb : 0 < l.batch) : l.close.Writes :=
  (h.shutdown.advance hb).finish (by rw [(advance_keeps _).1]; exact hb)

end RuntimeLog

/-- The runtime log writes each accepted entry once, to its level's file, in order. Logging
without waiting takes an entry exactly when the sender is there and the channel has room, and
after the shutdown nothing is accepted, whatever follows. For a log whose batches are not
empty, after any sequence of calls, writer steps and the shutdown: the channel holds the
accepted entries after those received; for each level with a file, the file followed by the
level's buffer is exactly the received entries of that level, in order, and the buffer holds
fewer entries than a batch; nothing is written for any other level; once the writer has
finished each file holds exactly the accepted entries of its level; and closing the log leaves
each file with exactly those. -/
theorem runtime_log_writes_each_accepted_entry_once :
    (∀ (l : RuntimeLog) (level message : String),
      (l.offer level message).accepted =
        if l.accepting = true ∧ l.channel.length < l.capacity then
          l.accepted ++ [⟨level, message⟩]
        else l.accepted) ∧
    (∀ (l : RuntimeLog) (later : List RuntimeLog.Op),
      (l.shutdown.run later).accepted = l.accepted) ∧
    ∀ (capacity batch : Nat), 0 < batch → ∀ ops : List RuntimeLog.Op,
      let l := (RuntimeLog.new capacity batch).run ops
      (∃ received, l.accepted = received ++ l.channel ∧
        ∀ L ∈ RuntimeLog.levels, l.written L ++ l.buffers L = received.filter (·.level = L) ∧
          (l.buffers L).length < batch) ∧
      (∀ L, L ∉ RuntimeLog.levels → l.written L = []) ∧
      (l.finished = true →
        ∀ L ∈ RuntimeLog.levels, l.written L = l.accepted.filter (·.level = L)) ∧
      l.close.files =
        RuntimeLog.levels.map fun L => (RuntimeLog.fileName L, l.accepted.filter (·.level = L)) := by
  refine ⟨RuntimeLog.accepted_offer, fun l later => (RuntimeLog.run_of_not_accepting rfl later).1,
    fun capacity batch hb ops => ?_⟩
  intro l
  have h : l.Writes := (RuntimeLog.writes_new capacity batch hb).run hb ops
  have hbatch : l.batch = batch := RuntimeLog.batch_run _ ops
  refine ⟨⟨l.received, h.fifo, fun L hL => ⟨h.files L hL, hbatch ▸ h.short L hL⟩⟩, h.noFile,
    fun hf L hL => h.written_of_finished hf hL, ?_⟩
  -- closing finishes the writer and accepts nothing more
  obtain ⟨hfin, hacc⟩ := RuntimeLog.finished_close l
  have hclose := h.close (hbatch ▸ hb)
  refine List.map_congr_left fun L hL => ?_
  rw [hclose.written_of_finished hfin hL, hacc]

/-- With a channel of sixteen and batches of a hundred, an entry logged and waited for and one
logged without waiting are in their files once the log closes, and one logged after the
shutdown is not. -/
theorem runtime_log_writes_each_accepted_entry_once_at_shutdown :
    ((RuntimeLog.new 16 100).run [.send "INFO" "first", .offer "WARN" "second", .shutdown,
        .send "INFO" "late"]).close.files =
      [(RuntimeLog.fileName "TRACE", []), (RuntimeLog.fileName "DEBUG", []),
        (RuntimeLog.fileName "INFO", [⟨"INFO", "first"⟩]),
        (RuntimeLog.fileName "WARN", [⟨"WARN", "second"⟩]), (RuntimeLog.fileName "ERROR", [])] := by
  obtain ⟨-, -, hrun⟩ := runtime_log_writes_each_accepted_entry_once
  obtain ⟨-, -, -, hfiles⟩ := hrun 16 100 (by decide)
    [.send "INFO" "first", .offer "WARN" "second", .shutdown, .send "INFO" "late"]
  rw [hfiles]
  rfl

end HeaderBidding
