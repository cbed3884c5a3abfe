import ProgramSupport.Printing.Console

/-!
# What a console carries

Written bytes are delivered or pending, and a device that works takes what it is given.  This
file provides

* `Console.Carries` — the device works, and the bytes delivered and pending are these;
* `Attempt.Writes` — an attempt that did not fail, and what its console carries;
* `Console.writeAll_writes` and `Console.print_writes` — writing adds the bytes, and printing the
  rendering, behind those that the console carries;
* `Console.flush_delivers` — a flush leaves nothing pending.

The order of the bytes is the point: delivering past pending bytes would change it, so every
lemma that delivers without a flush has that nothing is pending.
-/

namespace ProgramSupport

namespace Console

/-- The device works, and these bytes are delivered or pending, in this order. -/
structure Carries (c : Console) (bytes : List UInt8) : Prop where
  working : c.device = .working
  written : c.delivered ++ c.pending = bytes

/-- The attempt did not fail, and its console carries these bytes. -/
def Writes (a : Attempt Console) (bytes : List UInt8) : Prop :=
  a.failure = none ∧ a.writer.Carries bytes

variable {c : Console} {earlier bytes : List UInt8}

theorem Carries.writes (h : c.Carries bytes) : Writes ⟨none, c⟩ bytes := ⟨rfl, h⟩

theorem Writes.andThen {a : Attempt Console} {next : Console → Attempt Console}
    {later : List UInt8} (ha : Writes a bytes)
    (hnext : ∀ c, c.Carries bytes → Writes (next c) later) : Writes (andThen a next) later := by
  obtain ⟨hfailure, hcarries⟩ := ha
  cases a with
  | mk failure writer =>
    cases hfailure
    exact hnext writer hcarries

/-- Bytes can be delivered when nothing is pending before them. -/
theorem deliver_writes (h : c.Carries earlier) (hpending : c.pending = [])
    (bytes : List UInt8) : Writes (c.deliver bytes) (earlier ++ bytes) := by
  rw [deliver, h.working]
  refine ⟨rfl, rfl, ?_⟩
  show (c.delivered ++ bytes) ++ c.pending = _
  rw [← h.written, hpending, List.append_nil, List.append_nil]

/-- A flush that a working device gets leaves nothing pending. -/
theorem flush_eq (h : c.Carries earlier) :
    c.flush = ⟨none, { c with delivered := earlier, pending := [] }⟩ := by
  rw [flush, deliver, h.working, ← h.written]

theorem flush_writes (h : c.Carries earlier) : Writes c.flush earlier := by
  rw [flush_eq h]
  exact ⟨rfl, h.working, List.append_nil _⟩

/-- What a flush has delivered is all that was written. -/
theorem flush_delivers (h : c.Carries earlier) : c.flush.writer.delivered = earlier := by
  rw [flush_eq h]

/-- Pending bytes leave before bytes that do not fit, so the order is kept. -/
theorem hold_writes (h : c.Carries earlier) (bytes : List UInt8) :
    Writes (c.hold bytes) (earlier ++ bytes) := by
  have hkeep : ∀ d : Console, d.Carries earlier →
      Writes ⟨none, { d with pending := d.pending ++ bytes }⟩ (earlier ++ bytes) := by
    intro d hd
    refine ⟨rfl, hd.working, ?_⟩
    show d.delivered ++ (d.pending ++ bytes) = _
    rw [← List.append_assoc, hd.written]
  unfold hold
  by_cases hfull : room < c.pending.length + bytes.length
  · rw [if_pos hfull, flush_eq h]
    show Writes (if room ≤ bytes.length then _ else _) _
    have hflushed : Carries { c with delivered := earlier, pending := [] } earlier :=
      ⟨h.working, List.append_nil _⟩
    split
    · exact deliver_writes hflushed rfl bytes
    · exact hkeep _ hflushed
  · rw [if_neg hfull]
    show Writes (if room ≤ bytes.length then _ else _) _
    split
    · -- Bytes that fill the room alone fit only when nothing is pending.
      have hpending : c.pending = [] := List.eq_nil_of_length_eq_zero (by omega)
      exact deliver_writes h hpending bytes
    · exact hkeep c h

theorem writeLines_writes (h : c.Carries earlier) (bytes : List UInt8) :
    Writes (c.writeLines bytes) (earlier ++ bytes) := by
  unfold writeLines
  split
  · exact deliver_writes h ‹_› bytes
  · exact (hold_writes h bytes).andThen fun _ hd => flush_writes hd

/-- Written bytes stand behind those that were written before. -/
theorem writeAll_writes (h : c.Carries earlier) (bytes : List UInt8) :
    Writes (c.writeAll bytes) (earlier ++ bytes) := by
  have hsplit := splitLines_append bytes
  unfold writeAll
  split
  · next tail hparts =>
    rw [hparts] at hsplit
    have hfirst : Writes (if c.pending.getLast? = some Ascii.newline then c.flush else ⟨none, c⟩)
        earlier := by
      split
      · exact flush_writes h
      · exact h.writes
    refine hfirst.andThen fun d hd => ?_
    rw [← hsplit]
    exact hold_writes hd tail
  · next lines tail hlines hparts =>
    rw [hparts] at hsplit
    refine (writeLines_writes h lines).andThen fun d hd => ?_
    rw [← hsplit, ← List.append_assoc]
    exact hold_writes hd tail

theorem writePieces_writes (h : c.Carries earlier) (pieces : List (List UInt8)) :
    Writes (Writer.writePieces c pieces) (earlier ++ pieces.flatten) := by
  induction pieces generalizing c earlier with
  | nil =>
    rw [List.flatten_nil, List.append_nil]
    exact h.writes
  | cons piece pieces ih =>
    have hpiece : Writes (Writer.writeAll c piece) (earlier ++ piece) := writeAll_writes h piece
    obtain ⟨hfailure, hcarries⟩ := hpiece
    have hrest := ih hcarries
    rw [List.append_assoc, ← List.flatten_cons] at hrest
    rw [Writer.writePieces]
    cases hwrite : Writer.writeAll c piece with
    | mk failure writer =>
      rw [hwrite] at hfailure hrest
      cases hfailure
      exact hrest

/-- A value that is printed stands behind what was written before. -/
theorem print_writes (h : c.Carries earlier) (value : Printable) (newline : Bool) :
    (Writer.print c value newline).1 = .ok () ∧
      (Writer.print c value newline).2.Carries (earlier ++ value.render newline) := by
  obtain ⟨hfailure, hcarries⟩ := writePieces_writes h (value.linePieces newline)
  unfold Writer.print
  cases hwrite : Writer.writePieces c (value.linePieces newline) with
  | mk failure writer =>
    rw [hwrite] at hfailure hcarries
    cases hfailure
    exact ⟨rfl, hcarries⟩

end Console

end ProgramSupport
