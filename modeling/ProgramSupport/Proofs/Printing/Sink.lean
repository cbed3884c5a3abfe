import ProgramSupport.Printing.Sink

/-!
# What a writer of bounded room accepts

Writing all bytes takes as many single writes as it needs, each of which may accept only some of
them.  This file provides

* `Sink.Course` — how writing bytes to a sink can go, whatever single writes accept, and
  `Sink.writeAll_course`, that it goes one of these ways when they accept as much as they can;
* `Sink.filled` — what all of these ways come to: as many of the bytes as there is room for;
* `Writer.ActsAs` — a writer in which a sink is seen;
* `Writer.writePieces_seen` — pieces fill the sink as their text does in one write;
* `Writer.print_fills` — what printing a value comes to, with the text cut where the room ends.
-/

namespace ProgramSupport

namespace Sink

/-- What one write accepts at most, if there is a bound, is a byte or more. -/
def Advances (s : Sink) : Prop := ∀ most ∈ s.chunk, 0 < most

/-! ### Single writes -/

/-- How writing bytes to a sink can go: single writes accept some of the bytes that are left,
until none is left or there is no room for any. -/
inductive Course : Sink → List UInt8 → Attempt Sink → Prop
  | written (s : Sink) : Course s [] ⟨none, s⟩
  | accepted {s : Sink} {bytes : List UInt8} {count : Nat} {a : Attempt Sink}
      (hpos : 0 < count) (hbytes : count ≤ bytes.length) (hroom : count ≤ s.room)
      (hchunk : ∀ most ∈ s.chunk, count ≤ most)
      (behind : Course (s.accept bytes count) (bytes.drop count) a) : Course s bytes a
  | refused {s : Sink} {bytes : List UInt8} (hbytes : bytes ≠ []) (hroom : s.room = 0) :
      Course s bytes ⟨some s.refusal, s⟩

theorem share_le_length (s : Sink) (count : Nat) : s.share count ≤ count := by
  unfold share
  omega

theorem share_le_room (s : Sink) (count : Nat) : s.share count ≤ s.room := by
  unfold share
  omega

theorem share_le_chunk {s : Sink} {most : Nat} (h : most ∈ s.chunk) (count : Nat) :
    s.share count ≤ most := by
  unfold share
  rw [Option.mem_def.1 h, Option.getD_some]
  omega

/-- With room for a byte, a write of some bytes accepts one. -/
theorem room_eq_zero_of_share {s : Sink} (h : s.Advances) {count : Nat} (hpos : 0 < count)
    (hshare : s.share count = 0) : s.room = 0 := by
  unfold share at hshare
  cases hchunk : s.chunk with
  | none =>
    rw [hchunk, Option.getD_none] at hshare
    omega
  | some most =>
    have := h most hchunk
    rw [hchunk, Option.getD_some] at hshare
    omega

/-- Writes that accept as many bytes as they can are one of the ways. -/
theorem writeAll_course {s : Sink} (h : s.Advances) (bytes : List UInt8) :
    s.Course bytes (s.writeAll bytes) := by
  fun_induction writeAll s bytes with
  | case1 s => exact .written s
  | case2 s bytes hbytes count hcount =>
    have hlength := List.length_pos_iff.2 hbytes
    exact .refused hbytes (room_eq_zero_of_share h hlength hcount)
  | case3 s bytes hbytes count hcount ih =>
    exact .accepted (Nat.pos_of_ne_zero hcount) (share_le_length s _) (share_le_room s _)
      (fun most hmost => share_le_chunk hmost _) (ih h)

/-! ### Their outcome -/

/-- The sink has accepted as many of the bytes as it has room for, and refused the next one. -/
def filled (s : Sink) (bytes : List UInt8) : Attempt Sink where
  failure :=
    if bytes.length ≤ s.room then none
    else some (s.failure.getD "failed to write whole buffer")
  writer := s.accept bytes (min s.room bytes.length)

theorem accept_zero (s : Sink) (bytes : List UInt8) : s.accept bytes 0 = s := by
  simp [accept]

theorem filled_nil (s : Sink) : s.filled [] = ⟨none, s⟩ := by
  simp [filled, accept_zero]

/-- Accepting bytes in two steps is accepting them in one. -/
theorem accept_accept (s : Sink) (bytes : List UInt8) (count more : Nat) :
    (s.accept bytes count).accept (bytes.drop count) more = s.accept bytes (count + more) := by
  simp only [accept, Nat.sub_sub, List.append_assoc, List.take_add]

/-- What is left of the bytes fills what is left of the room, so a write of some of the bytes does
not change the outcome. -/
theorem filled_accept (s : Sink) {bytes : List UInt8} {count : Nat}
    (hbytes : count ≤ bytes.length) (hroom : count ≤ s.room) :
    (s.accept bytes count).filled (bytes.drop count) = s.filled bytes := by
  have hmin : count + min (s.room - count) (bytes.length - count) = min s.room bytes.length := by
    omega
  have hle : bytes.length - count ≤ s.room - count ↔ bytes.length ≤ s.room := by omega
  unfold filled
  rw [accept_accept, List.length_drop]
  simp only [accept, hmin, hle]

/-- Every way of writing bytes comes to the same. -/
theorem Course.eq_filled {s : Sink} {bytes : List UInt8} {a : Attempt Sink}
    (h : s.Course bytes a) : a = s.filled bytes := by
  induction h with
  | written s => exact (filled_nil s).symm
  | accepted _ hbytes hroom _ _ ih => rw [ih, filled_accept _ hbytes hroom]
  | @refused s bytes hbytes hroom =>
    have hlength := List.length_pos_iff.2 hbytes
    simp [filled, refusal, hroom, accept_zero, hbytes]

/-- What fits is no obstacle to what stands behind it. -/
theorem filled_append_of_le (s : Sink) {bytes : List UInt8} (h : bytes.length ≤ s.room)
    (more : List UInt8) :
    s.filled (bytes ++ more) = (s.accept bytes bytes.length).filled more := by
  have haccept : s.accept (bytes ++ more) bytes.length = s.accept bytes bytes.length := by
    simp [accept]
  have hsplit : (s.accept (bytes ++ more) bytes.length).filled
      ((bytes ++ more).drop bytes.length) = s.filled (bytes ++ more) :=
    filled_accept s (by rw [List.length_append]; omega) h
  rw [← hsplit, haccept, List.drop_left]

/-- Behind what does not fit nothing is accepted. -/
theorem filled_append_of_lt (s : Sink) {bytes : List UInt8} (h : s.room < bytes.length)
    (more : List UInt8) : s.filled (bytes ++ more) = s.filled bytes := by
  have hmin : min s.room (bytes ++ more).length = s.room := by
    rw [List.length_append]
    omega
  have hmin' : min s.room bytes.length = s.room := by omega
  unfold filled
  rw [hmin, hmin', if_neg (by rw [List.length_append]; omega), if_neg (by omega)]
  simp only [accept, List.take_append_of_le_length (Nat.le_of_lt h)]

end Sink

/-! ### Writers in which a sink is seen -/

namespace Writer

variable {ω : Type} [Writer ω] {view : ω → Sink}

/-- An attempt on a writer, seen as one on a sink. -/
def seen (view : ω → Sink) (a : Attempt ω) : Attempt Sink := ⟨a.failure, view a.writer⟩

/-- Writing to a writer goes as it can go on the sink that is seen in it. -/
def ActsAs (view : ω → Sink) : Prop :=
  ∀ (writer : ω) (bytes : List UInt8), (view writer).Advances →
    (view writer).Course bytes (seen view (writeAll writer bytes))

/-- A sink is seen in itself. -/
theorem actsAs_id : ActsAs (id : Sink → Sink) :=
  fun _ bytes h => Sink.writeAll_course h bytes

/-- Pieces that are written one after another fill a sink as their text does. -/
theorem writePieces_seen (hview : ActsAs view) {writer : ω} (h : (view writer).Advances)
    (pieces : List (List UInt8)) :
    seen view (writePieces writer pieces) = (view writer).filled pieces.flatten := by
  induction pieces generalizing writer with
  | nil => exact (Sink.filled_nil _).symm
  | cons piece pieces ih =>
    have hpiece := (hview writer piece h).eq_filled
    rw [List.flatten_cons, writePieces]
    cases hwrite : writeAll writer piece with
    | mk failure behind =>
      rw [hwrite] at hpiece
      obtain ⟨hfailure, hbehind⟩ := Attempt.mk.inj hpiece
      -- Either the piece fits and the others fill what is left, or none of them is written.
      by_cases hfits : piece.length ≤ (view writer).room
      · rw [if_pos hfits] at hfailure
        rw [Nat.min_eq_right hfits] at hbehind
        subst hfailure
        show seen view (writePieces behind pieces) = _
        rw [ih (by rw [hbehind]; exact h), hbehind, Sink.filled_append_of_le _ hfits]
      · rw [if_neg hfits] at hfailure
        subst hfailure
        rw [Sink.filled_append_of_lt _ (Nat.lt_of_not_le hfits)]
        exact hpiece

/-- Printing is filling the sink with the text of the value. -/
theorem print_seen (hview : ActsAs view) {writer : ω} (h : (view writer).Advances)
    (value : Printable) (newline : Bool) :
    (print writer value newline).1 =
        (match ((view writer).filled (value.render newline)).failure with
        | some text => .error (.io "print" text)
        | none => .ok ()) ∧
      view (print writer value newline).2 =
        ((view writer).filled (value.render newline)).writer := by
  have hpieces := writePieces_seen hview h (value.linePieces newline)
  rw [Printable.render, ← hpieces, print]
  cases writePieces writer (value.linePieces newline) with
  | mk failure behind => cases failure <;> exact ⟨rfl, rfl⟩

/-- Printing succeeds exactly when the whole text of the value fits into the room of the writer.
It accepts the text up to its end or the end of the room and nothing else, and then fails with
the text of the writer.  How many bytes single writes accept makes no difference. -/
theorem print_fills (hview : ActsAs view) (value : Printable) (newline : Bool) {writer : ω}
    (h : (view writer).Advances) :
    let text := value.render newline
    let limit := (view writer).room
    let printed := print writer value newline
    print ([] : List UInt8) value newline = (.ok (), text) ∧
      (printed.1 = .ok () ↔ text.length ≤ limit) ∧
      (limit < text.length → printed.1 = .error
        (.io "print" ((view writer).failure.getD "failed to write whole buffer"))) ∧
      (view printed.2).accepted =
        (view writer).accepted ++ text.take (min limit text.length) ∧
      ∀ chunk : Option Nat, (∀ most ∈ chunk, 0 < most) →
        let other := print ({ view writer with chunk } : Sink) value newline
        other.1 = printed.1 ∧ other.2.accepted = (view printed.2).accepted := by
  intro text limit printed
  obtain ⟨hresult, hbehind⟩ := print_seen hview h value newline
  refine ⟨?_, ?_, ?_, ?_, ?_⟩
  · rw [print_list, List.nil_append]
  · rw [show printed.1 = _ from hresult, Sink.filled]
    by_cases hfits : text.length ≤ limit
    · simp [text, limit, hfits]
    · simp [text, limit, hfits]
  · intro hlimit
    rw [show printed.1 = _ from hresult, Sink.filled, if_neg (Nat.not_le.2 hlimit)]
  · rw [show view printed.2 = _ from hbehind]
    rfl
  · intro chunk hchunk
    have hadvances : ({ view writer with chunk } : Sink).Advances := hchunk
    obtain ⟨hother, hotherBehind⟩ := print_seen actsAs_id hadvances value newline
    refine ⟨?_, ?_⟩
    · rw [hother, show printed.1 = _ from hresult]
      rfl
    · rw [show view printed.2 = _ from hbehind]
      exact (congrArg Sink.accepted hotherBehind).trans rfl

/-- The elements of an array in writes of at most five bytes, cut behind the first separator. -/
theorem print_fills_cut :
    let sink : Sink := { room := 12, chunk := some 5, failure := some "full" }
    let printed := print sink (.array (IntArray.ofList [7, -12])) true
    ActsAs (id : Sink → Sink) ∧ sink.Advances ∧ printed.1 = .error (.io "print" "full") ∧
      printed.2.accepted = Utf8.encode "IntArray(7, " := by
  intro sink printed
  have hadvances : sink.Advances := by
    intro most hmost
    cases hmost
    decide
  obtain ⟨-, -, herror, haccepted, -⟩ :=
    print_fills actsAs_id (.array (IntArray.ofList [7, -12])) true hadvances
  refine ⟨actsAs_id, hadvances, herror (by decide +kernel), ?_⟩
  exact haccepted.trans (by decide +kernel)

end Writer

end ProgramSupport
