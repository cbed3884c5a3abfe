import ProgramSupport.ByteString

/-!
# Parts of byte strings

A part of a string is what stands between two of its positions.  This file provides

* `ByteString.IsPart` — the part between two positions, by what stands before and behind it;
* `substring_eq_ok_iff` and `charAt_eq_ok_iff` — the operations that check their arguments find the
  parts, where a character is a part of size one;
* `exists_isPart_iff` and `IsPart.unique` — where there is a part, and that there is one only;
* `IsPart.within`, `IsPart.mirrored`, `IsPart.joined` and `IsPart.across` — parts of parts, of a
  reversed string, side by side, and across the joint of two strings;
* `ByteString.PartAgrees` and `ByteString.parts_agree` — the same for the operations, whose
  positions are signed words.
-/

namespace ProgramSupport.ByteString

variable {s t u v w : ByteString} {start middle stop : Int}

/-! ### Parts between positions -/

/-- The string has these characters between two positions: others stand before and behind them. -/
def IsPart (s : ByteString) (start stop : Int) (part : ByteString) : Prop :=
  ∃ before behind, s.bytes = before ++ part.bytes ++ behind ∧ start = before.length ∧
    stop = before.length + part.size

theorem size_concat (s t : ByteString) : (s.concat t).size = s.size + t.size := List.length_append

theorem size_reverse (s : ByteString) : s.reverse.size = s.size := List.length_reverse

/-- Between positions in order stands what a string holds before the second, without what it holds
before the first. -/
theorem isPart_iff :
    IsPart s start stop u ↔ (0 ≤ start ∧ start ≤ stop ∧ stop ≤ s.size) ∧
      u = ⟨(s.bytes.take stop.toNat).drop start.toNat⟩ := by
  constructor
  · rintro ⟨before, behind, hbytes, hstart, hstop⟩
    have hsize : s.size = before.length + u.size + behind.length := by
      rw [size, hbytes, List.length_append, List.length_append, size]
    have htaken : (before ++ u.bytes).length = stop.toNat := by
      rw [List.length_append]
      show before.length + u.size = _
      omega
    have hdropped : before.length = start.toNat := by omega
    refine ⟨by omega, ?_⟩
    rw [hbytes, List.take_left' htaken, List.drop_left' hdropped]
  · rintro ⟨⟨hstart, horder, hstop⟩, rfl⟩
    have hsize : s.size = s.bytes.length := rfl
    refine ⟨s.bytes.take start.toNat, s.bytes.drop stop.toNat, ?_, ?_, ?_⟩
    · have hbefore : s.bytes.take start.toNat = (s.bytes.take stop.toNat).take start.toNat := by
        rw [List.take_take, Nat.min_eq_left (by omega)]
      rw [hbefore, List.take_append_drop, List.take_append_drop]
    · rw [List.length_take]
      omega
    · rw [size, List.length_take, List.length_drop, List.length_take]
      omega

/-- There is a part between positions in order, and nowhere else. -/
theorem exists_isPart_iff :
    (∃ u, IsPart s start stop u) ↔ 0 ≤ start ∧ start ≤ stop ∧ stop ≤ s.size :=
  ⟨fun ⟨_, hu⟩ => (isPart_iff.1 hu).1, fun h => ⟨_, isPart_iff.2 ⟨h, rfl⟩⟩⟩

namespace IsPart

theorem unique (hu : IsPart s start stop u) (hv : IsPart s start stop v) : u = v :=
  (isPart_iff.1 hu).2.trans (isPart_iff.1 hv).2.symm

theorem size_eq (hu : IsPart s start stop u) : (u.size : Int) = stop - start := by
  obtain ⟨before, behind, -, hstart, hstop⟩ := hu
  omega

/-- A part of a part is a part of the whole, as far behind the start of that part. -/
theorem within {first last : Int} (hu : IsPart s start stop u) (hv : IsPart u first last v) :
    IsPart s (start + first) (start + last) v := by
  obtain ⟨before, behind, hbytes, hstart, -⟩ := hu
  obtain ⟨before', behind', hbytes', hfirst, hlast⟩ := hv
  refine ⟨before ++ before', behind' ++ behind, ?_, ?_, ?_⟩
  · rw [hbytes, hbytes']
    simp only [List.append_assoc]
  · rw [List.length_append]
    omega
  · rw [List.length_append]
    omega

/-- Positions of a reversed string are counted from its end. -/
theorem mirrored (hu : IsPart s start stop u) :
    IsPart s.reverse (s.size - stop) (s.size - start) u.reverse := by
  have hsize := hu.size_eq
  have hbounds := (isPart_iff.1 hu).1
  obtain ⟨before, behind, hbytes, hstart, hstop⟩ := hu
  have htotal : s.size = before.length + u.size + behind.length := by
    rw [size, hbytes, List.length_append, List.length_append, size]
  refine ⟨behind.reverse, before.reverse, ?_, ?_, ?_⟩
  · show s.bytes.reverse = behind.reverse ++ u.bytes.reverse ++ before.reverse
    rw [hbytes, List.reverse_append, List.reverse_append, List.append_assoc]
  · rw [List.length_reverse]
    omega
  · rw [List.length_reverse, size_reverse]
    omega

/-- Parts side by side make one. -/
theorem joined (hv : IsPart s start middle v) (hw : IsPart s middle stop w) :
    IsPart s start stop (v.concat w) := by
  obtain ⟨before, behind, hbytes, hstart, hmiddle⟩ := hv
  obtain ⟨before', behind', hbytes', hmiddle', hstop⟩ := hw
  have hlength : (before ++ v.bytes).length = before'.length := by
    rw [List.length_append]
    show before.length + v.size = _
    omega
  have hbefore : before ++ v.bytes = before' := by
    rw [hbytes', List.append_assoc] at hbytes
    exact (List.append_inj_left hbytes hlength.symm).symm
  refine ⟨before, behind', ?_, hstart, ?_⟩
  · show s.bytes = before ++ (v.bytes ++ w.bytes) ++ behind'
    rw [hbytes', ← hbefore]
    simp only [List.append_assoc]
  · rw [size_concat]
    omega

/-- The end of one string and the beginning of another are a part of the two together. -/
theorem across (hv : IsPart s start s.size v) (hw : IsPart t 0 stop w) :
    IsPart (s.concat t) start (s.size + stop) (v.concat w) := by
  have hleft : IsPart (s.concat t) 0 s.size s :=
    ⟨[], t.bytes, rfl, rfl, (Int.zero_add _).symm⟩
  have hright : IsPart (s.concat t) s.size (s.size + t.size) t :=
    ⟨s.bytes, [], (List.append_nil _).symm, rfl, rfl⟩
  have hv' := hleft.within hv
  have hw' := hright.within hw
  rw [Int.zero_add, Int.zero_add] at hv'
  rw [Int.add_zero] at hw'
  exact hv'.joined hw'

end IsPart

/-! ### The operations -/

/-- A substring is the part between the two positions. -/
theorem substring_eq_ok_iff {start stop : Int64} :
    s.substring start stop = .ok u ↔ IsPart s start.toInt stop.toInt u := by
  rw [isPart_iff, substring]
  split
  · next h =>
    rw [Except.ok.injEq, and_iff_right h]
    exact eq_comm
  · next h => exact ⟨nofun, fun hpart => absurd hpart.1 h⟩

theorem exists_substring_iff {start stop : Int64} :
    (∃ u, s.substring start stop = .ok u) ↔
      0 ≤ start.toInt ∧ start.toInt ≤ stop.toInt ∧ stop.toInt ≤ s.size := by
  rw [← exists_isPart_iff]
  exact exists_congr fun u => substring_eq_ok_iff

/-- A part of size one is a character. -/
theorem isPart_singleton_iff {c : UInt8} :
    IsPart s start (start + 1) ⟨[c]⟩ ↔ ∃ slot : Nat, start = slot ∧ s.bytes[slot]? = some c := by
  constructor
  · rintro ⟨before, behind, hbytes, hstart, -⟩
    refine ⟨before.length, hstart, ?_⟩
    rw [hbytes, List.append_assoc, List.getElem?_append_right (Nat.le_refl _), Nat.sub_self]
    rfl
  · rintro ⟨slot, rfl, hslot⟩
    obtain ⟨hlt, hget⟩ := List.getElem?_eq_some_iff.1 hslot
    have hlength : (s.bytes.take slot).length = slot := List.length_take_of_le (Nat.le_of_lt hlt)
    refine ⟨s.bytes.take slot, s.bytes.drop (slot + 1), ?_, ?_, ?_⟩
    · rw [List.append_assoc, ← hget]
      show s.bytes = s.bytes.take slot ++ (s.bytes[slot] :: s.bytes.drop (slot + 1))
      rw [← List.drop_eq_getElem_cons hlt, List.take_append_drop]
    · rw [hlength]
    · rw [hlength]
      rfl

/-- A character is the part of size one at its position. -/
theorem charAt_eq_ok_iff {index : Int64} {c : UInt8} :
    s.charAt index = .ok c ↔ IsPart s index.toInt (index.toInt + 1) ⟨[c]⟩ := by
  rw [isPart_singleton_iff]
  constructor
  · intro h
    cases hslot : checkIndex "String::char_at" index s.size with
    | error violation =>
      rw [charAt, hslot] at h
      cases h
    | ok slot =>
      obtain ⟨hindex, hlt⟩ := checkIndex_eq_ok_iff.1 hslot
      rw [charAt, hslot] at h
      obtain rfl : s.bytes.getD slot 0 = c := Except.ok.inj h
      refine ⟨slot, hindex, ?_⟩
      rw [List.getD_eq_getElem?_getD, List.getElem?_eq_getElem hlt]
      rfl
  · rintro ⟨slot, hindex, hslot⟩
    have hlt : slot < s.size := (List.getElem?_eq_some_iff.1 hslot).1
    rw [charAt, checkIndex_eq_ok_iff.2 ⟨hindex, hlt⟩]
    show Except.ok (s.bytes.getD slot 0) = _
    rw [List.getD_eq_getElem?_getD, hslot]
    rfl

theorem exists_charAt_iff {index : Int64} :
    (∃ c, s.charAt index = .ok c) ↔ 0 ≤ index.toInt ∧ index.toInt < s.size := by
  constructor
  · rintro ⟨c, hc⟩
    have hbounds := (isPart_iff.1 (charAt_eq_ok_iff.1 hc)).1
    omega
  · rintro ⟨hstart, hlt⟩
    have hslot : index.toInt.toNat < s.bytes.length := by
      show _ < s.size
      omega
    exact ⟨s.bytes[index.toInt.toNat], charAt_eq_ok_iff.2 (isPart_singleton_iff.2
      ⟨_, (Int.toNat_of_nonneg hstart).symm, List.getElem?_eq_getElem hslot⟩)⟩

/-! ### Positions as signed words -/

/-- The size as a signed word. -/
def signedSize (s : ByteString) : Int64 := Int64.ofNat s.size

theorem toInt_signedSize (h : s.size < Nat.pow 2 63) : s.signedSize.toInt = s.size :=
  Int64.toInt_ofNat_of_lt h

/-- The sum of two positions that is not behind a third one does not wrap. -/
theorem toInt_add_of_le {a b c : Int64} (ha : 0 ≤ a.toInt) (hc : 0 ≤ c.toInt)
    (h : a.toInt + c.toInt ≤ b.toInt) : (a + c).toInt = a.toInt + c.toInt := by
  have hlt := b.toInt_lt
  rw [Int64.toInt_add]
  exact Int.bmod_eq_of_le (by omega) (by omega)

/-- The distance from a position to a later one does not wrap. -/
theorem toInt_sub_of_le {a b : Int64} (ha : 0 ≤ a.toInt) (h : a.toInt ≤ b.toInt) :
    (b - a).toInt = b.toInt - a.toInt :=
  Int64.toInt_sub_of_le b a (Int64.le_iff_toInt_le.2 ha) (Int64.le_iff_toInt_le.2 h)

/-- What the operations say about the substring `u` of `s` between `a` and `b` is what they say
about `s`. -/
structure PartAgrees (s : ByteString) (a b : Int64) (u : ByteString) : Prop where
  exists_substring_iff : ∀ c d, (∃ v, u.substring c d = .ok v) ↔
    0 ≤ c.toInt ∧ c.toInt ≤ d.toInt ∧ d.toInt ≤ b.toInt - a.toInt
  /-- A substring of the part is one of the string, and its positions there do not wrap. -/
  substring_eq : ∀ c d v, u.substring c d = .ok v →
    (a + c).toInt = a.toInt + c.toInt ∧ (a + d).toInt = a.toInt + d.toInt ∧
      s.substring (a + c) (a + d) = .ok v
  exists_charAt_iff : ∀ i, (∃ c, u.charAt i = .ok c) ↔ 0 ≤ i.toInt ∧ i.toInt < b.toInt - a.toInt
  charAt_eq : ∀ i c, u.charAt i = .ok c →
    (a + i).toInt = a.toInt + i.toInt ∧ s.charAt (a + i) = .ok c
  /-- Reversed, the part is one of the reversed string, whose size is a signed word as it is for all
  that a memory holds. -/
  reverse_eq : s.size < Nat.pow 2 63 →
    s.reverse.substring (s.signedSize - b) (s.signedSize - a) = .ok u.reverse
  /-- Cut anywhere, the part is put together again. -/
  concat_eq : ∀ m : Int64, a.toInt ≤ m.toInt → m.toInt ≤ b.toInt →
    ∃ v w, s.substring a m = .ok v ∧ s.substring m b = .ok w ∧ u = v.concat w

theorem IsPart.agrees {a b : Int64} (hu : IsPart s a.toInt b.toInt u) : PartAgrees s a b u := by
  obtain ⟨hstart, horder, hstop⟩ := (isPart_iff.1 hu).1
  have hsize := hu.size_eq
  constructor
  · intro c d
    rw [ByteString.exists_substring_iff, hsize]
  · intro c d v hv
    obtain ⟨hc, hd, hlast⟩ := ByteString.exists_substring_iff.1 ⟨v, hv⟩
    have hfirst' := toInt_add_of_le (a := a) (b := b) (c := c) hstart hc (by omega)
    have hlast' := toInt_add_of_le (a := a) (b := b) (c := d) hstart (by omega) (by omega)
    refine ⟨hfirst', hlast', ?_⟩
    rw [substring_eq_ok_iff, hfirst', hlast']
    exact hu.within (substring_eq_ok_iff.1 hv)
  · intro i
    rw [ByteString.exists_charAt_iff, hsize]
  · intro i c hc
    obtain ⟨hi, hlt⟩ := ByteString.exists_charAt_iff.1 ⟨c, hc⟩
    have hindex := toInt_add_of_le (a := a) (b := b) (c := i) hstart hi (by omega)
    refine ⟨hindex, ?_⟩
    rw [charAt_eq_ok_iff, hindex, Int.add_assoc]
    exact hu.within (charAt_eq_ok_iff.1 hc)
  · intro hword
    have htotal := toInt_signedSize hword
    rw [substring_eq_ok_iff, toInt_sub_of_le (by omega) (by omega),
      toInt_sub_of_le (by omega) (by omega), htotal]
    exact hu.mirrored
  · intro m hm hm'
    obtain ⟨v, hv⟩ := exists_isPart_iff.2 ⟨hstart, hm, Int.le_trans hm' hstop⟩
    obtain ⟨w, hw⟩ := exists_isPart_iff.2 ⟨Int.le_trans hstart hm, hm', hstop⟩
    exact ⟨v, w, substring_eq_ok_iff.2 hv, substring_eq_ok_iff.2 hw, hu.unique (hv.joined hw)⟩

/-- A substring across the joint of two strings is the end of the one and the beginning of the
other. -/
theorem substring_concat {a b : Int64} (ha : a.toInt ≤ s.size) (hb : s.size ≤ b.toInt)
    (hu : (s.concat t).substring a b = .ok u) :
    ∃ v w, s.substring a s.signedSize = .ok v ∧ t.substring 0 (b - s.signedSize) = .ok w ∧
      u = v.concat w := by
  have hpart := substring_eq_ok_iff.1 hu
  obtain ⟨hstart, -, hstop⟩ := (isPart_iff.1 hpart).1
  have htotal : s.signedSize.toInt = s.size :=
    toInt_signedSize (Int.ofNat_lt.1 (Int.lt_of_le_of_lt hb b.toInt_lt))
  have hrest : (b - s.signedSize).toInt = b.toInt - s.size := by
    rw [toInt_sub_of_le (by omega) (by omega), htotal]
  rw [size_concat] at hstop
  obtain ⟨v, hv⟩ := exists_isPart_iff.2 ⟨hstart, ha, Int.le_refl (s.size : Int)⟩
  obtain ⟨w, hw⟩ : ∃ w, IsPart t 0 (b.toInt - s.size) w :=
    exists_isPart_iff.2 ⟨Int.le_refl 0, by omega, by omega⟩
  refine ⟨v, w, ?_, ?_, ?_⟩
  · rw [substring_eq_ok_iff, htotal]
    exact hv
  · rw [substring_eq_ok_iff, hrest]
    exact hw
  · have hacross := hv.across hw
    rw [Int.add_comm, Int.sub_add_cancel] at hacross
    exact hpart.unique hacross

theorem reverse_concat (s t : ByteString) : (s.concat t).reverse = t.reverse.concat s.reverse :=
  congrArg ByteString.mk List.reverse_append

/-- There is a substring just between positions in order.  All operations on it are operations on
the string, and no position that they name there wraps.  A substring of two strings together is the
end of the one and the beginning of the other, and reversed they change places. -/
theorem parts_agree (s t : ByteString) (a b : Int64) :
    ((∃ u, s.substring a b = .ok u) ↔
        0 ≤ a.toInt ∧ a.toInt ≤ b.toInt ∧ b.toInt ≤ s.size) ∧
      (∀ u, s.substring a b = .ok u → PartAgrees s a b u) ∧
      (∀ u, (s.concat t).substring a b = .ok u → a.toInt ≤ s.size → s.size ≤ b.toInt →
        ∃ v w, s.substring a s.signedSize = .ok v ∧ t.substring 0 (b - s.signedSize) = .ok w ∧
          u = v.concat w) ∧
      (s.concat t).reverse = t.reverse.concat s.reverse :=
  ⟨exists_substring_iff, fun _ hu => (substring_eq_ok_iff.1 hu).agrees,
    fun _ hu ha hb => substring_concat ha hb hu, reverse_concat s t⟩

end ProgramSupport.ByteString
