import Mathlib
import Rulebook.Percent.Reader
import Rulebook.Proofs.Number.Printing

/-!
# Rulebook.Proofs.Percent.Notation

The notation of ranges, and the reader against it.

A `Layout` says where the parts of a written range stand: two numbers, a minus between them, and
spaces and tabs around each number.  That the minus is also the sign of a number and of an exponent
does not make a text ambiguous: behind a number stands a space, a tab, the minus or nothing, and no
number goes on with one of these, so the reader stops where the number of the layout does
(`readBound_append`).  Hence it reads the texts with a layout and no others, and no text has two
(`readRange_iff_exists_layout`).  A printed range has one, so that printing can be undone
(`readRange_toText`).
-/

namespace Rulebook.Percent

open Number (Numeral)

/-! ## Layouts -/

/-- A number as it stands in a range, and what stands around it. -/
structure Bound where
  before : List Char
  number : List Char
  after : List Char

/-- Nothing but spaces and tabs. -/
def IsGaps (cs : List Char) : Prop :=
  ∀ c ∈ cs, isGap c = true

namespace Bound

/-- The text of a bound. -/
def chars (b : Bound) : List Char :=
  b.before ++ (b.number ++ b.after)

/-- The bound is the number `x` in its written form, with spaces and tabs around it. -/
structure Writes (b : Bound) (x : Number) : Prop where
  before : IsGaps b.before
  number : Numeral b.number x
  after : IsGaps b.after

end Bound

/-- The parts of a written range. -/
structure Layout where
  start : Bound
  stop : Bound

namespace Layout

/-- The text of a range. -/
def chars (l : Layout) : List Char :=
  l.start.chars ++ '-' :: l.stop.chars

/-- Both bounds are written out, and they are those of the range. -/
structure Writes (l : Layout) (r : Range) : Prop where
  start : l.start.Writes r.start
  stop : l.stop.Writes r.stop

end Layout

/-! ## Bounds -/

/-- A bound ends here: the text does, or the minus of the range comes. -/
def Closes (rest : List Char) : Prop :=
  ∀ c ∈ rest.head?, c = '-'

theorem closes_nil : Closes [] := by simp [Closes]

theorem closes_minus (rest : List Char) : Closes ('-' :: rest) := by simp [Closes]

theorem Closes.isGap_head {rest : List Char} (h : Closes rest) :
    ∀ c ∈ rest.head?, isGap c = false := by
  intro c hc
  rw [h c hc]
  rfl

/-- Spaces, tabs and the minus of the range are not part of a number. -/
theorem Closes.ends {gaps rest : List Char} (hgaps : IsGaps gaps) (h : Closes rest) :
    Number.Ends (gaps ++ rest) := by
  cases gaps with
  | nil =>
      intro c hc
      rw [h c hc]
      decide
  | cons gap gaps =>
      have hgap := hgaps gap List.mem_cons_self
      have hcases : gap = ' ' ∨ gap = '\t' := by simpa [isGap] using hgap
      obtain rfl | rfl := hcases <;> simp [Number.Ends]

/-- A number starts with neither a space nor a tab. -/
theorem isGap_numeral_head {cs : List Char} {x : Number} (h : Numeral cs x) (rest : List Char) :
    ∀ c ∈ (cs ++ rest).head?, isGap c = false := by
  obtain ⟨c, after, rfl⟩ := List.exists_cons_of_ne_nil h.ne_nil
  obtain ⟨hlow, -⟩ := h.isPrintable c List.mem_cons_self
  have hspace : c ≠ ' ' := by
    rintro rfl
    simp at hlow
  have htab : c ≠ '\t' := by
    rintro rfl
    simp at hlow
  simp [isGap, hspace, htab]

section Reading

variable {b b' : Bound} {x x' : Number} {rest rest' : List Char}

/-- A bound is read up to where it ends. -/
theorem readBound_append (h : b.Writes x) (hrest : Closes rest) :
    readBound (b.chars ++ rest) = some (x, rest) := by
  have hscan := Number.scan_append_of_numeral h.number (hrest.ends h.after)
  have hhead := isGap_numeral_head h.number (b.after ++ rest)
  rw [Bound.chars, List.append_assoc, List.append_assoc, readBound,
    Text.dropWhile_append_run h.before hhead, hscan]
  simp [Text.dropWhile_append_run h.after hrest.isGap_head]

/-- What is read is a bound at the front of the text. -/
theorem exists_of_readBound {cs : List Char} (h : readBound cs = some (x, rest)) :
    ∃ b : Bound, b.Writes x ∧ cs = b.chars ++ rest := by
  obtain ⟨⟨y, after⟩, hscan, heq⟩ := Option.map_eq_some_iff.1 h
  cases heq
  obtain ⟨number, hnumber, hbody⟩ := Number.exists_numeral_of_scan hscan
  have hgaps (cs : List Char) : IsGaps (cs.takeWhile isGap) := fun _ => List.mem_takeWhile_imp
  refine ⟨⟨cs.takeWhile isGap, number, after.takeWhile isGap⟩, ⟨hgaps cs, hnumber, hgaps after⟩, ?_⟩
  rw [Bound.chars, List.append_assoc, List.append_assoc, List.takeWhile_append_dropWhile, ← hbody,
    List.takeWhile_append_dropWhile]

/-- A text has at most one bound at its front. -/
theorem bound_append_inj (h : b.Writes x) (h' : b'.Writes x') (hrest : Closes rest)
    (hrest' : Closes rest') (heq : b.chars ++ rest = b'.chars ++ rest') :
    b = b' ∧ rest = rest' := by
  rw [Bound.chars, Bound.chars, List.append_assoc, List.append_assoc, List.append_assoc,
    List.append_assoc] at heq
  obtain ⟨hbefore, hbody⟩ := Text.append_run_inj h.before (isGap_numeral_head h.number _) h'.before
    (isGap_numeral_head h'.number _) heq
  -- the reader stops in one place of a text, and both numbers end there
  have hscan := Number.scan_append_of_numeral h.number (hrest.ends h.after)
  have hscan' := Number.scan_append_of_numeral h'.number (hrest'.ends h'.after)
  rw [hbody, hscan'] at hscan
  have hends : b'.after ++ rest' = b.after ++ rest := congrArg Prod.snd (Option.some.inj hscan)
  rw [hends] at hbody
  have hnumber := List.append_cancel_right hbody
  obtain ⟨hafter, hrests⟩ := Text.append_run_inj h'.after hrest'.isGap_head h.after
    hrest.isGap_head hends
  cases b
  cases b'
  simp_all

end Reading

/-! ## Ranges -/

theorem readChars_of_writes {l : Layout} {r : Range} (h : l.Writes r) :
    readChars l.chars = .ok r := by
  have hstop := readBound_append h.stop closes_nil
  rw [List.append_nil] at hstop
  rw [Layout.chars, readChars, readBound_append h.start (closes_minus _)]
  simp [hstop]

theorem exists_of_readChars {cs : List Char} {r : Range} (h : readChars cs = .ok r) :
    ∃ l : Layout, l.Writes r ∧ l.chars = cs := by
  unfold readChars at h
  split at h
  · cases h
  · next start rest hread =>
      split at h
      · cases h
      · next stop hread' =>
          cases h
          obtain ⟨b, hb, rfl⟩ := exists_of_readBound hread
          obtain ⟨b', hb', rfl⟩ := exists_of_readBound hread'
          exact ⟨⟨b, b'⟩, ⟨hb, hb'⟩, by simp [Layout.chars]⟩
      · cases h
  · cases h

/-- No text has two layouts. -/
theorem layout_unique {l l' : Layout} {r r' : Range} (h : l.Writes r) (h' : l'.Writes r')
    (heq : l.chars = l'.chars) : l = l' := by
  have hstart := bound_append_inj h.start h'.start (closes_minus _) (closes_minus _) heq
  have hrest := (List.cons.inj hstart.2).2
  have hstop := bound_append_inj h.stop h'.stop closes_nil closes_nil (by simpa using hrest)
  cases l
  cases l'
  simp_all

theorem readRange_eq_ok_iff {s : String} {r : Range} :
    readRange s = .ok r ↔ readChars (Text.trimChars s.toList) = .ok r := by
  unfold readRange
  cases readChars (Text.trimChars s.toList) <;> simp

/-- A text is read as the range of its layout. -/
theorem readRange_of_writes {s : String} {l : Layout} {r : Range} (h : l.Writes r)
    (hchars : l.chars = Text.trimChars s.toList) : readRange s = .ok r := by
  have hread := readChars_of_writes h
  rw [hchars] at hread
  exact readRange_eq_ok_iff.2 hread

/-- A text is read exactly if it has a layout, white space around it aside.  It has only one then,
and the range that is read is that of the numbers in it. -/
theorem readRange_iff_exists_layout (s : String) :
    ((∃ r, readRange s = .ok r) ↔
        ∃ (l : Layout) (r : Range), l.Writes r ∧ l.chars = Text.trimChars s.toList) ∧
      ∀ (l : Layout) (r : Range), l.Writes r → l.chars = Text.trimChars s.toList →
        readRange s = .ok r ∧
          Number.parseChars? l.start.number = some r.start ∧
          Number.parseChars? l.stop.number = some r.stop ∧
          ∀ (l' : Layout) (r' : Range), l'.Writes r' → l'.chars = Text.trimChars s.toList →
            l' = l := by
  constructor
  · constructor
    · rintro ⟨r, hr⟩
      obtain ⟨l, hl, hchars⟩ := exists_of_readChars (readRange_eq_ok_iff.1 hr)
      exact ⟨l, r, hl, hchars⟩
    · rintro ⟨l, r, hl, hchars⟩
      exact ⟨r, readRange_of_writes hl hchars⟩
  · intro l r hl hchars
    have hstart := Number.parseChars?_of_numeral hl.start.number
    have hstop := Number.parseChars?_of_numeral hl.stop.number
    refine ⟨readRange_of_writes hl hchars, hstart, hstop, ?_⟩
    intro l' r' hl' hchars'
    exact layout_unique hl' hl (hchars'.trans hchars.symm)

/-- The minus as a separator, a sign and the sign of an exponent, and white space of all kinds. -/
theorem readRange_signed : readRange "\u00a01e-5\t- -.5\u3000" =
    .ok ⟨Decimal.toNumber false ⟨1, -5⟩, Decimal.toNumber true ⟨5, -1⟩⟩ := by
  have hone : Number.AreDigits ['1'] := by simp [Number.AreDigits]
  have hfive : Number.AreDigits ['5'] := by simp [Number.AreDigits]
  have hstart := Numeral.decimal .absent (.whole hone (by simp))
    (.given (.inl rfl) .minus hfive (by simp))
  have hstop := Numeral.decimal .minus (.fraction hfive (by simp)) .absent
  simp [Number.ofDigits, Nat.ofDigitChars] at hstart hstop
  -- from here on the numbers are names, so that no step rounds them
  generalize Decimal.toNumber false ⟨1, -5⟩ = start at *
  generalize Decimal.toNumber true ⟨5, -1⟩ = stop at *
  have hwrites : Layout.Writes ⟨⟨[], _, ['\t']⟩, ⟨[' '], _, []⟩⟩ ⟨start, stop⟩ :=
    ⟨⟨by simp [IsGaps], hstart, by simp [IsGaps, isGap]⟩,
      ⟨by simp [IsGaps, isGap], hstop, by simp [IsGaps]⟩⟩
  exact ((readRange_iff_exists_layout _).2 _ _ hwrites (by decide)).1

/-! ## Printed ranges -/

/-- The layout of a printed range, which has no spaces. -/
def Range.layout (r : Range) : Layout :=
  ⟨⟨[], r.start.toChars, []⟩, ⟨[], r.stop.toChars, []⟩⟩

theorem Range.layout_writes (r : Range) : r.layout.Writes r := by
  have hgaps : IsGaps [] := by simp [IsGaps]
  exact ⟨⟨hgaps, r.start.numeral_toChars, hgaps⟩, ⟨hgaps, r.stop.numeral_toChars, hgaps⟩⟩

theorem Range.toList_toText (r : Range) : r.toText.toList = r.layout.chars := by
  simp [Range.toText, Number.toText, Range.layout, Layout.chars, Bound.chars]

/-- A printed range is read as the same range. -/
theorem readRange_toText (r : Range) : readRange r.toText = .ok r := by
  have hstart := r.start.numeral_toChars.isPrintable
  have hstop := r.stop.numeral_toChars.isPrintable
  have hprintable : ∀ c ∈ r.layout.chars, Number.IsPrintable c := by
    have hminus : Number.IsPrintable '-' := by simp [Number.IsPrintable]
    simpa [Layout.chars, Range.layout, Bound.chars, or_imp, forall_and, hminus]
      using ⟨hstart, hstop⟩
  apply readRange_of_writes r.layout_writes
  rw [r.toList_toText, Number.trimChars_of_isPrintable hprintable]

end Rulebook.Percent
