import Mathlib
import Rulebook.Number.Text

/-!
# Rulebook.Proofs.Number.Numeral

The notation of numbers, and the readers against it.

`Numeral cs x` says that the characters `cs` are one number, and which one: a decimal with an
optional sign and an optional exponent, `nan` without a sign, or `inf` or `infinity` with an
optional one.  It says nothing of how a text is read.  A reader that goes from left to right and
takes all it can stops where the number does, as long as no letter, digit or point follows (`Ends`),
because a number goes on with nothing but these, and with a sign only behind the mark of its
exponent:

* `scan_append_of_numeral`, `exists_numeral_of_scan` — the reader that leaves a rest;
* `parseChars?_of_numeral` — the reader of whole texts.
-/

namespace Rulebook

namespace Text

/-! ## Runs of characters -/

variable {p : Char → Bool} {front rest : List Char}

theorem takeWhile_append_run (hfront : ∀ c ∈ front, p c = true)
    (hrest : ∀ c ∈ rest.head?, p c = false) : (front ++ rest).takeWhile p = front := by
  have hstop : rest.takeWhile p = [] := by cases rest <;> simp_all
  rw [List.takeWhile_append_of_pos hfront, hstop, List.append_nil]

theorem dropWhile_append_run (hfront : ∀ c ∈ front, p c = true)
    (hrest : ∀ c ∈ rest.head?, p c = false) : (front ++ rest).dropWhile p = rest := by
  have hstop : rest.dropWhile p = rest := by cases rest <;> simp_all
  rw [List.dropWhile_append_of_pos hfront, hstop]

/-- A text has only one run at its front. -/
theorem append_run_inj {front' rest' : List Char} (hfront : ∀ c ∈ front, p c = true)
    (hrest : ∀ c ∈ rest.head?, p c = false) (hfront' : ∀ c ∈ front', p c = true)
    (hrest' : ∀ c ∈ rest'.head?, p c = false) (heq : front ++ rest = front' ++ rest') :
    front = front' ∧ rest = rest' := by
  have htake := congrArg (List.takeWhile p) heq
  have hdrop := congrArg (List.dropWhile p) heq
  rw [takeWhile_append_run hfront hrest, takeWhile_append_run hfront' hrest'] at htake
  rw [dropWhile_append_run hfront hrest, dropWhile_append_run hfront' hrest'] at hdrop
  exact ⟨htake, hdrop⟩

end Text

namespace Number

/-! ## Notation -/

/-- ASCII digits, any number of them. -/
def AreDigits (ds : List Char) : Prop :=
  ∀ d ∈ ds, d.isDigit = true

theorem AreDigits.append {ds es : List Char} (hds : AreDigits ds) (hes : AreDigits es) :
    AreDigits (ds ++ es) :=
  fun d hd => (List.mem_append.1 hd).elim (hds d) (hes d)

/-- A sign that may be left out, and whether it is a minus. -/
inductive IsSign : List Char → Bool → Prop where
  | absent : IsSign [] false
  | plus : IsSign ['+'] false
  | minus : IsSign ['-'] true

/-- Digits before and after a point, not none in all.  Behind digits the point may be left out. -/
inductive IsMantissa : List Char → List Char → List Char → Prop where
  | whole {ds : List Char} (hds : AreDigits ds) (hne : ds ≠ []) : IsMantissa ds ds []
  | pointed {ds fs : List Char} (hds : AreDigits ds) (hne : ds ≠ []) (hfs : AreDigits fs) :
      IsMantissa (ds ++ '.' :: fs) ds fs
  | fraction {fs : List Char} (hfs : AreDigits fs) (hne : fs ≠ []) : IsMantissa ('.' :: fs) [] fs

/-- An exponent that may be left out: its mark, an optional sign, and digits. -/
inductive IsExponent : List Char → Int → Prop where
  | absent : IsExponent [] 0
  | given {mark : Char} {sign ds : List Char} {negative : Bool} (hmark : mark = 'e' ∨ mark = 'E')
      (hsign : IsSign sign negative) (hds : AreDigits ds) (hne : ds ≠ []) :
      IsExponent (mark :: (sign ++ ds)) (if negative then -(ofDigits ds : Int) else ofDigits ds)

/-- The characters spell the word, which is in lower case, in any letter case. -/
def Spells (cs word : List Char) : Prop :=
  cs.map Char.toLower = word

/-- The characters are one number in its written form. -/
inductive Numeral : List Char → Number → Prop where
  | decimal {sign mantissa ds fs exponent : List Char} {negative : Bool} {e : Int}
      (hsign : IsSign sign negative) (hmantissa : IsMantissa mantissa ds fs)
      (hexponent : IsExponent exponent e) :
      Numeral (sign ++ (mantissa ++ exponent))
        (Decimal.toNumber negative ⟨ofDigits (ds ++ fs), e - fs.length⟩)
  | nan {word : List Char} (hword : Spells word ['n', 'a', 'n']) : Numeral word .nan
  | infinite {sign word : List Char} {negative : Bool} (hsign : IsSign sign negative)
      (hword : Spells word ['i', 'n', 'f'] ∨ Spells word ['i', 'n', 'f', 'i', 'n', 'i', 't', 'y']) :
      Numeral (sign ++ word) (.infinite negative)

/-- No letter, digit or point comes next, so that no number goes on here. -/
def Ends (rest : List Char) : Prop :=
  ∀ c ∈ rest.head?, c.isAlphanum = false ∧ c ≠ '.'

theorem ends_nil : Ends [] := by simp [Ends]

/-! ## First characters -/

/-- A mantissa can start with the character. -/
def IsLeading (c : Char) : Prop :=
  c.isDigit = true ∨ c = '.'

theorem IsLeading.not_sign {c : Char} (h : IsLeading c) : c ≠ '+' ∧ c ≠ '-' := by
  constructor
  all_goals
    rintro rfl
    revert h
    simp [IsLeading]

/-- A mantissa does not start with a letter. -/
theorem not_isLeading_of_isAlpha {c : Char} (h : c.isAlpha = true) : ¬IsLeading c := by
  rintro (hdigit | rfl)
  · simp only [Char.isAlpha, Char.isUpper, Char.isLower, Char.isDigit] at *
    grind
  · exact absurd h (by decide)

theorem not_sign_of_isAlpha {c : Char} (h : c.isAlpha = true) : c ≠ '+' ∧ c ≠ '-' := by
  constructor
  all_goals
    rintro rfl
    revert h
    decide

theorem IsMantissa.append_ne_nil {m ds fs rest : List Char} (h : IsMantissa m ds fs) :
    m ++ rest ≠ [] := by
  cases h <;> simp [*]

theorem IsMantissa.isLeading {m ds fs : List Char} (h : IsMantissa m ds fs) (rest : List Char) :
    ∀ c ∈ (m ++ rest).head?, IsLeading c := by
  cases h with
  | whole hds hne =>
      obtain ⟨d, ds, rfl⟩ := List.exists_cons_of_ne_nil hne
      have hd := hds d List.mem_cons_self
      simp [IsLeading, hd]
  | pointed hds hne hfs =>
      obtain ⟨d, ds, rfl⟩ := List.exists_cons_of_ne_nil hne
      have hd := hds d List.mem_cons_self
      simp [IsLeading, hd]
  | fraction hfs hne => simp [IsLeading]

/-- Behind a mantissa nothing comes that could belong to it. -/
theorem IsExponent.not_isLeading {e rest : List Char} {x : Int} (h : IsExponent e x)
    (hrest : Ends rest) : ∀ c ∈ (e ++ rest).head?, ¬IsLeading c := by
  cases h with
  | absent =>
      intro c hc
      have := hrest c hc
      simp_all [IsLeading, Char.isAlphanum]
  | given hmark => obtain rfl | rfl := hmark <;> simp [IsLeading]

/-- A word starts with the letter that it is said to start with, in some case. -/
theorem Spells.isAlpha_head {cs word : List Char} {letter : Char} (h : Spells cs (letter :: word))
    (hletter : letter.isAlpha = true) (rest : List Char) :
    ∀ c ∈ (cs ++ rest).head?, c.toLower = letter ∧ c.isAlpha = true := by
  cases cs with
  | nil => cases h
  | cons c cs =>
      have hc : c.toLower = letter := (List.cons.inj h).1
      have halpha : c.isAlpha = true := by rw [← Char.isAlpha_toLower_eq_isAlpha, hc, hletter]
      simp [hc, halpha]

/-! ## Parts of a number -/

theorem digits_append {ds rest : List Char} (hds : AreDigits ds)
    (hrest : ∀ c ∈ rest.head?, c.isDigit = false) : digits (ds ++ rest) = (ds, rest) := by
  rw [digits, Text.takeWhile_append_run hds hrest, Text.dropWhile_append_run hds hrest]

theorem digits_spec {cs ds rest : List Char} (h : digits cs = (ds, rest)) :
    AreDigits ds ∧ cs = ds ++ rest := by
  cases h
  exact ⟨fun d hd => List.mem_takeWhile_imp hd, List.takeWhile_append_dropWhile.symm⟩

theorem sign_append {s body : List Char} {negative : Bool} (hs : IsSign s negative)
    (hbody : ∀ c ∈ body.head?, c ≠ '+' ∧ c ≠ '-') : sign (s ++ body) = (negative, body) := by
  cases hs with
  | absent =>
      cases body with
      | nil => rfl
      | cons c rest => simp_all [sign]
  | plus => rfl
  | minus => rfl

theorem sign_spec {cs body : List Char} {negative : Bool} (h : sign cs = (negative, body)) :
    ∃ s, IsSign s negative ∧ cs = s ++ body := by
  unfold sign at h
  split at h
  · cases h
    exact ⟨_, .minus, rfl⟩
  · cases h
    exact ⟨_, .plus, rfl⟩
  · cases h
    exact ⟨_, .absent, rfl⟩

theorem mantissa_append {m ds fs rest : List Char} (h : IsMantissa m ds fs)
    (hrest : ∀ c ∈ rest.head?, ¬IsLeading c) : mantissa (m ++ rest) = some ((ds, fs), rest) := by
  have hdigit : ∀ c ∈ rest.head?, c.isDigit = false := by
    intro c hc
    have := hrest c hc
    simp_all [IsLeading]
  cases h with
  | whole hds hne =>
      rw [mantissa, digits_append hds hdigit]
      cases rest with
      | nil => simp [hne]
      | cons c rest =>
          have hc : c ≠ '.' := fun hpoint => hrest c rfl (.inr hpoint)
          simp [hne, hc]
  | pointed hds hne hfs =>
      have hpoint : ∀ c ∈ ('.' :: (fs ++ rest)).head?, c.isDigit = false := by simp
      rw [List.append_assoc, List.cons_append, mantissa, digits_append hds hpoint]
      simp [digits_append hfs hdigit, hne]
  | fraction hfs hne =>
      have hpoint : digits ('.' :: (fs ++ rest)) = ([], '.' :: (fs ++ rest)) := rfl
      rw [List.cons_append, mantissa, hpoint]
      simp [digits_append hfs hdigit, hne]

theorem exists_of_mantissa {cs ds fs rest : List Char}
    (h : mantissa cs = some ((ds, fs), rest)) : ∃ m, IsMantissa m ds fs ∧ cs = m ++ rest := by
  unfold mantissa at h
  split at h
  · next whole after hwhole =>
      obtain ⟨hds, rfl⟩ := digits_spec hwhole
      cases hfraction : digits after with
      | mk fraction rest' =>
          obtain ⟨hfs, rfl⟩ := digits_spec hfraction
          rw [hfraction] at h
          obtain ⟨hsome, heq⟩ := Option.ite_none_left_eq_some.1 h
          cases heq
          by_cases hne : ds = []
          · subst hne
            exact ⟨_, .fraction hfs (by simpa using hsome), rfl⟩
          · exact ⟨_, .pointed hds hne hfs, by simp⟩
  · next whole after _ hwhole =>
      obtain ⟨hds, rfl⟩ := digits_spec hwhole
      obtain ⟨hsome, heq⟩ := Option.ite_none_left_eq_some.1 h
      cases heq
      exact ⟨_, .whole hds (by simpa using hsome), rfl⟩

theorem mantissa_eq_none {cs : List Char} (h : ∀ c ∈ cs.head?, ¬IsLeading c) :
    mantissa cs = none := by
  cases hread : mantissa cs with
  | none => rfl
  | some result =>
      obtain ⟨⟨ds, fs⟩, rest⟩ := result
      obtain ⟨m, hm, rfl⟩ := exists_of_mantissa hread
      obtain ⟨c, after, hc⟩ := List.exists_cons_of_ne_nil hm.append_ne_nil
      have hhead : c ∈ (m ++ rest).head? := by rw [hc]; rfl
      exact absurd (hm.isLeading rest c hhead) (h c hhead)

theorem exponent_append {e rest : List Char} {x : Int} (h : IsExponent e x) (hrest : Ends rest) :
    exponent (e ++ rest) = some (x, rest) := by
  cases h with
  | absent =>
      cases rest with
      | nil => rfl
      | cons c rest =>
          have hc := (hrest c rfl).1
          have hmark : c ≠ 'e' ∧ c ≠ 'E' := by
            constructor <;> (rintro rfl; revert hc; decide)
          simp [exponent, hmark]
  | @given mark s ds negative hmark hs hds hne =>
      have hbody := (IsMantissa.whole hds hne).isLeading rest
      have hdigit : ∀ c ∈ rest.head?, c.isDigit = false := by
        intro c hc
        have := (hrest c hc).1
        simp_all [Char.isAlphanum]
      have hempty : ds.isEmpty = false := by simpa using hne
      rw [List.cons_append, List.append_assoc, exponent, if_pos (by simpa using hmark),
        sign_append hs fun c hc => (hbody c hc).not_sign]
      simp [digits_append hds hdigit, hempty]

theorem exists_of_exponent {cs rest : List Char} {x : Int} (h : exponent cs = some (x, rest)) :
    ∃ e, IsExponent e x ∧ cs = e ++ rest := by
  cases cs with
  | nil =>
      cases h
      exact ⟨[], .absent, rfl⟩
  | cons c after =>
      rw [exponent] at h
      split at h
      · next hmark =>
          cases hsign : sign after with
          | mk negative body =>
              obtain ⟨s, hs, rfl⟩ := sign_spec hsign
              cases hdigits : digits body with
              | mk ds rest' =>
                  obtain ⟨hds, rfl⟩ := digits_spec hdigits
                  simp only [hsign, hdigits] at h
                  obtain ⟨hsome, heq⟩ := Option.ite_none_left_eq_some.1 h
                  cases heq
                  exact ⟨_, .given (by simpa using hmark) hs hds (by simpa using hsome), by simp⟩
      · cases h
        exact ⟨[], .absent, rfl⟩

theorem unsigned_append {m ds fs e rest : List Char} {x : Int} (hm : IsMantissa m ds fs)
    (he : IsExponent e x) (hrest : Ends rest) :
    unsigned (m ++ (e ++ rest)) = some (⟨ofDigits (ds ++ fs), x - fs.length⟩, rest) := by
  simp [unsigned, mantissa_append hm (he.not_isLeading hrest), exponent_append he hrest]

theorem exists_of_unsigned {cs rest : List Char} {d : Decimal} (h : unsigned cs = some (d, rest)) :
    ∃ m ds fs e x, IsMantissa m ds fs ∧ IsExponent e x ∧ cs = m ++ (e ++ rest) ∧
      d = ⟨ofDigits (ds ++ fs), x - fs.length⟩ := by
  obtain ⟨⟨⟨ds, fs⟩, after⟩, hmantissa, hafter⟩ := Option.bind_eq_some_iff.1 h
  obtain ⟨⟨x, rest'⟩, hexponent, hresult⟩ := Option.bind_eq_some_iff.1 hafter
  obtain ⟨m, hm, rfl⟩ := exists_of_mantissa hmantissa
  obtain ⟨e, he, rfl⟩ := exists_of_exponent hexponent
  cases hresult
  exact ⟨m, ds, fs, e, x, hm, he, rfl, rfl⟩

/-! ## Words -/

theorem word?_append {word cs rest : List Char} (h : Spells cs word) :
    word? word (cs ++ rest) = some rest := by
  have hlength : word.length = cs.length := by rw [← h, List.length_map]
  rw [word?, hlength, List.take_left, List.drop_left, if_pos (beq_iff_eq.2 h)]

theorem exists_of_word? {word cs rest : List Char} (h : word? word cs = some rest) :
    ∃ front, Spells front word ∧ cs = front ++ rest := by
  obtain ⟨hword, heq⟩ := Option.ite_none_right_eq_some.1 h
  cases heq
  exact ⟨_, beq_iff_eq.1 hword, (List.take_append_drop _ _).symm⟩

/-- A word is not read where its first letter does not stand. -/
theorem word?_eq_none {letter : Char} {word cs : List Char}
    (h : ∀ c ∈ cs.head?, c.toLower ≠ letter) : word? (letter :: word) cs = none := by
  cases hread : word? (letter :: word) cs with
  | none => rfl
  | some rest =>
      obtain ⟨front, hfront, rfl⟩ := exists_of_word? hread
      cases front with
      | nil => cases hfront
      | cons c front => exact absurd (List.cons.inj hfront).1 (h c rfl)

/-- What starts as a mantissa or with a sign spells no word. -/
theorem not_spells {cs word : List Char} {letter : Char} (hletter : letter.isAlpha = true)
    (h : ∀ c ∈ cs.head?, ¬c.isAlpha) : ¬Spells cs (letter :: word) := by
  intro hword
  cases cs with
  | nil => cases hword
  | cons c cs => exact h c rfl (hword.isAlpha_head hletter [] c rfl).2

/-! ## Reading a number -/

/-- The longer of the two words for infinity does not go on behind the shorter one. -/
theorem word?_infinity_append {cs rest : List Char} (h : Spells cs ['i', 'n', 'f'])
    (hrest : Ends rest) :
    word? ['i', 'n', 'f', 'i', 'n', 'i', 't', 'y'] (cs ++ rest) = none := by
  cases hread : word? ['i', 'n', 'f', 'i', 'n', 'i', 't', 'y'] (cs ++ rest) with
  | none => rfl
  | some after =>
      obtain ⟨front, hfront, heq⟩ := exists_of_word? hread
      have hlower := congrArg (List.map Char.toLower) heq
      rw [List.map_append, List.map_append, h, hfront] at hlower
      cases rest with
      | nil => simp at hlower
      | cons c rest =>
          have hc : c.toLower = 'i' := by simp_all
          have halpha : c.isAlpha = true := by rw [← Char.isAlpha_toLower_eq_isAlpha, hc]; rfl
          have hend := (hrest c rfl).1
          simp [Char.isAlphanum, halpha] at hend

/-- What stands before a rest that ends a number is read as a whole. -/
theorem scan_append_of_numeral {cs rest : List Char} {x : Number} (h : Numeral cs x)
    (hrest : Ends rest) : scan (cs ++ rest) = some (x, rest) := by
  cases h with
  | @decimal s m ds fs e negative y hs hm he =>
      have hbody := hm.isLeading (e ++ rest)
      rw [List.append_assoc, List.append_assoc, scan,
        sign_append hs fun c hc => (hbody c hc).not_sign]
      simp [mantissa_append hm (he.not_isLeading hrest), unsigned_append hm he hrest]
  | nan hword =>
      have hhead := hword.isAlpha_head (by decide) rest
      have hsign : sign (cs ++ rest) = (false, cs ++ rest) :=
        sign_append .absent fun c hc => not_sign_of_isAlpha (hhead c hc).2
      have hmantissa : mantissa (cs ++ rest) = none :=
        mantissa_eq_none fun c hc => not_isLeading_of_isAlpha (hhead c hc).2
      simp [scan, hsign, hmantissa, word?_append hword]
  | @infinite s word negative hs hword =>
      have hhead : ∀ c ∈ (word ++ rest).head?, c.toLower = 'i' ∧ c.isAlpha = true :=
        hword.elim (·.isAlpha_head (by decide) rest) (·.isAlpha_head (by decide) rest)
      have hsign : sign (s ++ (word ++ rest)) = (negative, word ++ rest) :=
        sign_append hs fun c hc => not_sign_of_isAlpha (hhead c hc).2
      have hmantissa : mantissa (word ++ rest) = none :=
        mantissa_eq_none fun c hc => not_isLeading_of_isAlpha (hhead c hc).2
      have hnan : word? ['n', 'a', 'n'] (s ++ (word ++ rest)) = none := by
        apply word?_eq_none
        cases hs with
        | absent =>
            intro c hc
            rw [(hhead c hc).1]
            decide
        | plus => simp
        | minus => simp
      rw [List.append_assoc]
      cases hword with
      | inl hshort =>
          simp [scan, hsign, hmantissa, hnan, word?_infinity_append hshort hrest,
            word?_append hshort]
      | inr hlong => simp [scan, hsign, hmantissa, hnan, word?_append hlong]

/-- What is read is a number in its written form, at the front of the text. -/
theorem exists_numeral_of_scan {cs rest : List Char} {x : Number} (h : scan cs = some (x, rest)) :
    ∃ front, Numeral front x ∧ cs = front ++ rest := by
  unfold scan at h
  cases hsign : sign cs with
  | mk negative body =>
  obtain ⟨s, hs, rfl⟩ := sign_spec hsign
  simp only [hsign] at h
  split at h
  · obtain ⟨⟨d, rest'⟩, hd, heq⟩ := Option.map_eq_some_iff.1 h
    cases heq
    obtain ⟨m, ds, fs, e, y, hm, he, rfl, rfl⟩ := exists_of_unsigned hd
    exact ⟨_, .decimal hs hm he, by simp⟩
  · split at h
    · next hword =>
        cases h
        obtain ⟨front, hfront, heq⟩ := exists_of_word? hword
        exact ⟨front, .nan hfront, heq⟩
    · split at h
      · next hword =>
          cases h
          obtain ⟨front, hfront, rfl⟩ := exists_of_word? hword
          exact ⟨_, .infinite hs (.inr hfront), by simp⟩
      · obtain ⟨rest', hword, heq⟩ := Option.map_eq_some_iff.1 h
        cases heq
        obtain ⟨front, hfront, rfl⟩ := exists_of_word? hword
        exact ⟨_, .infinite hs (.inl hfront), by simp⟩

/-- A number in its written form is read by the reader of whole texts as the same number. -/
theorem parseChars?_of_numeral {cs : List Char} {x : Number} (h : Numeral cs x) :
    parseChars? cs = some x := by
  cases h with
  | @decimal s m ds fs e negative y hs hm he =>
      have hbody := hm.isLeading e
      have hread := unsigned_append hm he ends_nil
      rw [List.append_nil] at hread
      have hword : ∀ c ∈ (m ++ e).head?, ¬c.isAlpha :=
        fun c hc halpha => not_isLeading_of_isAlpha halpha (hbody c hc)
      have hnan : ¬Spells (m ++ e) ['n', 'a', 'n'] := not_spells (by decide) hword
      have hinf : ¬Spells (m ++ e) ['i', 'n', 'f'] := not_spells (by decide) hword
      have hinfinity : ¬Spells (m ++ e) ['i', 'n', 'f', 'i', 'n', 'i', 't', 'y'] :=
        not_spells (by decide) hword
      unfold Spells at hnan hinf hinfinity
      rw [parseChars?, sign_append hs fun c hc => (hbody c hc).not_sign]
      simp only [hnan, hinf, hinfinity, hread, or_self, if_false]
  | nan hword =>
      have hhead := hword.isAlpha_head (by decide) []
      have hsign : sign cs = (false, cs) :=
        sign_append .absent fun c hc => not_sign_of_isAlpha (hhead c (by simpa using hc)).2
      unfold Spells at hword
      simp [parseChars?, hsign, hword]
  | @infinite s word negative hs hword =>
      have hhead : ∀ c ∈ (word ++ []).head?, c.toLower = 'i' ∧ c.isAlpha = true :=
        hword.elim (·.isAlpha_head (by decide) []) (·.isAlpha_head (by decide) [])
      have hsign : sign (s ++ word) = (negative, word) :=
        sign_append hs fun c hc => not_sign_of_isAlpha (hhead c (by simpa using hc)).2
      unfold Spells at hword
      have hnan : word.map Char.toLower ≠ ['n', 'a', 'n'] := by
        rintro hnan
        simp [hnan] at hword
      simp [parseChars?, hsign, hword, hnan]

/-! ## Characters of a number -/

theorem Numeral.ne_nil {cs : List Char} {x : Number} (h : Numeral cs x) : cs ≠ [] := by
  rintro rfl
  have hread := scan_append_of_numeral h ends_nil
  have hnone : scan [] = none := rfl
  simp [hnone] at hread

/-- A character of ASCII that shows: no white space and no control character. -/
def IsPrintable (c : Char) : Prop :=
  33 ≤ c.toNat ∧ c.toNat ≤ 126

theorem isPrintable_of_isAlphanum {c : Char} (h : c.isAlphanum = true) : IsPrintable c := by
  simp [Char.isAlphanum, Char.isAlpha, Char.isUpper, Char.isLower, Char.isDigit,
    UInt32.le_iff_toNat_le] at h
  unfold IsPrintable
  omega

theorem IsPrintable.isBlankChar {c : Char} (h : IsPrintable c) : Text.isBlankChar c = false := by
  unfold IsPrintable at h
  unfold Text.isBlankChar
  generalize c.toNat = n at h
  simp
  omega

/-- A text of such characters has no white space around it. -/
theorem trimChars_of_isPrintable {cs : List Char} (h : ∀ c ∈ cs, IsPrintable c) :
    Text.trimChars cs = cs :=
  Text.trimChars_eq_self (fun c hc => (h c (List.mem_of_mem_head? hc)).isBlankChar)
    fun c hc => (h c (List.mem_of_mem_getLast? hc)).isBlankChar

theorem AreDigits.isPrintable {ds : List Char} (h : AreDigits ds) : ∀ c ∈ ds, IsPrintable c :=
  fun c hc => isPrintable_of_isAlphanum (by simp [Char.isAlphanum, h c hc])

theorem IsSign.isPrintable {s : List Char} {negative : Bool} (h : IsSign s negative) :
    ∀ c ∈ s, IsPrintable c := by
  cases h <;> simp [IsPrintable]

theorem IsMantissa.isPrintable {m ds fs : List Char} (h : IsMantissa m ds fs) :
    ∀ c ∈ m, IsPrintable c := by
  have hpoint : IsPrintable '.' := by simp [IsPrintable]
  cases h with
  | whole hds => exact hds.isPrintable
  | pointed hds _ hfs => simpa [or_imp, forall_and, hpoint] using ⟨hds.isPrintable, hfs.isPrintable⟩
  | fraction hfs => simpa [hpoint] using hfs.isPrintable

theorem IsExponent.isPrintable {e : List Char} {x : Int} (h : IsExponent e x) :
    ∀ c ∈ e, IsPrintable c := by
  cases h with
  | absent => simp
  | @given mark s ds negative hmark hs hds =>
      have hprintable : IsPrintable mark := by
        obtain rfl | rfl := hmark <;> simp [IsPrintable]
      simpa [or_imp, forall_and, hprintable] using ⟨hs.isPrintable, hds.isPrintable⟩

theorem Spells.isPrintable {cs word : List Char} (h : Spells cs word)
    (hword : ∀ letter ∈ word, letter.isAlpha = true) : ∀ c ∈ cs, IsPrintable c := by
  intro c hc
  have hletter : c.toLower ∈ word := h ▸ List.mem_map_of_mem hc
  have halpha := hword c.toLower hletter
  rw [Char.isAlpha_toLower_eq_isAlpha] at halpha
  exact isPrintable_of_isAlphanum (by simp [Char.isAlphanum, halpha])

/-- No character of a number is white space, inside or at its ends. -/
theorem Numeral.isPrintable {cs : List Char} {x : Number} (h : Numeral cs x) :
    ∀ c ∈ cs, IsPrintable c := by
  cases h with
  | decimal hs hm he =>
      simpa [or_imp, forall_and] using ⟨hs.isPrintable, hm.isPrintable, he.isPrintable⟩
  | nan hword => exact hword.isPrintable (by simp)
  | infinite hs hword =>
      have hletters := hword.elim (·.isPrintable (by simp)) (·.isPrintable (by simp))
      simpa [or_imp, forall_and] using ⟨hs.isPrintable, hletters⟩

end Number

end Rulebook
