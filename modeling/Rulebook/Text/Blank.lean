/-!
# Rulebook.Text.Blank

White space around names and numbers.

A name, an operation or an identifier that holds nothing but white space counts as not given, and
white space around a name is not part of it.  White space is the Unicode property `White_Space`,
so the no-break space and the ideographic space are trimmed, while the zero-width space is kept.

* `trim` removes white space at both ends;
* `isBlank` says that nothing would be left;
* `trim_trim` says that trimming once is enough.
-/

namespace Rulebook.Text

/-- The characters with the Unicode property `White_Space`. -/
def isBlankChar (c : Char) : Bool :=
  let n := c.toNat
  (9 ≤ n && n ≤ 13) || n == 0x20 || n == 0x85 || n == 0xA0 || n == 0x1680 ||
    (0x2000 ≤ n && n ≤ 0x200A) || n == 0x2028 || n == 0x2029 || n == 0x202F || n == 0x205F ||
    n == 0x3000

/-- A list of characters without the white space at its ends. -/
def trimChars (cs : List Char) : List Char :=
  ((cs.dropWhile isBlankChar).reverse.dropWhile isBlankChar).reverse

/-- A text without the white space at its ends. -/
def trim (s : String) : String :=
  String.ofList (trimChars s.toList)

/-- Nothing but white space. -/
def isBlank (s : String) : Bool :=
  s.toList.all isBlankChar

/-- Nothing in front of a list without leading white space is white space. -/
theorem head?_dropWhile_isBlankChar (cs : List Char) :
    ∀ c ∈ (cs.dropWhile isBlankChar).head?, isBlankChar c = false := by
  induction cs with
  | nil => simp
  | cons d rest ih =>
    by_cases h : isBlankChar d
    · simpa [h] using ih
    · simp [h]

theorem dropWhile_isBlankChar_eq_self {cs : List Char}
    (h : ∀ c ∈ cs.head?, isBlankChar c = false) : cs.dropWhile isBlankChar = cs := by
  cases cs with
  | nil => rfl
  | cons c rest => simp [h c rfl]

/-- The last character of a trimmed list is no white space. -/
theorem getLast?_trimChars (cs : List Char) :
    ∀ c ∈ (trimChars cs).getLast?, isBlankChar c = false := by
  rw [trimChars, List.getLast?_reverse]
  exact head?_dropWhile_isBlankChar _

/-- The first character of a trimmed list is no white space. -/
theorem head?_trimChars (cs : List Char) :
    ∀ c ∈ (trimChars cs).head?, isBlankChar c = false := by
  have hstart := head?_dropWhile_isBlankChar cs
  rw [trimChars]
  generalize cs.dropWhile isBlankChar = ds at hstart
  intro c hc
  have hmem := List.mem_of_mem_head? hc
  cases ds with
  | nil => simp at hmem
  | cons d rest =>
    have hd := hstart d rfl
    have hkeep : ∃ es, (d :: rest).reverse.dropWhile isBlankChar = es ++ [d] := by
      rw [List.reverse_cons, List.dropWhile_append]
      split
      · exact ⟨[], by simp [hd]⟩
      · exact ⟨_, rfl⟩
    obtain ⟨es, hes⟩ := hkeep
    rw [hes, List.reverse_append] at hc
    have : d = c := by simpa using hc
    exact this ▸ hd

/-- What has no white space at its ends is left as it is. -/
theorem trimChars_eq_self {cs : List Char} (hstart : ∀ c ∈ cs.head?, isBlankChar c = false)
    (hend : ∀ c ∈ cs.getLast?, isBlankChar c = false) : trimChars cs = cs := by
  have hrev : cs.reverse.dropWhile isBlankChar = cs.reverse :=
    dropWhile_isBlankChar_eq_self (by
      rw [List.head?_reverse]
      exact hend)
  rw [trimChars, dropWhile_isBlankChar_eq_self hstart, hrev, List.reverse_reverse]

/-- What was trimmed has nothing left to trim. -/
theorem trimChars_trimChars (cs : List Char) : trimChars (trimChars cs) = trimChars cs :=
  trimChars_eq_self (head?_trimChars cs) (getLast?_trimChars cs)

theorem trim_trim (s : String) : trim (trim s) = trim s := by
  rw [trim, trim, String.toList_ofList, trimChars_trimChars]

/-- The first of two texts that is not blank; the second where neither is. -/
def firstNonBlank (s t : String) : String :=
  if isBlank s then t else s

end Rulebook.Text
