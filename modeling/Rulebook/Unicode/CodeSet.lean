/-!
# Rulebook.Unicode.CodeSet

Sets of code points.

A set is kept as its bounds: the code points, in ascending order, at which membership changes.  The
first bound is the first member, the second the first code point after it that is no member, and so
on.  Two sets with the same members have the same bounds, and every operation on sets is one sweep
over the bounds of both, `combine`, of which `contains_combine` is the law.
-/

namespace Rulebook.Unicode

/-- A set of code points, given by the places where membership changes. -/
structure CodeSet where
  bounds : List Nat
  ascending : bounds.Pairwise (· < ·)
  deriving DecidableEq

namespace CodeSet

/-! ## Membership -/

/-- Whether `n` is inside, if `inside` says so of the code points before the first bound. -/
def isInside (inside : Bool) : List Nat → Nat → Bool
  | [], _ => inside
  | bound :: rest, n => if n < bound then inside else isInside (!inside) rest n

/-- The code point is in the set. -/
def contains (s : CodeSet) (n : Nat) : Bool :=
  isInside false s.bounds n

theorem isInside_of_lt {inside : Bool} {xs : List Nat} {n : Nat} (h : ∀ x ∈ xs, n < x) :
    isInside inside xs n = inside := by
  cases xs with
  | nil => rfl
  | cons x xs => simp [isInside, h x]

/-! ## Sweeps -/

/-- The bounds of a combination of two sets, given the bounds of both that are still to come and
whether the code points before them are in the one and in the other. -/
def sweep (f : Bool → Bool → Bool) (p q : Bool) : List Nat → List Nat → List Nat
  | [], ys => if f p true != f p false then ys else []
  | xs, [] => if f true q != f false q then xs else []
  | x :: xs, y :: ys =>
    if x < y then
      let rest := sweep f (!p) q xs (y :: ys)
      if f p q != f (!p) q then x :: rest else rest
    else if y < x then
      let rest := sweep f p (!q) (x :: xs) ys
      if f p q != f p (!q) then y :: rest else rest
    else
      let rest := sweep f (!p) (!q) xs ys
      if f p q != f (!p) (!q) then x :: rest else rest
termination_by xs ys => xs.length + ys.length

theorem mem_of_mem_sweep {f : Bool → Bool → Bool} {p q : Bool} {xs ys : List Nat} {z : Nat}
    (h : z ∈ sweep f p q xs ys) : z ∈ xs ∨ z ∈ ys := by
  fun_induction sweep f p q xs ys <;> grind

theorem pairwise_sweep {f : Bool → Bool → Bool} {p q : Bool} {xs ys : List Nat}
    (hx : xs.Pairwise (· < ·)) (hy : ys.Pairwise (· < ·)) :
    (sweep f p q xs ys).Pairwise (· < ·) := by
  fun_induction sweep f p q xs ys <;>
    grind [List.pairwise_cons, → mem_of_mem_sweep]

/-- A change of sides can be made before or after the question. -/
theorem isInside_map {g : Bool → Bool} (h : g true ≠ g false) (q : Bool) (ys : List Nat)
    (n : Nat) : isInside (g q) ys n = g (isInside q ys n) := by
  have hg : ∀ b, (!g b) = g (!b) := by
    intro b
    cases b <;> cases ht : g true <;> cases hf : g false <;> simp_all
  induction ys generalizing q with
  | nil => rfl
  | cons y ys ih =>
    simp only [isInside, hg, ih]
    split <;> rfl

theorem isInside_sweep (f : Bool → Bool → Bool) (p q : Bool) {xs ys : List Nat}
    (hx : xs.Pairwise (· < ·)) (hy : ys.Pairwise (· < ·)) (n : Nat) :
    isInside (f p q) (sweep f p q xs ys) n = f (isInside p xs n) (isInside q ys n) := by
  have not_eq : ∀ {a b : Bool}, (a != b) = true → (!a) = b := by
    intro a b
    cases a <;> cases b <;> simp
  have eq_of_not : ∀ {a b : Bool}, ¬(a != b) = true → a = b := by
    intro a b
    cases a <;> cases b <;> simp
  fun_induction sweep f p q xs ys with
  | case1 p q ys h =>
    exact isInside_map (by simpa using h) q ys n
  | case2 p q ys h =>
    have : ∀ b, f p b = f p q := by
      intro b
      cases b <;> cases q <;> simp_all
    simp [isInside, this]
  | case3 p q xs hxs h =>
    exact isInside_map (g := (f · q)) (by simpa using h) p xs n
  | case4 p q xs hxs h =>
    have : ∀ b, f b q = f p q := by
      intro b
      cases b <;> cases p <;> simp_all
    simp [isInside, this]
  | case5 p q x xs y ys hlt rest hne ih =>
    have ih := ih hx.of_cons hy
    by_cases hn : n < x
    · simp [isInside, hn, show n < y by omega]
    · simpa [isInside, hn, not_eq hne] using ih
  | case6 p q x xs y ys hlt rest heq ih =>
    have ih := ih hx.of_cons hy
    rw [eq_of_not heq, ih]
    by_cases hn : n < x
    · rw [isInside_of_lt (fun z hz => Nat.lt_trans hn (List.rel_of_pairwise_cons hx hz))]
      simp [isInside, hn, show n < y by omega, eq_of_not heq]
    · simp [isInside, hn]
  | case7 p q x xs y ys hge hlt rest hne ih =>
    have ih := ih hx hy.of_cons
    by_cases hn : n < y
    · simp [isInside, hn, show n < x by omega]
    · simpa [isInside, hn, not_eq hne] using ih
  | case8 p q x xs y ys hge hlt rest heq ih =>
    have ih := ih hx hy.of_cons
    rw [eq_of_not heq, ih]
    by_cases hn : n < y
    · rw [isInside_of_lt (fun z hz => Nat.lt_trans hn (List.rel_of_pairwise_cons hy hz))]
      simp [isInside, hn, show n < x by omega, eq_of_not heq]
    · simp [isInside, hn]
  | case9 p q x xs y ys hge hge' rest hne ih =>
    have ih := ih hx.of_cons hy.of_cons
    obtain rfl : x = y := by omega
    by_cases hn : n < x
    · simp [isInside, hn]
    · simpa [isInside, hn, not_eq hne] using ih
  | case10 p q x xs y ys hge hge' rest heq ih =>
    have ih := ih hx.of_cons hy.of_cons
    obtain rfl : x = y := by omega
    rw [eq_of_not heq, ih]
    by_cases hn : n < x
    · rw [isInside_of_lt (fun z hz => Nat.lt_trans hn (List.rel_of_pairwise_cons hx hz)),
        isInside_of_lt (fun z hz => Nat.lt_trans hn (List.rel_of_pairwise_cons hy hz))]
      simp [isInside, hn, eq_of_not heq]
    · simp [isInside, hn]

/-! ## Operations -/

/-- The code points of which `f` holds, given whether they are in `s` and in `t`. -/
def combine (f : Bool → Bool → Bool) (s t : CodeSet) : CodeSet :=
  ⟨sweep f false false s.bounds t.bounds, pairwise_sweep s.ascending t.ascending⟩

theorem contains_combine {f : Bool → Bool → Bool} (h : f false false = false) (s t : CodeSet)
    (n : Nat) : (combine f s t).contains n = f (s.contains n) (t.contains n) := by
  have := isInside_sweep f false false s.ascending t.ascending n
  rwa [h] at this

/-- No code point. -/
def empty : CodeSet :=
  ⟨[], .nil⟩

instance : EmptyCollection CodeSet := ⟨empty⟩

theorem pairwise_pair {m n : Nat} (h : m ≤ n) : [m, n + 1].Pairwise (· < ·) := by
  simp
  omega

/-- The code points from `first` to `last`. -/
def range (first last : Nat) : CodeSet :=
  if h : first ≤ last then ⟨[first, last + 1], pairwise_pair h⟩ else ∅

/-- The code points of either set. -/
def union (s t : CodeSet) : CodeSet :=
  combine or s t

/-- The code points of both sets. -/
def inter (s t : CodeSet) : CodeSet :=
  combine and s t

/-- The code points of the first set that are not in the second. -/
def diff (s t : CodeSet) : CodeSet :=
  combine (fun p q => p && !q) s t

/-- The code points of just one of two sets. -/
def symmDiff (s t : CodeSet) : CodeSet :=
  combine xor s t

instance : Union CodeSet := ⟨union⟩
instance : Inter CodeSet := ⟨inter⟩
instance : SDiff CodeSet := ⟨diff⟩

@[simp] theorem contains_empty (n : Nat) : (∅ : CodeSet).contains n = false := rfl

theorem contains_range (first last n : Nat) :
    (range first last).contains n = (decide (first ≤ n) && decide (n ≤ last)) := by
  unfold range
  split
  · simp only [contains, isInside, Bool.not_false]
    grind
  · simp only [contains_empty]
    grind

@[simp] theorem contains_union (s t : CodeSet) (n : Nat) :
    (s ∪ t).contains n = (s.contains n || t.contains n) :=
  contains_combine rfl s t n

@[simp] theorem contains_inter (s t : CodeSet) (n : Nat) :
    (s ∩ t).contains n = (s.contains n && t.contains n) :=
  contains_combine rfl s t n

@[simp] theorem contains_diff (s t : CodeSet) (n : Nat) :
    (s \ t).contains n = (s.contains n && !t.contains n) :=
  contains_combine rfl s t n

@[simp] theorem contains_symmDiff (s t : CodeSet) (n : Nat) :
    (s.symmDiff t).contains n = (s.contains n ^^ t.contains n) :=
  contains_combine rfl s t n

/-- The code points of all the sets. -/
def unions (sets : List CodeSet) : CodeSet :=
  sets.foldr union ∅

/-- The code points of the set, each moved up by `n`. -/
def moveUp (s : CodeSet) (n : Nat) : CodeSet :=
  ⟨s.bounds.map (· + n), s.ascending.map _ fun _ _ h => Nat.add_lt_add_right h n⟩

/-- All characters: the code points but the surrogates, which stand for no character. -/
def characters : CodeSet :=
  range 0 0xD7FF ∪ range 0xE000 0x10FFFF

/-- The characters that are not in the set. -/
def compl (s : CodeSet) : CodeSet :=
  characters \ s

theorem contains_unions (sets : List CodeSet) (n : Nat) :
    (unions sets).contains n = sets.any (·.contains n) := by
  induction sets with
  | nil => rfl
  | cons s rest ih =>
    rw [List.any_cons, ← ih]
    exact contains_union s (unions rest) n

theorem contains_compl (s : CodeSet) (n : Nat) :
    s.compl.contains n = (characters.contains n && !s.contains n) :=
  contains_diff characters s n

/-! ## Ranges -/

/-- The longest runs of members, each as its first and its last one. -/
def ranges (s : CodeSet) : List (Nat × Nat) :=
  pair s.bounds
where
  pair : List Nat → List (Nat × Nat)
    | first :: next :: rest => (first, next - 1) :: pair rest
    | [first] => [(first, 0x10FFFF)]
    | [] => []

/-- The bounds of a list of ranges in ascending order with a gap between any two, none of which
starts before `low`; a range that breaks the order is left out. -/
def boundsFrom (low : Nat) : List (Nat × Nat) → List Nat
  | [] => []
  | (first, last) :: rest =>
    if low ≤ first ∧ first ≤ last then first :: (last + 1) :: boundsFrom (last + 2) rest
    else boundsFrom low rest

theorem le_of_mem_boundsFrom {low n : Nat} {rs : List (Nat × Nat)} (h : n ∈ boundsFrom low rs) :
    low ≤ n := by
  fun_induction boundsFrom low rs with
  | case1 => simp at h
  | case2 low first last rest hr ih =>
    rcases List.mem_cons.1 h with rfl | h
    · omega
    · rcases List.mem_cons.1 h with rfl | h
      · omega
      · have := ih h
        omega
  | case3 low first last rest hr ih => exact ih h

theorem pairwise_boundsFrom (low : Nat) (rs : List (Nat × Nat)) :
    (boundsFrom low rs).Pairwise (· < ·) := by
  fun_induction boundsFrom low rs with
  | case1 => exact .nil
  | case2 low first last rest hr ih =>
    have bound : ∀ n ∈ boundsFrom (last + 2) rest, last + 2 ≤ n :=
      fun n hn => le_of_mem_boundsFrom hn
    refine .cons (fun n hn => ?_) (.cons (fun n hn => ?_) ih)
    · rcases List.mem_cons.1 hn with rfl | hn
      · omega
      · have := bound n hn
        omega
    · have := bound n hn
      omega
  | case3 low first last rest hr ih => exact ih

/-- The set of a list of ranges in ascending order with a gap between any two. -/
def ofRanges (rs : List (Nat × Nat)) : CodeSet :=
  ⟨boundsFrom 0 rs, pairwise_boundsFrom 0 rs⟩

/-- The code points of the set, each moved down by `n`; a range that starts before `n` drops
out. -/
def moveDown (s : CodeSet) (n : Nat) : CodeSet :=
  ofRanges ((s.ranges.filter fun r => n ≤ r.1).map fun r => (r.1 - n, r.2 - n))

/-- The number that hexadecimal digits stand for. -/
def ofHex (s : String) : Nat :=
  s.foldl (fun n d => n * 16 + (if d.isDigit then d.toNat - 48 else d.toNat - 55)) 0

/-- The ranges of one item of a table: a code point `A`, a range `A-B`, or `A-B/C`, every `C`-th
code point from `A` to `B`. -/
def itemRanges (item : String) : List (Nat × Nat) :=
  match item.splitOn "-" with
  | [first] => [(ofHex first, ofHex first)]
  | [first, last] =>
    match last.splitOn "/" with
    | [last] => [(ofHex first, ofHex last)]
    | [last, step] =>
      let first := ofHex first
      let step := ofHex step
      (List.range ((ofHex last - first) / step + 1)).map fun i =>
        (first + i * step, first + i * step)
    | _ => []
  | _ => []

/-- The set that a table lists: items in hexadecimal and in ascending order, with blanks or ends of
lines between them. -/
def ofTable (table : String) : CodeSet :=
  let items := ((table.splitOn "\n").flatMap (·.splitOn " ")).filter (! ·.isEmpty)
  ofRanges (items.flatMap itemRanges)

end CodeSet

end Rulebook.Unicode
