import Rulebook.Pattern.Syntax
import Rulebook.Text.Blank
import Rulebook.Text.LetterTable

/-!
# Rulebook.Pattern.Reader

Reading a regular expression.

`parse?` gives the tree of a pattern, or nothing if it breaks the grammar: Perl-like syntax without
look-around and back-references, with Unicode escapes, nested classes and set operations between
brackets.  Where the flag `x` is on, white space and comments are skipped between the parts of a
pattern, also inside many of them; every function that can meet them takes the state of the flag.
-/

namespace Rulebook.Pattern

open Unicode (CodeSet)

/-! ## Blanks and comments -/

/-- The text after white space and comments; the flag says whether it starts inside a comment. -/
def skipComments : Bool → List Char → List Char
  | _, [] => []
  | inComment, c :: rest =>
    if inComment then skipComments (c != '\n') rest
    else if Text.isBlankChar c then skipComments false rest
    else if c == '#' then skipComments true rest
    else c :: rest

/-- The text after white space and comments, if they are to be skipped. -/
def skip (blanks : Bool) (cs : List Char) : List Char :=
  if blanks then skipComments false cs else cs

theorem length_skipComments_le (inComment : Bool) (cs : List Char) :
    (skipComments inComment cs).length ≤ cs.length := by
  fun_induction skipComments inComment cs <;> simp only [List.length_cons, List.length_nil] <;>
    omega

theorem length_skip_le (blanks : Bool) (cs : List Char) :
    (skip blanks cs).length ≤ cs.length := by
  unfold skip
  split
  · exact length_skipComments_le false cs
  · exact Nat.le_refl _

/-- The characters of a class at the front, with blanks after each of them skipped, and the
rest. -/
def takeSpaced (blanks : Bool) (p : Char → Bool) : List Char → List Char × List Char
  | [] => ([], [])
  | c :: rest =>
    if p c then
      let (taken, rest) := takeSpaced blanks p (skip blanks rest)
      (c :: taken, rest)
    else ([], c :: rest)
termination_by cs => cs.length
decreasing_by
  have := length_skip_le blanks rest
  simp only [List.length_cons]
  omega

/-- Exactly `n` characters of a class, with blanks after each of them skipped, and the rest. -/
def takeExactly (blanks : Bool) (p : Char → Bool) : Nat → List Char →
    Option (List Char × List Char)
  | 0, cs => some ([], cs)
  | _ + 1, [] => none
  | n + 1, c :: rest =>
    if p c then
      (takeExactly blanks p n (skip blanks rest)).map fun (taken, rest) => (c :: taken, rest)
    else none

/-! ## Escapes -/

/-- A hexadecimal digit. -/
def isHex (c : Char) : Bool :=
  c.isDigit || ('a' ≤ c && c ≤ 'f') || ('A' ≤ c && c ≤ 'F')

/-- The value of a hexadecimal digit. -/
def hexValue (c : Char) : Nat :=
  if c.isDigit then c.toNat - 48 else c.toLower.toNat - 87

/-- The character that hexadecimal digits name. -/
def ofHex? (ds : List Char) : Option Char :=
  let n := ds.foldl (fun n d => n * 16 + hexValue d) 0
  if n < 0xD800 ∨ (0xDFFF < n ∧ n < 0x110000) then some (Char.ofNat n) else none

/-- The characters with a meaning in patterns, which a backslash takes away. -/
def isMeta (c : Char) : Bool :=
  ['\x5c', '.', '+', '*', '?', '(', ')', '|', '[', ']', '\x7b', '\x7d', '^', '$', '#', '&', '-',
    '~'].contains c

/-- A backslash before the character makes it stand for itself: the characters with a meaning, and
everything else in ASCII but letters, digits and angle brackets. -/
def isEscapable (c : Char) : Bool :=
  isMeta c || (c.toNat < 0x80 && !c.isAlphanum && c != '<' && c != '>')

/-- A hexadecimal escape after its letter: a fixed number of digits, or braces around any. -/
def hexEscape (blanks : Bool) (digits : Nat) (cs : List Char) : Option (Node × List Char) :=
  match skip blanks cs with
  | '\x7b' :: rest =>
    match takeSpaced blanks isHex (skip blanks rest) with
    | ([], _) => none
    | (ds, '\x7d' :: rest) => (ofHex? ds).map fun c => (.literal ⟨c, false⟩, skip blanks rest)
    | _ => none
  | cs => do
    let (ds, rest) ← takeExactly blanks isHex digits cs
    let c ← ofHex? ds
    pure (.literal ⟨c, digits == 2⟩, rest)

/-- The first place where a text goes on with one of two texts: what is before and after it. -/
def splitAt? (mark : List Char) : List Char → Option (List Char × List Char)
  | [] => none
  | c :: rest =>
    if mark.isPrefixOf (c :: rest) then some ([], (c :: rest).drop mark.length)
    else (splitAt? mark rest).map fun (before, after) => (c :: before, after)

/-- What stands between the braces of `\p`: a name, or a name and a value. -/
def Property.ofChars (cs : List Char) : Property :=
  match splitAt? ['!', '='] cs with
  | some (name, value) => .valued name value
  | none =>
    match splitAt? [':'] cs with
    | some (name, value) => .valued name value
    | none =>
      match splitAt? ['='] cs with
      | some (name, value) => .valued name value
      | none => .named cs

/-- A property escape after its letter. -/
def propertyEscape (blanks negated : Bool) (cs : List Char) : Option (Node × List Char) :=
  match skip blanks cs with
  | [] => none
  | '\x7b' :: rest =>
    match takeSpaced blanks (· != '\x7d') (skip blanks rest) with
    | (name, '\x7d' :: rest) => some (.property (.ofChars name) negated, rest)
    | _ => none
  | '\x5c' :: _ => none
  | c :: rest => some (.property (.named [c]) negated, skip blanks rest)

/-- The edges of words that have a name in braces. -/
def wordPlaces : List (String × WordPlace) :=
  [("start", .start), ("end", .finish), ("start-half", .startHalf), ("end-half", .finishHalf)]

/-- What may follow `\b`: the name of a special boundary in braces.  Braces that do not start like
a name are left for the repetition that they then have to be. -/
def boundaryEscape (blanks : Bool) (cs : List Char) : Option (Node × List Char) :=
  let isNameChar (c : Char) : Bool := c.isAlpha || c == '-'
  match cs with
  | '\x7b' :: rest =>
    match skip blanks rest with
    | [] => none
    | c :: rest =>
      if isNameChar c then
        match takeSpaced blanks isNameChar (c :: rest) with
        | (name, '\x7d' :: rest) =>
          (wordPlaces.lookup (String.ofList name)).map fun place =>
            (.assertion (.word place), rest)
        | _ => none
      else some (.assertion (.word .boundary), cs)
  | cs => some (.assertion (.word .boundary), cs)

/-- An escape after its backslash. -/
def escape (blanks : Bool) : List Char → Option (Node × List Char)
  | [] => none
  | c :: rest =>
    match c with
    | 'x' => hexEscape blanks 2 rest
    | 'u' => hexEscape blanks 4 rest
    | 'U' => hexEscape blanks 8 rest
    | 'p' => propertyEscape blanks false rest
    | 'P' => propertyEscape blanks true rest
    | 'd' => some (.shorthand .digit false, rest)
    | 'D' => some (.shorthand .digit true, rest)
    | 's' => some (.shorthand .space false, rest)
    | 'S' => some (.shorthand .space true, rest)
    | 'w' => some (.shorthand .word false, rest)
    | 'W' => some (.shorthand .word true, rest)
    | 'a' => some (.literal ⟨'\x07', false⟩, rest)
    | 'f' => some (.literal ⟨'\x0c', false⟩, rest)
    | 't' => some (.literal ⟨'\t', false⟩, rest)
    | 'n' => some (.literal ⟨'\n', false⟩, rest)
    | 'r' => some (.literal ⟨'\r', false⟩, rest)
    | 'v' => some (.literal ⟨'\x0b', false⟩, rest)
    | 'A' => some (.assertion .textStart, rest)
    | 'z' => some (.assertion .textEnd, rest)
    | 'B' => some (.assertion (.word .noBoundary), rest)
    | '<' => some (.assertion (.word .start), rest)
    | '>' => some (.assertion (.word .finish), rest)
    | 'b' => boundaryEscape blanks rest
    | c => if isEscapable c then some (.literal ⟨c, false⟩, rest) else none

/-! ## Classes -/

/-- The classes of ASCII that have a name. -/
def asciiClasses : List (String × CodeSet) := [
  ("alnum", .ofTable "30-39 41-5A 61-7A"),
  ("alpha", .ofTable "41-5A 61-7A"),
  ("ascii", .ofTable "0-7F"),
  ("blank", .ofTable "9 20"),
  ("cntrl", .ofTable "0-1F 7F"),
  ("digit", .ofTable "30-39"),
  ("graph", .ofTable "21-7E"),
  ("lower", .ofTable "61-7A"),
  ("print", .ofTable "20-7E"),
  ("punct", .ofTable "21-2F 3A-40 5B-60 7B-7E"),
  ("space", .ofTable "9-D 20"),
  ("upper", .ofTable "41-5A"),
  ("word", .ofTable "30-39 41-5A 5F 61-7A"),
  ("xdigit", .ofTable "30-39 41-46 61-66")]

/-- An ASCII class after its opening bracket, `:alpha:]` or `:^alpha:]`, and the rest. -/
def asciiClass? (cs : List Char) : Option (ClassSet × List Char) :=
  match cs with
  | ':' :: rest =>
    let (negated, rest) := match rest with
      | '^' :: rest => (true, rest)
      | rest => (false, rest)
    match rest.takeWhile (· != ':'), rest.dropWhile (· != ':') with
    | name, ':' :: ']' :: rest =>
      (asciiClasses.lookup (String.ofList name)).map fun members =>
        (.ascii members negated, rest)
    | _, _ => none
  | _ => none

/-- An escape or a character between brackets, and the rest. -/
def classPrimitive (blanks : Bool) : List Char → Option (Node × List Char)
  | [] => none
  | '\x5c' :: rest => escape blanks rest
  | c :: rest => some (.literal ⟨c, false⟩, rest)

/-- What an escape or a character stands for between brackets; boundaries stand for nothing. -/
def Node.asClassSet? : Node → Option ClassSet
  | .literal l => some (.literal l)
  | .shorthand s negated => some (.shorthand s negated)
  | .property p negated => some (.property p negated)
  | _ => none

/-- The end of a range between brackets. -/
def Node.asLiteral? : Node → Option Literal
  | .literal l => some l
  | _ => none

/-- The next character that is no blank, after at most one mark of a comment. -/
def lookPastBlanks : Bool → List Char → Option Char
  | _, [] => none
  | inComment, c :: rest =>
    if Text.isBlankChar c then lookPastBlanks inComment rest
    else if !inComment && c == '#' then lookPastBlanks true rest
    else some c

/-- The character that comes next, blanks aside if they are to be skipped. -/
def peek (blanks : Bool) (cs : List Char) : Option Char :=
  if blanks then
    match lookPastBlanks false cs with
    | some c => some c
    | none => cs.head?
  else cs.head?

/-- A single item or a range between brackets, and the rest. -/
def classRange (blanks : Bool) (cs : List Char) : Option (ClassSet × List Char) := do
  let (first, rest) ← classPrimitive blanks cs
  match skip blanks rest with
  | [] => none
  | '-' :: rest =>
    if peek blanks rest == some ']' || peek blanks rest == some '-' then
      let item ← first.asClassSet?
      pure (item, '-' :: rest)
    else
      let (second, rest) ← classPrimitive blanks (skip blanks rest)
      let low ← first.asLiteral?
      let high ← second.asLiteral?
      if low.char ≤ high.char then pure (.range low high, rest) else none
  | rest =>
    let item ← first.asClassSet?
    pure (item, rest)

/-- The start of a class after its opening bracket: whether it is negated, the items that stand for
themselves because they come first, and the rest. -/
def classOpen (blanks : Bool) (cs : List Char) : Option ((Bool × List ClassSet) × List Char) :=
  let (negated, cs) := match skip blanks cs with
    | '^' :: rest => (true, skip blanks rest)
    | cs => (false, cs)
  let (hyphens, cs) := takeSpaced blanks (· == '-') cs
  let items : List ClassSet := hyphens.map fun c => .literal ⟨c, false⟩
  match items, cs with
  | _, [] => none
  | [], ']' :: rest =>
    match skip blanks rest with
    | [] => none
    | rest => some ((negated, [.literal ⟨']', false⟩]), rest)
  | items, cs => some ((negated, items), cs)

/-- A set together with the one it is combined with, if there is one. -/
def combine (left : Option (SetOperation × ClassSet)) (right : ClassSet) : ClassSet :=
  match left with
  | some (op, left) => .operation op left right
  | none => right

/-- The inside of a class up to its closing bracket, and the rest.  `left` is the last set operation
and the set before it, `items` what has been read since, backwards. -/
def classBody (blanks : Bool) : Nat → Option (SetOperation × ClassSet) → List ClassSet →
    List Char → Option (ClassSet × List Char)
  | 0, _, _, _ => none
  | fuel + 1, left, items, cs =>
    let set := combine left (.together items.reverse)
    match skip blanks cs with
    | [] => none
    | ']' :: rest => some (set, rest)
    | '[' :: rest =>
      match asciiClass? rest with
      | some (item, rest) => classBody blanks fuel left (item :: items) rest
      | none => do
        let ((negated, first), rest) ← classOpen blanks rest
        let (inner, rest) ← classBody blanks fuel none first.reverse rest
        classBody blanks fuel left (.bracketed negated inner :: items) rest
    | '&' :: '&' :: rest => classBody blanks fuel (some (.intersection, set)) [] rest
    | '-' :: '-' :: rest => classBody blanks fuel (some (.difference, set)) [] rest
    | '~' :: '~' :: rest => classBody blanks fuel (some (.symmetricDifference, set)) [] rest
    | cs => do
      let (item, rest) ← classRange blanks cs
      classBody blanks fuel left (item :: items) rest

/-- A class after its opening bracket, and the rest. -/
def bracketClass (blanks : Bool) (cs : List Char) : Option (Node × List Char) := do
  let ((negated, first), rest) ← classOpen blanks cs
  let (set, rest) ← classBody blanks (cs.length + 1) none first.reverse rest
  pure (.bracketed negated set, rest)

/-! ## Repetitions -/

/-- A pattern can be repeated if there is one and it is more than a change of flags. -/
def Node.isRepeatable : Node → Bool
  | .empty | .setFlags _ => false
  | _ => true

/-- Whether a mark of laziness comes next, and the text after it. -/
def takeLazy : List Char → Bool × List Char
  | '?' :: rest => (true, rest)
  | cs => (false, cs)

/-- A bound of a repetition, at most 32 bits wide, with blanks around it. -/
def bound? (blanks : Bool) (cs : List Char) : Option (Nat × List Char) :=
  let (ds, rest) := takeSpaced blanks Char.isDigit (cs.dropWhile Text.isBlankChar)
  let n := Nat.ofDigitChars 10 ds 0
  if ds.isEmpty || 4294967295 < n then none
  else some (n, (takeSpaced blanks Text.isBlankChar rest).2)

/-- The bounds of a repetition after the opening brace: `n}`, `n,}` or `n,m}`, and the rest. -/
def bounds? (blanks : Bool) (cs : List Char) : Option ((Nat × Option Nat) × List Char) := do
  let (low, rest) ← bound? blanks (skip blanks cs)
  match rest with
  | '\x7d' :: rest => pure ((low, some low), rest)
  | ',' :: rest =>
    match skip blanks rest with
    | '\x7d' :: rest => pure ((low, none), rest)
    | cs =>
      let (high, rest) ← bound? blanks cs
      match rest with
      | '\x7d' :: rest => if low ≤ high then pure ((low, some high), rest) else none
      | _ => none
  | _ => none

/-! ## Groups -/

/-- The flag of a letter. -/
def flag? : Char → Option Flag
  | 'i' => some .ignoreCase
  | 'm' => some .multiLine
  | 's' => some .dotMatchesNewline
  | 'U' => some .swapGreed
  | 'u' => some .unicode
  | 'R' => some .crlf
  | 'x' => some .ignoreBlanks
  | _ => none

/-- Flags up to a colon or a closing parenthesis, which is kept.  No flag may be repeated, and a
minus must stand before a flag. -/
def flags? (flags : Flags) (negated : Bool) : List Char → Option (Flags × List Char)
  | [] => none
  | '-' :: rest =>
    match rest with
    | c :: _ => if negated || c == ':' || c == ')' then none else flags? flags true rest
    | [] => none
  | c :: rest =>
    if c == ':' || c == ')' then some (flags, c :: rest)
    else do
      let flag ← flag? c
      if flags.on.contains flag || flags.off.contains flag then none
      else if negated then flags? { flags with off := flag :: flags.off } negated rest
      else flags? { flags with on := flag :: flags.on } negated rest

/-- A character of the name of a group. -/
def isNameChar (first : Bool) (c : Char) : Bool :=
  if first then c == '_' || Text.isAlphabetic c
  else c == '_' || c == '.' || c == '[' || c == ']' || Text.isAlphanumeric c

/-- The name of a group up to its closing angle bracket, and the rest. -/
def groupName? (cs : List Char) : Option (List Char × List Char) :=
  let name := cs.takeWhile (· != '>')
  match name, cs.dropWhile (· != '>') with
  | c :: more, '>' :: rest =>
    if isNameChar true c && more.all (isNameChar false) then some (name, rest) else none
  | _, _ => none

/-- What an opening parenthesis opens. -/
inductive GroupHead where
  | capture (name : Option (List Char))
  | flags (flags : Flags)
  | setFlags (flags : Flags)

/-- The head of a group after its parenthesis, and the rest.  Look-around is refused, and so is an
empty set of flags that stands for no group. -/
def groupHead? (blanks : Bool) (cs : List Char) : Option (GroupHead × List Char) :=
  match skip blanks cs with
  | '?' :: '=' :: _ | '?' :: '!' :: _ | '?' :: '<' :: '=' :: _ | '?' :: '<' :: '!' :: _ => none
  | '?' :: 'P' :: '<' :: rest | '?' :: '<' :: rest =>
    (groupName? rest).map fun (name, rest) => (.capture (some name), rest)
  | '?' :: rest =>
    match flags? {} false rest with
    | some (flags, ':' :: rest) => some (.flags flags, rest)
    | some (flags, ')' :: rest) =>
      if flags.on.isEmpty && flags.off.isEmpty then none else some (.setFlags flags, rest)
    | _ => none
  | cs => some (.capture none, cs)

/-! ## Patterns -/

/-- What a reader of patterns keeps: the text still to be read, whether blanks are skipped, and the
names of the groups so far. -/
structure State where
  rest : List Char
  blanks : Bool
  names : List (List Char)

/-- A pattern up to a closing parenthesis, which is kept, or the end.  `branches` holds what was
read before the last bar, `nodes` what was read since, both backwards. -/
def body : Nat → List Node → List Node → State → Option (Node × State)
  | 0, _, _, _ => none
  | fuel + 1, branches, nodes, s =>
    let blanks := s.blanks
    let branch := Node.sequence nodes.reverse
    let repeated (low : Nat) (high : Option Nat) (rest : List Char) : Option (Node × State) :=
      match nodes with
      | [] => none
      | node :: before =>
        if node.isRepeatable then
          let (isLazy, rest) := takeLazy rest
          body fuel branches (.repetition low high isLazy node :: before) { s with rest }
        else none
    let more (read : Option (Node × List Char)) : Option (Node × State) := do
      let (node, rest) ← read
      body fuel branches (node :: nodes) { s with rest }
    match skip blanks s.rest with
    | [] => some (.choice (branch :: branches).reverse, { s with rest := [] })
    | ')' :: rest => some (.choice (branch :: branches).reverse, { s with rest := ')' :: rest })
    | '|' :: rest => body fuel (branch :: branches) [] { s with rest }
    | '(' :: rest => do
      let (head, rest) ← groupHead? blanks rest
      let close (capturing : Bool) (flags : Flags) (s : State) : Option (Node × State) := do
        let inner := { s with blanks := flags.apply .ignoreBlanks blanks }
        let (node, inner) ← body fuel [] [] inner
        match inner.rest with
        | ')' :: rest =>
          body fuel branches (.group capturing flags node :: nodes)
            { rest, blanks, names := inner.names }
        | _ => none
      match head with
      | .capture none => close true {} { s with rest }
      | .capture (some name) =>
        if s.names.contains name then none
        else close true {} { s with rest, names := name :: s.names }
      | .flags flags => close false flags { s with rest }
      | .setFlags flags =>
        body fuel branches (.setFlags flags :: nodes)
          { s with rest, blanks := flags.apply .ignoreBlanks blanks }
    | '[' :: rest => more (bracketClass blanks rest)
    | '?' :: rest => repeated 0 (some 1) rest
    | '*' :: rest => repeated 0 none rest
    | '+' :: rest => repeated 1 none rest
    | '\x7b' :: rest => do
      let ((low, high), rest) ← bounds? blanks rest
      repeated low high (skip blanks rest)
    | '\x5c' :: rest => more (escape blanks rest)
    | '.' :: rest => more (some (.dot, rest))
    | '^' :: rest => more (some (.assertion .caret, rest))
    | '$' :: rest => more (some (.assertion .dollar, rest))
    | c :: rest => more (some (.literal ⟨c, false⟩, rest))

/-- The tree of a pattern.  Every step takes at least one character, so the length of the pattern
and one more is enough fuel. -/
def parse? (pattern : String) : Option Node :=
  match body (pattern.toList.length + 1) [] [] ⟨pattern.toList, false, []⟩ with
  | some (node, s) => if s.rest.isEmpty then some node else none
  | none => none

end Rulebook.Pattern
