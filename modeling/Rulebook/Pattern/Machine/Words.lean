import Rulebook.Pattern.Machine.Chars

/-!
# Rulebook.Pattern.Machine.Words

The states for a choice between texts.

Texts share the states of what they start with, as far as that keeps their order: where a text ends
and longer ones come later, the longer ones come second, in a chunk of their own.
-/

namespace Rulebook.Pattern

/-- Texts by their first bytes, in chunks.  A text ends after each of the `closed` chunks; the last
chunk is still open. -/
inductive WordTrie where
  | node (closed : List (List (Nat × WordTrie))) (active : List (Nat × WordTrie))

namespace WordTrie

/-- No text. -/
def empty : WordTrie :=
  .node [] []

/-- Nothing comes after what leads to the trie. -/
def isLeaf : WordTrie → Bool
  | .node closed active => active.isEmpty && closed.all List.isEmpty

/-- The trie of one text. -/
def single : List Nat → WordTrie
  | [] => .node [[]] []
  | b :: rest => .node [] [(b, single rest)]

/-- The trie after the end of a text; a second text without more to come changes nothing. -/
def close : WordTrie → WordTrie
  | .node closed active =>
    if (WordTrie.node closed active).isLeaf && !closed.isEmpty then .node closed active
    else .node (closed ++ [active]) []

mutual

/-- The trie with one more text. -/
def add (bytes : List Nat) : WordTrie → WordTrie
  | .node closed active =>
    match bytes with
    | [] => (WordTrie.node closed active).close
    | b :: rest => .node closed (addTo b rest active)

/-- A chunk, in ascending order of bytes, with one more text. -/
def addTo (b : Nat) (rest : List Nat) : List (Nat × WordTrie) → List (Nat × WordTrie)
  | [] => [(b, single rest)]
  | (b', trie) :: more =>
    if b' < b then (b', trie) :: addTo b rest more
    else if b' = b then (b, trie.add rest) :: more
    else (b, single rest) :: (b', trie) :: more

end

/-- A state for a chunk: none for an empty one, a plain step for a single byte. -/
def buildChunk (size : Nat) : Construction Unit :=
  match size with
  | 0 => pure ()
  | 1 => Construction.states 1
  | size => Construction.branching size

mutual

/-- Makes the states of a trie: those of its chunks, then one that chooses between them and the ends
in between. -/
def build : WordTrie → Construction Unit
  | .node closed active => do
    if !(WordTrie.node closed active).isLeaf then
      buildChunks closed
      buildNodes active
      buildChunk active.length
      Construction.states 1
      let chunks := (closed ++ [active]).filter (! ·.isEmpty)
      Construction.ways (chunks.length + closed.length)

def buildChunks : List (List (Nat × WordTrie)) → Construction Unit
  | [] => pure ()
  | chunk :: rest => do
    buildNodes chunk
    buildChunk chunk.length
    buildChunks rest

def buildNodes : List (Nat × WordTrie) → Construction Unit
  | [] => pure ()
  | (_, trie) :: rest => do
    trie.build
    buildNodes rest

end

end WordTrie

/-- Makes the states for a choice between texts, none of which is empty. -/
def buildWords (direction : Direction) (words : List (List Char)) : Construction Unit := do
  let bytes := fun (cs : List Char) =>
    let bs := cs.flatMap fun c => Utf8.encode c.toNat
    match direction with
    | .forward => bs
    | .backward => bs.reverse
  Construction.states 1
  (words.foldl (fun trie cs => trie.add (bytes cs)) WordTrie.empty).build

end Rulebook.Pattern
