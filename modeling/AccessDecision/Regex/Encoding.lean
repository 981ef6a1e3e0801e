import AccessDecision.Power
import AccessDecision.Unicode.Extent

/-
  Sets of characters as automata over bytes

  A matching automaton reads bytes, so a set of characters becomes a set of
  byte sequences, each written as one range for every byte. Read forward, states
  that allow the same continuations are shared; read backward, the sequences
  share what they have in common at their start. `forwardSize` and
  `backwardSize` are the bytes of memory that the two automata take.
-/

namespace AccessDecision.Regex

/-- The least and the greatest byte at one place of a sequence. -/
abbrev ByteRange := Nat × Nat

namespace Encoding

/-- The byte sequences of the numbers from `lo` to `hi`: a byte that adds the
leading digits to `lead`, and `more` bytes of six bits each. A sequence of ranges
stands for all choices from them, so blocks that are only partly covered come
apart. -/
def sequences (lead : Nat) : (more : Nat) → (lo hi : Nat) → List (List ByteRange)
  | 0, lo, hi => [[(lead + lo, lead + hi)]]
  | more + 1, lo, hi =>
    let block := 64 ^ (more + 1)
    let inBlock := fun digit least greatest =>
      (sequences 0x80 more least greatest).map ((lead + digit, lead + digit) :: ·)
    if lo / block = hi / block then inBlock (lo / block) (lo % block) (hi % block)
    else
      let cutsFirst := lo % block ≠ 0
      let cutsLast := hi % block ≠ block - 1
      let first := if cutsFirst then lo / block + 1 else lo / block
      let stop := if cutsLast then hi / block else hi / block + 1
      (if cutsFirst then inBlock (lo / block) (lo % block) (block - 1) else []) ++
      (if first < stop then
        [(lead + first, lead + (stop - 1)) :: List.replicate (more + 1) (0x80, 0xBF)] else []) ++
      (if cutsLast then inBlock (hi / block) 0 (hi % block) else [])

/-- The ranges of code points whose encodings have one shape: first and last code
point, leading byte and number of further bytes. -/
def shapes : List (Nat × Nat × Nat × Nat) :=
  [(0, 0x7F, 0, 0), (0x80, 0x7FF, 0xC0, 1), (0x800, 0xD7FF, 0xE0, 2), (0xE000, 0xFFFF, 0xE0, 2),
    (0x10000, 0x10FFFF, 0xF0, 3)]

/-- The byte sequences of a set, ascending. -/
def ofExtent (s : Unicode.Extent) : List (List ByteRange) :=
  s.ranges.flatMap fun (lo, hi) => shapes.flatMap fun (first, last, lead, more) =>
    let lo := Nat.max lo first
    let hi := Nat.min hi last
    if lo ≤ hi then sequences lead more lo hi else []

/-- The states made so far, latest first, as their transitions: ranges of bytes with
the numbers of the states they lead to. States are numbered from 1 in the order in
which they are made; number 0 is the end. -/
abbrev States := List (List (ByteRange × Nat))

/-- The number of the state with the given transitions, if it is made. -/
def number? (transitions : List (ByteRange × Nat)) : States → Option Nat
  | [] => none
  | t :: rest => if t = transitions then some (rest.length + 1) else number? transitions rest

/-- The number of the state with the given transitions, which is made if there is
none. -/
def stateOf (transitions : List (ByteRange × Nat)) (states : States) : Nat × States :=
  match number? transitions states with
  | some n => (n, states)
  | none => (states.length + 1, transitions :: states)

/-- The state from which exactly the given sequences, ascending and of at most
`length` bytes, lead to the end. -/
def share : (length : Nat) → List (List ByteRange) → States → Nat × States
  | 0, _, states => (0, states)
  | length + 1, seqs, states =>
    if seqs.any List.isEmpty then (0, states)
    else
      let groups := seqs.splitBy fun s t => s.head? == t.head?
      let (transitions, states) := groups.foldl (fun (done, states) group =>
        let (n, states) := share length (group.map List.tail) states
        ((group.head?.bind List.head?).toList.map (·, n) ++ done, states)) ([], states)
      stateOf transitions.reverse states

/-- The length of what two sequences have in common at their start. -/
def commonLength : List ByteRange → List ByteRange → Nat
  | r :: rs, s :: ss => if r = s then commonLength rs ss + 1 else 0
  | _, _ => 0

/-- The number of states for ascending sequences that share their starts, given
the sequence before them. -/
def chainStates (before : List ByteRange) : List (List ByteRange) → Nat
  | [] => 0
  | s :: rest => s.length - commonLength before s + chainStates s rest

/-- The size of the automaton that reads a set forward: 32 bytes for each state
and 8 for each transition. A set within ASCII takes one state and the end. -/
def forwardSize (s : Unicode.Extent) : Nat :=
  (share 4 (ofExtent s) []).2.foldl (fun size transitions => size + 32 + 8 * transitions.length) 32

/-- The size of the automaton that reads a set backward: a choice with 4 bytes for
each sequence, the end, and the states of the sequences. Within ASCII it reads
bytes of one state, as it does forward. -/
def backwardSize (s : Unicode.Extent) : Nat :=
  if s.ranges.all (·.2 < 0x80) then forwardSize s
  else
    let seqs := ofExtent s
    64 + 4 * seqs.length + 32 * chainStates [] seqs

end Encoding

end AccessDecision.Regex
