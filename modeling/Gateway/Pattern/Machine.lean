/-
This file measures the machine that would look for an expression. Its states are numbered as they
are added, each takes a fixed number of octets, and transitions and branches of a state take more.
A pattern is refused when the machine for it, or the one that reads texts backwards, takes more
octets than the limit. Where a set of characters is spelled in octets, equal states are shared as
far as a table of bounded size remembers them, so the numbers of the states have a part in the size.
-/

import Gateway.Pattern.Expr
import Gateway.Pattern.Octets
import Std.Data.TreeMap

namespace Gateway

open Unicode (CharSet)

/-- How far a machine is built: its states, and the octets that it takes. -/
structure Extent where
  states : Nat
  octets : Nat

namespace Extent

/-- The octets that the machine for a pattern may take. -/
def limit : Nat := 10485760

/-- A machine without states. -/
def empty : Extent := ⟨0, 0⟩

/-- The octets of a state without what hangs on it. -/
def stateOctets : Nat := 32

/-- One more state, from which so many ranges of octets lead on. -/
def addState (extent : Extent) (transitions : Nat) : Extent :=
  ⟨extent.states + 1, extent.octets + stateOctets + 8 * transitions⟩

/-- So many more branches of states that branch. -/
def addBranches (extent : Extent) (branches : Nat) : Extent :=
  ⟨extent.states, extent.octets + 4 * branches⟩

/-- Leads on from the end of a part; one more branch where the part ends in a state that
branches. -/
def leadOn (extent : Extent) (branching : Bool) : Extent :=
  if branching then extent.addBranches 1 else extent

end Extent

/-! ### Sets of characters -/

namespace Machine

/-- One step of a running hash over numbers. -/
def hashStep (hash value : UInt64) : UInt64 :=
  (hash ^^^ value) * 1099511628211

/-- The hash of no numbers. -/
def hashStart : UInt64 := 14695981039346656037

/-- A range of octets that leads to a state. -/
structure Transition where
  range : OctetRange
  target : Nat
  deriving DecidableEq

/-- The places of the table that remembers states which read forwards. -/
def forwardPlaces : UInt64 := 10000

/-- The place of a state in the table. -/
def forwardPlace (transitions : List Transition) : Nat :=
  let hash := transitions.foldl
    (fun hash transition =>
      hashStep
        (hashStep (hashStep hash transition.range.low.toUInt64) transition.range.high.toUInt64)
        transition.target.toUInt64)
    hashStart
  (hash % forwardPlaces).toNat

/-- The machine, and the states that the table remembers, one at each place. -/
structure Forward where
  extent : Extent
  known : Std.TreeMap Nat (List Transition × Nat)

/-- The known state with the transitions. -/
def Forward.find? (forward : Forward) (place : Nat) (transitions : List Transition) :
    Option Nat :=
  match forward.known[place]? with
  | some (others, number) => if others = transitions then some number else none
  | none => none

/-- The state with the transitions: a known one, or a new one. -/
def Forward.state (forward : Forward) (transitions : List Transition) : Nat × Forward :=
  let place := forwardPlace transitions
  match forward.find? place transitions with
  | some number => (number, forward)
  | none =>
    let number := forward.extent.states
    (number,
      ⟨forward.extent.addState transitions.length,
        forward.known.insert place (transitions, number)⟩)

/-- A state that is still growing: its transitions, the last one first, and the range that leads
to the growing state behind it. -/
structure Growing where
  transitions : List Transition
  last : Option OctetRange

/-- The growing state with the range that was open leading to the target. -/
def Growing.close (growing : Growing) (target : Nat) : List Transition :=
  match growing.last with
  | some range => ⟨range, target⟩ :: growing.transitions
  | none => growing.transitions

/-- Closes a chain of growing states, the deepest first, and gives the state that stands for it. -/
def closeChain (target : Nat) : List Growing → Forward → Nat × Forward
  | [], forward => (target, forward)
  | growing :: deeper, forward =>
    let (next, forward) := closeChain target deeper forward
    forward.state (growing.close next).reverse

/-- Adds a sequence behind the ones before it, which come first in their order: what it shares
with the last one stays open, and the rest of that one is closed. -/
def addSequence (target : Nat) :
    List Growing → List OctetRange → Forward → List Growing × Forward
  | growing :: deeper, range :: rest, forward =>
    if growing.last = some range then
      let (deeper, forward) := addSequence target deeper rest forward
      (growing :: deeper, forward)
    else
      let (next, forward) := closeChain target deeper forward
      (⟨growing.close next, some range⟩ :: rest.map fun other => ⟨[], some other⟩, forward)
  | chain, _, forward => (chain, forward)

/-- The machine with a part that reads one of the sequences forwards: equal ends are shared. -/
def forwardSet (sequences : List (List OctetRange)) (extent : Extent) : Extent :=
  let target := extent.states
  let start : List Growing × Forward := ([⟨[], none⟩], ⟨extent.addState 0, ∅⟩)
  let (chain, forward) := sequences.foldl
    (fun built sequence => addSequence target built.1 sequence built.2) start
  (closeChain target chain forward).2.extent

/-- The places of the table that remembers states which read backwards. -/
def backwardPlaces : UInt64 := 1000

/-- The place of a state in the table. -/
def backwardPlace (transition : Transition) : Nat :=
  let hash := hashStep
    (hashStep (hashStep hashStart transition.target.toUInt64) transition.range.low.toUInt64)
    transition.range.high.toUInt64
  (hash % backwardPlaces).toNat

/-- The machine, and the states that the table remembers, one at each place. -/
structure Backward where
  extent : Extent
  known : Std.TreeMap Nat (Transition × Nat)

/-- The known state with the transition. -/
def Backward.find? (backward : Backward) (place : Nat) (transition : Transition) : Option Nat :=
  match backward.known[place]? with
  | some (other, number) => if other = transition then some number else none
  | none => none

/-- The state with the transition: a known one, or a new one. -/
def Backward.state (backward : Backward) (transition : Transition) : Nat × Backward :=
  let place := backwardPlace transition
  match backward.find? place transition with
  | some number => (number, backward)
  | none =>
    let number := backward.extent.states
    (number,
      ⟨backward.extent.addState 0, backward.known.insert place (transition, number)⟩)

/-- The machine with the states of one sequence, which lead to the target, and a branch to them. -/
def Backward.add (target : Nat) (backward : Backward) (sequence : List OctetRange) : Backward :=
  let built := (sequence.foldl
    (fun built range => built.2.state ⟨range, built.1⟩) (target, backward)).2
  { built with extent := built.extent.addBranches 1 }

/-- The machine with a part that reads one of the sequences backwards: equal first octets are
shared. -/
def backwardSet (sequences : List (List OctetRange)) (extent : Extent) : Extent :=
  let target := extent.states + 1
  let start : Backward := ⟨(extent.addState 0).addState 0, ∅⟩
  (sequences.foldl (Backward.add target) start).extent

/-- The machine with a part that reads a character of the set. -/
def addSet (backwards : Bool) (characters : CharSet) : Extent → Extent :=
  if characters.ranges.all fun range => range.2 < 0x80 then
    fun extent => (extent.addState 0).addState characters.ranges.length
  else
    let sequences := OctetRange.ofSet characters
    if backwards then backwardSet sequences else forwardSet sequences

/-! ### Choices between words -/

/-- The words cut at the empty ones, each of which ends a word that begins here. An empty word
that comes first, or follows such a one, says nothing new. -/
def cutAtEnds (begun ended : Bool) : List (List UInt8) → List (List (List UInt8))
  | [] => [[]]
  | [] :: rest =>
    if !begun && ended then cutAtEnds begun ended rest else [] :: cutAtEnds begun true rest
  | word :: rest =>
    match cutAtEnds true ended rest with
    | run :: others => (word :: run) :: others
    | [] => [[word]]

/-- The machine with the states that read one of the words from here on; the depth bounds the
lengths of the words. -/
def addWords : Nat → List (List UInt8) → Extent → Extent
  | 0, _, extent => extent
  | depth + 1, words, extent =>
    if words.all List.isEmpty then extent
    else
      let runs := cutAtEnds false false words
      let extent := runs.foldl
        (fun extent run =>
          let firsts := (run.filterMap List.head?).eraseDups
          let extent := firsts.foldl
            (fun extent first =>
              addWords depth ((run.filter fun word => word.head? = some first).map List.tail)
                extent)
            extent
          if firsts.isEmpty then extent
          else
            (extent.addState (if firsts.length = 1 then 0 else firsts.length)).addBranches 1)
        extent
      (extent.addState 0).addBranches (runs.length - 1)

/-- The words of a choice whose branches are all literals. -/
def literals? : List Expr → Option (List (List Char))
  | [] => some []
  | .literal characters :: rest => do return characters :: (← literals? rest)
  | _ => none

/-- The machine with a part that reads one of the words. -/
def addChoice (backwards : Bool) (words : List (List Char)) : Extent → Extent :=
  let spelled := words.map fun word =>
    let octets := word.flatMap String.utf8EncodeChar
    if backwards then octets.reverse else octets
  let depth := (spelled.map List.length).foldl max 0 + 1
  fun extent => addWords depth spelled (extent.addState 0)

end Machine

/-! ### Expressions -/

/-- Adds a part to a machine, if the limit admits it, and says whether the part ends in a state
that branches. -/
abbrev Build := Extent → Option (Extent × Bool)

namespace Build

/-- A part that is added as a whole and does not end in a state that branches. -/
def plain (add : Extent → Extent) : Build := fun extent => some (add extent, false)

/-- A part of one state without transitions of its own. -/
def single : Build := plain fun extent => extent.addState 0

/-- The second part behind the first. -/
def andThen (first second : Build) : Build := fun extent => do
  let (extent, branching) ← first extent
  let (extent, ends) ← second extent
  return (extent.leadOn branching, ends)

/-- So many more copies of a part behind what was built. -/
def copies (part : Build) : Nat → Extent → Bool → Option (Extent × Bool)
  | 0, extent, branching => some (extent, branching)
  | count + 1, extent, branching =>
    match part extent with
    | none => none
    | some (next, ends) =>
      let next := next.leadOn branching
      if Extent.limit < next.octets then none else copies part count next ends

/-- Exactly so many copies of a part. -/
def exactly (part : Build) : Nat → Build
  | 0 => single
  | count + 1 => fun extent => do
    let (extent, branching) ← part extent
    copies part count extent branching

/-- So many more copies of a part behind what was built, each of which may be passed over. -/
def passable (part : Build) : Nat → Extent → Bool → Option (Extent × Bool)
  | 0, extent, branching => some (extent, branching)
  | count + 1, extent, branching =>
    match part (extent.addState 0) with
    | none => none
    | some (next, ends) =>
      let next := (next.leadOn branching).addBranches 2
      if Extent.limit < next.octets then none else passable part count next ends

/-- A part at least and at most so many times; `taking` says that it always takes a character. -/
def repeated (part : Build) (taking : Bool) : Nat → Option Nat → Build
  | 0, none =>
    if taking then fun extent => do
      let (extent, branching) ← part (extent.addState 0)
      return ((extent.leadOn branching).addBranches 1, true)
    else fun extent => do
      let (extent, branching) ← part extent
      let extent := ((extent.addState 0).addState 0).addState 0
      return ((extent.leadOn branching).addBranches 4, false)
  | least, none => fun extent => do
    let (extent, branching) ← exactly part least extent
    return (((extent.addState 0).leadOn branching).addBranches 1, true)
  | 0, some 1 => fun extent => do
    let (extent, branching) ← part (extent.addState 0)
    return (((extent.addState 0).leadOn branching).addBranches 2, false)
  | least, some most =>
    if least = most then exactly part least
    else fun extent => do
      let (extent, branching) ← exactly part least extent
      let (extent, branching) ← passable part (most - least) (extent.addState 0) branching
      return (extent.leadOn branching, false)

/-- More branches of a choice. -/
def moreBranches : List Build → Extent → Option Extent
  | [], extent => some extent
  | branch :: rest, extent => do
    let (extent, branching) ← branch extent
    moreBranches rest ((extent.leadOn branching).addBranches 1)

/-- One of the parts. -/
def choice : List Build → Build
  | first :: second :: rest => fun extent => do
    let (extent, firstBranching) ← first extent
    let (extent, secondBranching) ← second extent
    let extent := (extent.addState 0).addState 0
    let extent := ((extent.leadOn firstBranching).leadOn secondBranching).addBranches 2
    return (← moreBranches rest extent, false)
  | [first] => first
  | [] => single

end Build

namespace Expr

/-- The part of a machine for the expression, and the parts for the branches it chooses from. A
machine that reads backwards remembers no groups. -/
def builds (backwards : Bool) : Expr → Build × List Build
  | .empty | .look _ => (.single, [.single])
  | .literal characters =>
    let length := (characters.map Char.utf8Size).sum
    let whole := Build.plain fun extent =>
      ⟨extent.states + length, extent.octets + Extent.stateOctets * length⟩
    (whole, [whole])
  | .set characters _ =>
    let whole := Build.plain (Machine.addSet backwards characters)
    (whole, [whole])
  | .group _ body =>
    let inner := (body.builds backwards).1
    let whole := if backwards then inner else (Build.single.andThen inner).andThen .single
    (whole, [whole])
  | .cat first second =>
    let one := (first.builds backwards).1
    let other := (second.builds backwards).1
    let whole := if backwards then other.andThen one else one.andThen other
    (whole, [whole])
  | .alt first second =>
    let every := (first.builds backwards).1 :: (second.builds backwards).2
    match Machine.literals? (first :: second.branches) with
    | some words => (.plain (Machine.addChoice backwards words), every)
    | none => (.choice every, every)
  | .repeated body least most _ =>
    let taking := match body.leastLength with
      | some length => length != 0
      | none => false
    let whole := (body.builds backwards).1.repeated taking least most
    (whole, [whole])

/-- The machine for the expression. Before it comes a part that passes over any octets, unless the
expression is bound to the end where reading begins, and behind it a state for success. -/
def machine? (backwards : Bool) (expression : Expr) : Option Extent := do
  let bound := if backwards then expression.endsText else expression.startsText
  let whole := (expression.builds backwards).1
  let whole := if backwards then whole else (Build.single.andThen whole).andThen .single
  let start :=
    if bound then Extent.empty.addState 0
    else (((Extent.empty.addState 0).addState 0).addState 1).addBranches 2
  let (extent, _) ← whole.andThen .single start
  return extent

/-- The number of words from which on a choice between them is looked for without a machine. -/
def manyWords : Nat := 3000

/-- Whether the expression is a choice between many words. -/
def choosesManyWords (expression : Expr) : Bool :=
  match Machine.literals? expression.branches with
  | some words => manyWords ≤ words.length
  | none => false

/-- Whether the machines for the expression, if it needs any, keep to the limit. -/
def fits (expression : Expr) : Bool :=
  expression.choosesManyWords || [false, true].all fun backwards =>
    match expression.machine? backwards with
    | some extent => extent.octets ≤ Extent.limit
    | none => false

end Expr

end Gateway
