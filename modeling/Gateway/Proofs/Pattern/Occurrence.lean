/-
This file proves that an expression occurs in a text exactly where it takes a part of it. What an
expression takes is said by a relation between two positions, without sets of them. A map of sets
carries a relation when it takes every set to all the positions that the relation leads to from
there; the map of each constructor carries the relation of that constructor, so that of a plan
carries what the expression takes. A repetition without a bound needs no more rounds than the text
has characters, since a round that takes no character leads nowhere new.
-/

import Gateway.Pattern.Occurrence
import Mathlib.Logic.Function.Iterate

namespace Gateway

/-! ### Relations between positions -/

/-- The relation so many times, one after the other. -/
inductive Times (relation : Nat → Nat → Prop) : Nat → Nat → Nat → Prop
  | zero (position : Nat) : Times relation 0 position position
  | succ {count start middle stop : Nat} (first : relation start middle)
    (rest : Times relation count middle stop) : Times relation (count + 1) start stop

namespace Times

variable {relation : Nat → Nat → Prop} {count first second start middle stop : Nat}

theorem zero_iff : Times relation 0 start stop ↔ start = stop := by
  constructor
  · rintro ⟨⟩
    rfl
  · rintro rfl
    exact .zero start

theorem succ_iff :
    Times relation (count + 1) start stop ↔
      ∃ middle, relation start middle ∧ Times relation count middle stop := by
  constructor
  · rintro (_ | ⟨first, rest⟩)
    exact ⟨_, first, rest⟩
  · rintro ⟨middle, first, rest⟩
    exact .succ first rest

theorem add_iff :
    Times relation (first + second) start stop ↔
      ∃ middle, Times relation first start middle ∧ Times relation second middle stop := by
  induction first generalizing start with
  | zero => simp only [Nat.zero_add, zero_iff, exists_eq_left']
  | succ count inductionHypothesis =>
    simp only [Nat.add_right_comm count 1 second, succ_iff, inductionHypothesis]
    constructor
    · rintro ⟨next, step, middle, before, after⟩
      exact ⟨middle, ⟨next, step, before⟩, after⟩
    · rintro ⟨middle, ⟨next, step, before⟩, after⟩
      exact ⟨next, step, middle, before, after⟩

/-- The relation leads forwards, and not behind the limit. -/
def Forward (relation : Nat → Nat → Prop) (limit : Nat) : Prop :=
  ∀ {start stop : Nat}, relation start stop → start ≤ stop ∧ stop ≤ max start limit

theorem forward {limit : Nat} (step : Forward relation limit) (count : Nat) :
    Forward (Times relation count) limit := by
  intro start stop times
  induction times with
  | zero position => omega
  | succ first rest inductionHypothesis =>
    have := step first
    omega

/-- Rounds that stay where they are can be left out, so the limit bounds how many it takes. -/
theorem exists_le_limit {limit : Nat} (step : Forward relation limit)
    (times : Times relation count start stop) :
    ∃ fewer, fewer ≤ count ∧ fewer ≤ limit ∧ Times relation fewer start stop := by
  have shorter : ∃ fewer, fewer ≤ count ∧ fewer ≤ stop - start ∧
      Times relation fewer start stop := by
    induction times with
    | zero position => exact ⟨0, Nat.le_refl _, Nat.zero_le _, .zero position⟩
    | @succ count start middle stop first rest inductionHypothesis =>
      obtain ⟨fewer, within, short, others⟩ := inductionHypothesis
      have onward := forward step count rest
      rcases Nat.eq_or_lt_of_le (step first).left with rfl | further
      · exact ⟨fewer, by omega, short, others⟩
      · exact ⟨fewer + 1, by omega, by omega, .succ first others⟩
  obtain ⟨fewer, within, short, others⟩ := shorter
  have onward := forward step count times
  exact ⟨fewer, within, by omega, others⟩

end Times

/-! ### What an expression takes -/

/-- The character before a position, with the one before the text given. -/
def characterBefore? (before : Option Char) (text : List Char) : Nat → Option Char
  | 0 => before
  | position + 1 => text[position]?

/-- The expression takes the text from one position to the other. Where the greatest count of a
repetition is below the least one, the least is both. -/
def Expr.Takes (text : List Char) : Expr → Nat → Nat → Prop
  | .empty, start, stop => start = stop
  | .literal characters, start, stop =>
    characters <+: text.drop start ∧ stop = start + characters.length
  | .set characters _, start, stop =>
    (∃ character, text[start]? = some character ∧ characters.contains character = true) ∧
      stop = start + 1
  | .look condition, start, stop =>
    (start ≤ text.length ∧
      condition.holds (characterBefore? none text start) text[start]? = true) ∧ stop = start
  | .group _ body, start, stop => body.Takes text start stop
  | .cat first second, start, stop =>
    ∃ middle, first.Takes text start middle ∧ second.Takes text middle stop
  | .alt first second, start, stop => first.Takes text start stop ∨ second.Takes text start stop
  | .repeated body least most _, start, stop =>
    ∃ count, (least ≤ count ∧ ∀ bound, most = some bound → count ≤ max least bound) ∧
      Times (body.Takes text) count start stop

namespace Expr

/-- An expression takes the text forwards, and nothing behind its end. -/
theorem forward_takes (text : List Char) (expression : Expr) :
    Times.Forward (expression.Takes text) text.length := by
  intro start stop takes
  induction expression generalizing start stop with
  | empty =>
    obtain rfl := takes
    omega
  | literal characters =>
    obtain ⟨front, rfl⟩ := takes
    have fits := front.length_le
    rw [List.length_drop] at fits
    omega
  | set characters ascii =>
    obtain ⟨⟨character, here, -⟩, rfl⟩ := takes
    obtain ⟨inside, -⟩ := List.getElem?_eq_some_iff.mp here
    omega
  | look condition =>
    obtain ⟨-, rfl⟩ := takes
    omega
  | group number body inductionHypothesis => exact inductionHypothesis takes
  | cat first second firstHypothesis secondHypothesis =>
    obtain ⟨middle, before, after⟩ := takes
    have := firstHypothesis before
    have := secondHypothesis after
    omega
  | alt first second firstHypothesis secondHypothesis =>
    exact takes.elim firstHypothesis secondHypothesis
  | repeated body least most greedy inductionHypothesis =>
    obtain ⟨count, -, times⟩ := takes
    exact Times.forward inductionHypothesis count times

end Expr

/-! ### Maps of positions -/

/-- The map takes every set of positions to all that the relation leads to from there. -/
def Carries (relation : Nat → Nat → Prop) (move : Positions → Positions) : Prop :=
  ∀ (starts : Positions) (stop : Nat), (move starts).testBit stop = true ↔
    ∃ start, starts.testBit start = true ∧ relation start stop

namespace Carries

variable {relation other : Nat → Nat → Prop} {move next : Positions → Positions}

theorem congr (carries : Carries relation move)
    (same : ∀ start stop, relation start stop ↔ other start stop) : Carries other move := by
  intro starts stop
  simp only [carries starts stop, same]

theorem refl : Carries Eq fun starts => starts := by
  intro starts stop
  simp only [exists_eq_right]

theorem stay (places : Positions) :
    Carries (fun start stop => places.testBit start = true ∧ stop = start)
      fun starts => starts &&& places := by
  intro starts stop
  rw [Nat.testBit_and, Bool.and_eq_true]
  constructor
  · rintro ⟨inside, place⟩
    exact ⟨stop, inside, place, rfl⟩
  · rintro ⟨start, inside, place, rfl⟩
    exact ⟨inside, place⟩

theorem advance (places : Positions) :
    Carries (fun start stop => places.testBit start = true ∧ stop = start + 1)
      fun starts => (starts &&& places) <<< 1 := by
  intro starts stop
  rw [Nat.testBit_shiftLeft, Nat.testBit_and]
  cases stop with
  | zero => simp
  | succ stop => simp

theorem comp (carries : Carries relation move) (carriesNext : Carries other next) :
    Carries (fun start stop => ∃ middle, relation start middle ∧ other middle stop)
      fun starts => next (move starts) := by
  intro starts stop
  simp only [carriesNext (move starts) stop, carries starts]
  constructor
  · rintro ⟨middle, ⟨start, inside, before⟩, after⟩
    exact ⟨start, inside, middle, before, after⟩
  · rintro ⟨start, inside, middle, before, after⟩
    exact ⟨middle, ⟨start, inside, before⟩, after⟩

theorem union (carries : Carries relation move) (carriesNext : Carries other next) :
    Carries (fun start stop => relation start stop ∨ other start stop)
      fun starts => move starts ||| next starts := by
  intro starts stop
  simp only [Nat.testBit_or, Bool.or_eq_true, carries starts stop, carriesNext starts stop,
    and_or_left, exists_or]

/-! ### Repeated maps -/

theorem iterate_eq (move : Positions → Positions) (count : Nat) (places : Positions) :
    Plan.iterate move count places = move^[count] places := by
  induction count generalizing places with
  | zero => rfl
  | succ count inductionHypothesis =>
    rw [Function.iterate_succ_apply]
    simp only [Plan.iterate]
    split
    · rename_i fixed
      rw [fixed, Function.iterate_fixed fixed]
    · exact inductionHypothesis (move places)

theorem power (carries : Carries relation move) (count : Nat) :
    Carries (Times relation count) move^[count] := by
  induction count with
  | zero => exact refl.congr fun start stop => Times.zero_iff.symm
  | succ count inductionHypothesis =>
    rw [Function.iterate_succ]
    exact (carries.comp inductionHypothesis).congr fun start stop => Times.succ_iff.symm

theorem iterate (carries : Carries relation move) (count : Nat) :
    Carries (Times relation count) (Plan.iterate move count) := by
  rw [funext (iterate_eq move count)]
  exact carries.power count

/-- All that the relation leads to from a position seen is seen, unless the position is among the
newest. -/
structure Frontier (relation : Nat → Nat → Prop) (seen newest : Positions) : Prop where
  includes : ∀ {position}, newest.testBit position = true → seen.testBit position = true
  closed : ∀ {start stop}, seen.testBit start = true → newest.testBit start = false →
    relation start stop → seen.testBit stop = true

/-- The position is seen, or reached from the newest ones in at most so many rounds. -/
def ReachedWithin (relation : Nat → Nat → Prop) (seen newest : Positions) (count stop : Nat) :
    Prop :=
  seen.testBit stop = true ∨ ∃ fewer, fewer ≤ count ∧
    ∃ start, newest.testBit start = true ∧ Times relation fewer start stop

variable {seen newest : Positions} {count start stop : Nat}

theorem Frontier.reachedWithin (frontier : Frontier relation seen newest)
    (inside : seen.testBit start = true) (times : Times relation count start stop) :
    ReachedWithin relation seen newest count stop := by
  induction times with
  | zero position => exact .inl inside
  | @succ count start middle stop first rest inductionHypothesis =>
    cases isNewest : newest.testBit start with
    | true => exact .inr ⟨count + 1, Nat.le_refl _, start, isNewest, .succ first rest⟩
    | false =>
      refine (inductionHypothesis (frontier.closed inside isNewest first)).imp_right ?_
      rintro ⟨fewer, within, others⟩
      exact ⟨fewer, Nat.le_succ_of_le within, others⟩

/-- What a round finds: the positions that it reaches and that are not seen yet. -/
theorem testBit_found (carries : Carries relation move) :
    ((move newest).without seen).testBit stop = true ↔
      (∃ start, newest.testBit start = true ∧ relation start stop) ∧
        seen.testBit stop = false := by
  rw [Positions.without, Nat.testBit_xor, Nat.testBit_and, ← carries newest stop]
  cases (move newest).testBit stop <;> cases seen.testBit stop <;> decide

theorem testBit_seen_or_found (carries : Carries relation move) :
    (seen ||| (move newest).without seen).testBit stop = true ↔
      seen.testBit stop = true ∨ ∃ start, newest.testBit start = true ∧ relation start stop := by
  rw [Nat.testBit_or, Bool.or_eq_true, testBit_found carries]
  cases seen.testBit stop <;> simp

/-- Behind a round, what it found is the newest of what is seen. -/
theorem Frontier.advance (frontier : Frontier relation seen newest)
    (carries : Carries relation move) :
    Frontier relation (seen ||| (move newest).without seen) ((move newest).without seen) where
  includes inside := by rw [Nat.testBit_or, inside, Bool.or_true]
  closed := by
    intro start stop inside notFound step
    rw [Nat.testBit_or, notFound, Bool.or_false] at inside
    rw [testBit_seen_or_found carries]
    cases isNewest : newest.testBit start with
    | false => exact .inl (frontier.closed inside isNewest step)
    | true => exact .inr ⟨start, isNewest, step⟩

theorem Frontier.reachedWithin_succ_iff (frontier : Frontier relation seen newest)
    (carries : Carries relation move) :
    ReachedWithin relation seen newest (count + 1) stop ↔
      ReachedWithin relation (seen ||| (move newest).without seen) ((move newest).without seen)
        count stop := by
  constructor
  · rintro (inside | ⟨fewer, within, start, isNewest, times⟩)
    · exact .inl ((testBit_seen_or_found carries).mpr (.inl inside))
    · cases times with
      | zero => exact .inl ((testBit_seen_or_found carries).mpr (.inl (frontier.includes isNewest)))
      | @succ fewer _ middle _ first rest =>
        have inside : (seen ||| (move newest).without seen).testBit middle = true :=
          (testBit_seen_or_found carries).mpr (.inr ⟨start, isNewest, first⟩)
        refine ((frontier.advance carries).reachedWithin inside rest).imp_right ?_
        rintro ⟨least, below, others⟩
        exact ⟨least, by omega, others⟩
  · rintro (inside | ⟨fewer, within, middle, isFound, times⟩)
    · rcases (testBit_seen_or_found carries).mp inside with inside | ⟨start, isNewest, step⟩
      · exact .inl inside
      · exact .inr ⟨1, by omega, start, isNewest, .succ step (.zero stop)⟩
    · obtain ⟨⟨start, isNewest, step⟩, -⟩ := (testBit_found carries).mp isFound
      exact .inr ⟨fewer + 1, by omega, start, isNewest, .succ step times⟩

theorem testBit_reach (carries : Carries relation move) (frontier : Frontier relation seen newest)
    (count stop : Nat) :
    (Plan.reach move count seen newest).testBit stop = true ↔
      ReachedWithin relation seen newest count stop := by
  induction count generalizing seen newest with
  | zero =>
    simp only [Plan.reach, ReachedWithin, Nat.le_zero, exists_eq_left, Times.zero_iff,
      exists_eq_right]
    exact ⟨.inl, fun inside => inside.elim (fun seen => seen) frontier.includes⟩
  | succ count inductionHypothesis =>
    rw [frontier.reachedWithin_succ_iff carries]
    simp only [Plan.reach]
    split
    · -- a round that finds nothing has seen all that any further one could reach
      rename_i noneFound
      simp [ReachedWithin, noneFound]
    · exact inductionHypothesis (frontier.advance carries)

theorem reach (carries : Carries relation move) (count : Nat) :
    Carries (fun start stop => ∃ fewer, fewer ≤ count ∧ Times relation fewer start stop)
      fun starts => Plan.reach move count starts starts := by
  intro starts stop
  have frontier : Frontier relation starts starts :=
    ⟨fun inside => inside, fun inside notNew => by rw [inside] at notNew; cases notNew⟩
  rw [testBit_reach carries frontier]
  constructor
  · rintro (inside | ⟨fewer, within, start, inside, times⟩)
    · exact ⟨stop, inside, 0, Nat.zero_le _, .zero stop⟩
    · exact ⟨start, inside, fewer, within, times⟩
  · rintro ⟨start, inside, fewer, within, times⟩
    exact .inr ⟨fewer, within, start, inside, times⟩

end Carries

/-! ### Plans -/

theorem testBit_ofList_map {α : Type} (items : List α) (test : α → Bool) (position : Nat) :
    (Positions.ofList (items.map test)).testBit position = true ↔
      ∃ item, items[position]? = some item ∧ test item = true := by
  rw [Positions.testBit_ofList, List.getD_eq_getElem?_getD, List.getElem?_map]
  cases items[position]? <;> simp

theorem getElem?_neighbours (before : Option Char) (text : List Char) (position : Nat)
    (pair : Option Char × Option Char) :
    (neighbours before text)[position]? = some pair ↔
      position ≤ text.length ∧ (characterBefore? before text position, text[position]?) = pair := by
  induction text generalizing before position with
  | nil => cases position <;> simp [neighbours, characterBefore?]
  | cons character rest inductionHypothesis =>
    cases position with
    | zero => simp [neighbours, characterBefore?]
    | succ position =>
      rw [neighbours, List.getElem?_cons_succ, inductionHypothesis]
      cases position <;> simp [characterBefore?]

theorem prefix_drop_cons_iff {text rest : List Char} {character : Char} {start : Nat} :
    character :: rest <+: text.drop start ↔
      text[start]? = some character ∧ rest <+: text.drop (start + 1) := by
  rw [← List.head?_drop, ← List.tail_drop]
  cases text.drop start with
  | nil => simp
  | cons first others => simp [List.cons_prefix_cons, eq_comm]

theorem Plan.carries_ofLiteral (text characters : List Char) :
    Carries ((Expr.literal characters).Takes text)
      ((Plan.ofLiteral text characters).ends text.length) := by
  induction characters with
  | nil => exact Carries.refl.congr fun start stop => by simp [Expr.Takes, eq_comm]
  | cons character rest inductionHypothesis =>
    refine ((Carries.advance _).comp inductionHypothesis).congr fun start stop => ?_
    simp only [testBit_ofList_map, Expr.Takes, prefix_drop_cons_iff, beq_iff_eq,
      exists_eq_right, List.length_cons]
    constructor
    · rintro ⟨middle, ⟨here, rfl⟩, behind, rfl⟩
      exact ⟨⟨here, behind⟩, by omega⟩
    · rintro ⟨⟨here, behind⟩, rfl⟩
      exact ⟨start + 1, ⟨here, rfl⟩, behind, by omega⟩

theorem Expr.carries_ends (text : List Char) (expression : Expr) :
    Carries (expression.Takes text) ((expression.plan text).ends text.length) := by
  induction expression with
  | empty => exact .refl
  | literal characters => exact Plan.carries_ofLiteral text characters
  | set characters ascii =>
    refine (Carries.advance _).congr fun start stop => ?_
    rw [testBit_ofList_map, Takes]
  | look condition =>
    refine (Carries.stay _).congr fun start stop => ?_
    refine and_congr_left' ?_
    rw [testBit_ofList_map]
    simp only [getElem?_neighbours]
    constructor
    · rintro ⟨pair, ⟨inside, rfl⟩, holds⟩
      exact ⟨inside, holds⟩
    · rintro ⟨inside, holds⟩
      exact ⟨_, ⟨inside, rfl⟩, holds⟩
  | group number body inductionHypothesis => exact inductionHypothesis
  | cat first second firstHypothesis secondHypothesis =>
    exact firstHypothesis.comp secondHypothesis
  | alt first second firstHypothesis secondHypothesis =>
    exact firstHypothesis.union secondHypothesis
  | repeated body least most greedy inductionHypothesis =>
    refine ((inductionHypothesis.iterate least).comp (inductionHypothesis.reach _)).congr
      fun start stop => ?_
    constructor
    · rintro ⟨middle, before, fewer, within, after⟩
      refine ⟨least + fewer, ⟨Nat.le_add_right _ _, ?_⟩, Times.add_iff.mpr ⟨middle, before, after⟩⟩
      rintro bound rfl
      have within : fewer ≤ min (bound - least) (text.length + 1) := within
      omega
    · rintro ⟨count, ⟨enough, bounded⟩, times⟩
      obtain ⟨more, rfl⟩ := Nat.exists_eq_add_of_le enough
      obtain ⟨middle, before, after⟩ := Times.add_iff.mp times
      obtain ⟨fewer, within, short, after⟩ := Times.exists_le_limit (forward_takes text body) after
      refine ⟨middle, before, fewer, ?_, after⟩
      cases most with
      | none => exact Nat.le_succ_of_le short
      | some bound =>
        have := bounded bound rfl
        exact Nat.le_min.mpr ⟨by omega, by omega⟩

namespace Positions

theorem testBit_below {count position : Nat} :
    (below count).testBit position = true ↔ position < count := by
  rw [below, Nat.pow_eq, Nat.testBit_two_pow_sub_one, decide_eq_true_eq]

theorem ne_zero_iff {places : Positions} : places ≠ 0 ↔ ∃ stop, places.testBit stop = true := by
  constructor
  · exact Nat.exists_testBit_of_ne_zero
  · rintro ⟨stop, inside⟩ rfl
    rw [Nat.zero_testBit] at inside
    cases inside

end Positions

/-- An expression occurs in a text exactly if it takes a part of it. -/
theorem Expr.occursIn_iff (expression : Expr) (text : String) :
    expression.occursIn text = true ↔
      ∃ start stop, start ≤ text.toList.length ∧ expression.Takes text.toList start stop := by
  rw [occursIn, bne_iff_ne, Positions.ne_zero_iff]
  refine (exists_congr fun stop => expression.carries_ends text.toList _ stop).trans ?_
  simp only [Positions.testBit_below, Nat.lt_succ_iff]
  exact exists_comm

end Gateway
