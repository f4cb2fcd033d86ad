/-
# Buffers carry each sample once

A buffer is filled frame by frame, and each frame takes one sample from the source for all of its
channels. So the place of an element says which sample it carries, also in a last frame that is
cut short, and the source is asked once for each frame that has begun.

A buffer that ends with a whole frame leaves the source where the next buffer has to go on. Hence
it does not matter into how many buffers a stream is cut, as long as all but the last of them
consist of whole frames. A beeper that is asked for one buffer after the other is the case in
which the source is its tone.

Nothing is assumed about the source. How often it is asked is found out by counting.
-/

import Chip8.Proofs.Outcome
import Chip8.Sound.Beeper
import Mathlib.Algebra.GroupWithZero.Nat
import Mathlib.Data.List.Basic
import Mathlib.Tactic.Common

namespace Chip8

namespace Frames

variable {σ α γ : Type} (next : σ → α × σ)

/-! ## Samples of a source -/

/-- The source behind so many samples. -/
def sourceBehind (source : σ) : Nat → σ
  | 0 => source
  | count + 1 => sourceBehind (next source).2 count

/-- The sample that a source has behind so many others. -/
def sampleAt (source : σ) (number : Nat) : α := (next (sourceBehind next source number)).1

/-- A source that counts how often it was asked. -/
def counted (state : σ × Nat) : α × (σ × Nat) :=
  let (value, source) := next state.1
  (value, (source, state.2 + 1))

theorem sourceBehind_add (source : σ) (count more : Nat) :
    sourceBehind next source (count + more) =
      sourceBehind next (sourceBehind next source count) more := by
  induction count generalizing source with
  | zero => rw [Nat.zero_add, sourceBehind]
  | succ count ih => rw [Nat.succ_add, sourceBehind, sourceBehind, ih]

theorem sampleAt_add (source : σ) (count number : Nat) :
    sampleAt next source (count + number) =
      sampleAt next (sourceBehind next source count) number := by
  rw [sampleAt, sourceBehind_add, sampleAt]

theorem sourceBehind_counted (source : σ) (asked count : Nat) :
    sourceBehind (counted next) (source, asked) count =
      (sourceBehind next source count, asked + count) := by
  induction count generalizing source asked with
  | zero => rfl
  | succ count ih =>
      have later := ih (next source).2 (asked + 1)
      rw [Nat.add_right_comm] at later
      exact later

theorem sampleAt_counted (source : σ) (asked number : Nat) :
    sampleAt (counted next) (source, asked) number = sampleAt next source number := by
  rw [sampleAt, sourceBehind_counted]
  rfl

/-! ## Frames of a buffer -/

/-- How many frames begin in a buffer, of which the last may be cut short. -/
def frameCount (channels length : Nat) : Nat := (length + channels - 1) / channels

section Counting

variable {channels : Nat} (positive : 0 < channels)
include positive

theorem frameCount_zero : frameCount channels 0 = 0 :=
  Nat.div_eq_of_lt (by omega)

/-- Whole frames in front are counted apart. -/
theorem frameCount_add {first : Nat} (whole : channels ∣ first) (second : Nat) :
    frameCount channels (first + second) = first / channels + frameCount channels second := by
  obtain ⟨frames, rfl⟩ := whole
  have regroup : channels * frames + second + channels - 1 =
      channels * frames + (second + channels - 1) := by omega
  rw [frameCount, regroup, Nat.mul_add_div positive, Nat.mul_div_cancel_left _ positive, frameCount]

/-- One frame less remains behind the first. -/
theorem frameCount_of_pos {length : Nat} (some_left : length ≠ 0) :
    frameCount channels length = frameCount channels (length - channels) + 1 := by
  by_cases short : length < channels
  · have regroup : length + channels - 1 = length - 1 + channels := by omega
    rw [Nat.sub_eq_zero_of_le (Nat.le_of_lt short), frameCount_zero positive, frameCount, regroup,
      Nat.add_div_right _ positive, Nat.div_eq_of_lt (by omega)]
  · have split : length = channels + (length - channels) := by omega
    have counted := frameCount_add positive (Nat.dvd_refl channels) (length - channels)
    rw [← split, Nat.div_self positive, Nat.add_comm] at counted
    exact counted

/-- The first frame repeats the first value, and the frames behind it repeat the others. -/
theorem replicate_append_map_range (value : Nat → α) (length : Nat) :
    List.replicate (min channels length) (value 0) ++
        (List.range (length - channels)).map (fun place => value (place / channels + 1)) =
      (List.range length).map fun place => value (place / channels) := by
  apply List.ext_getElem?
  intro place
  rw [List.getElem?_append, List.length_replicate, List.getElem?_map, List.getElem?_map]
  by_cases first : place < min channels length
  · have frame : place / channels = 0 := Nat.div_eq_of_lt (by omega)
    rw [if_pos first, List.getElem?_replicate, if_pos first, List.getElem?_range (by omega),
      Option.map_some, frame]
  · rw [if_neg first]
    by_cases inside : place < length
    · have offset : place - min channels length = place - channels := by omega
      have frame : place / channels = (place - channels) / channels + 1 := by
        rw [← Nat.add_div_right _ positive, Nat.sub_add_cancel (by omega)]
      rw [offset, List.getElem?_range (by omega), List.getElem?_range inside, Option.map_some,
        Option.map_some, frame]
    · rw [List.getElem?_eq_none (by rw [List.length_range]; omega),
        List.getElem?_eq_none (by rw [List.length_range]; omega), Option.map_none, Option.map_none]

/-- The place of an element says which sample it carries, and the source has been asked once for
each frame. -/
theorem fillBuffer_eq (source : σ) (length : Nat) :
    fillBuffer next channels positive source length =
      ((List.range length).map fun place => sampleAt next source (place / channels),
        sourceBehind next source (frameCount channels length)) := by
  induction length using Nat.strongRecOn generalizing source with
  | ind length ih =>
      by_cases empty : length = 0
      · subst empty
        rw [fillBuffer, if_pos rfl, frameCount_zero positive]
        rfl
      · rw [fillBuffer, if_neg empty]
        dsimp only
        rw [ih (length - channels) (by omega), frameCount_of_pos positive empty]
        apply Prod.ext
        · exact replicate_append_map_range positive (sampleAt next source) length
        · rfl

/-- A buffer of whole frames and the one behind it are one buffer. -/
theorem fillBuffer_add {first : Nat} (whole : channels ∣ first) (source : σ) (second : Nat) :
    fillBuffer next channels positive source (first + second) =
      ((fillBuffer next channels positive source first).1 ++
          (fillBuffer next channels positive
            (fillBuffer next channels positive source first).2 second).1,
        (fillBuffer next channels positive
          (fillBuffer next channels positive source first).2 second).2) := by
  have behind : frameCount channels first = first / channels := by
    have counted := frameCount_add positive whole 0
    rwa [Nat.add_zero, frameCount_zero positive, Nat.add_zero] at counted
  have place_div (place : Nat) :
      (first + place) / channels = first / channels + place / channels := by
    obtain ⟨frames, rfl⟩ := whole
    rw [Nat.mul_add_div positive, Nat.mul_div_cancel_left _ positive]
  simp only [fillBuffer_eq]
  rw [behind, frameCount_add positive whole, sourceBehind_add, List.range_add, List.map_append,
    List.map_map]
  congr 2
  apply List.map_congr_left
  intro place _
  rw [Function.comp_apply, place_div, sampleAt_add]

end Counting

/-! ## Buffers in turn -/

/-- Ask for one buffer after the other, each time from where the last one ended. -/
def inTurn {β : Type} (request : β → Nat → Except Breach (List γ × β)) (state : β) :
    List Nat → Except Breach (List (List γ) × β)
  | [] => .ok ([], state)
  | length :: rest => do
      let (buffer, state) ← request state length
      let (buffers, state) ← inTurn request state rest
      return (buffer :: buffers, state)

/-- Requests that are answered through another state have the same buffers. -/
theorem inTurn_map {β β' : Type} (view : β → β')
    {request : β → Nat → Except Breach (List γ × β)}
    {request' : β' → Nat → Except Breach (List γ × β')}
    (same : ∀ state length,
      request' (view state) length = (request state length).map (Prod.map id view))
    (state : β) (lengths : List Nat) :
    inTurn request' (view state) lengths =
      (inTurn request state lengths).map (Prod.map id view) := by
  induction lengths generalizing state with
  | nil => rfl
  | cons length rest ih =>
      rw [inTurn, inTurn, same]
      cases request state length with
      | error breach => rfl
      | ok answer =>
          obtain ⟨buffer, behind⟩ := answer
          change (inTurn request' (view behind) rest >>= _) = _
          rw [ih]
          change _ = Except.map _ (inTurn request behind rest >>= _)
          cases inTurn request behind rest <;> rfl

/-- Fill a buffer with what becomes of the samples of a source. -/
def fillWith (convert : α → γ) (channels : Nat) (source : σ) (length : Nat) :
    Except Breach (List γ × σ) := do
  let (samples, source) ← fill next channels source length
  return (samples.map convert, source)

variable {convert : α → γ} {channels : Nat}

theorem fillWith_eq_ok (positive : 0 < channels) (source : σ) (length : Nat) :
    fillWith next convert channels source length =
      .ok ((fillBuffer next channels positive source length).1.map convert,
        (fillBuffer next channels positive source length).2) := by
  rw [fillWith, fill, dif_pos positive]
  rfl

/-- Buffers that are filled in turn are one long buffer, if all but the last consist of whole
frames. -/
theorem inTurn_fillWith (positive : 0 < channels) (source : σ) {lengths : List Nat}
    (whole : ∀ length ∈ lengths.dropLast, channels ∣ length) :
    ∃ buffers behind, inTurn (fillWith next convert channels) source lengths =
        .ok (buffers, behind) ∧
      fillWith next convert channels source lengths.sum = .ok (buffers.flatten, behind) := by
  induction lengths generalizing source with
  | nil =>
      refine ⟨[], source, rfl, ?_⟩
      rw [List.sum_nil, fillWith_eq_ok next positive, fillBuffer, if_pos rfl]
      rfl
  | cons length rest ih =>
      let filled := fillBuffer next channels positive source length
      have answered : fillWith next convert channels source length =
          .ok (filled.1.map convert, filled.2) := fillWith_eq_ok next positive source length
      cases rest with
      | nil =>
          refine ⟨[filled.1.map convert], filled.2, ?_, ?_⟩
          · rw [inTurn, answered]
            rfl
          · rw [List.sum_singleton, answered, List.flatten_singleton]
      | cons second more =>
          obtain ⟨here, later⟩ := List.forall_mem_cons.mp whole
          obtain ⟨buffers, behind, turns, long⟩ := ih filled.2 later
          refine ⟨filled.1.map convert :: buffers, behind, ?_, ?_⟩
          · rw [inTurn, answered, ok_bind]
            dsimp only
            rw [turns]
            rfl
          · rw [fillWith_eq_ok next positive, Except.ok.injEq, Prod.mk.injEq] at long
            rw [List.sum_cons, fillWith_eq_ok next positive, fillBuffer_add next positive here,
              List.map_append, List.flatten_cons, ← long.1, ← long.2]

end Frames

namespace Beeper

variable {σ : Type}

/-- What a device gets from a beeper is made from its tone. -/
theorem inTurn_pull (beeper : Beeper σ) (lengths : List Nat) :
    Frames.inTurn pull beeper lengths =
      (Frames.inTurn (Frames.fillWith Tone.next beeper.config.format.encode
          beeper.config.channels) beeper.tone lengths).map
        (Prod.map id fun tone => { beeper with tone }) := by
  let playing (tone : Tone) : Beeper σ := { beeper with tone }
  have same (tone : Tone) (length : Nat) : (playing tone).pull length =
      (Frames.fillWith Tone.next beeper.config.format.encode beeper.config.channels tone length).map
        (Prod.map id playing) := by
    rw [pull, Frames.fillWith]
    cases Frames.fill Tone.next beeper.config.channels tone length <;> rfl
  exact Frames.inTurn_map playing same beeper.tone lengths

end Beeper

namespace Frames

variable {σ α γ : Type} (next : σ → α × σ)

/-- A buffer is filled completely. Each of its elements is made from the sample that its place
names, the same for all channels of a frame, and the source is asked as many times as there are
frames, the last of which may be cut short. Buffers in turn, all but the last of whole frames, hold
what one buffer of their length does. What a beeper gives to its device are such buffers. -/
theorem buffers_carry_each_sample_once (convert : α → γ) {channels : Nat}
    (positive : 0 < channels) (source : σ) :
    (∀ length, ∃ buffer behind,
      fillWith next convert channels source length = .ok (buffer, behind) ∧
      fillWith (counted next) convert channels (source, 0) length =
        .ok (buffer, (behind, (length + channels - 1) / channels)) ∧
      buffer.length = length ∧
      ∀ place < length,
        buffer[place]? = some (convert (sampleAt next source (place / channels)))) ∧
    (∀ lengths, (∀ length ∈ lengths.dropLast, channels ∣ length) →
      ∃ buffers behind,
        inTurn (fillWith next convert channels) source lengths = .ok (buffers, behind) ∧
        fillWith next convert channels source lengths.sum = .ok (buffers.flatten, behind)) ∧
    ∀ {τ : Type} (beeper : Beeper τ) (lengths : List Nat),
      inTurn Beeper.pull beeper lengths =
        (inTurn (fillWith Tone.next beeper.config.format.encode beeper.config.channels)
          beeper.tone lengths).map (Prod.map id fun tone => { beeper with tone }) := by
  refine ⟨?each, fun _ => inTurn_fillWith next positive source, Beeper.inTurn_pull⟩
  intro length
  have filled := fillBuffer_eq next positive source length
  have counted_filled := fillBuffer_eq (counted next) positive (source, 0) length
  simp only [sampleAt_counted, sourceBehind_counted, Nat.zero_add] at counted_filled
  refine ⟨_, _, fillWith_eq_ok next positive source length, ?_, ?_, ?_⟩
  · rw [fillWith_eq_ok (counted next) positive, counted_filled, filled]
    rfl
  · rw [filled, List.length_map, List.length_map, List.length_range]
  · intro place inside
    rw [filled, List.map_map, List.getElem?_map, List.getElem?_range inside]
    rfl

/-- A buffer for two channels that ends with half a frame, from a source that counts up, and the
same behind a buffer of two whole frames. -/
theorem buffers_carry_each_sample_once_of_halves :
    let source (number : Nat) : Nat × Nat := (number, number + 1)
    0 < 2 ∧
      (∃ behind, fillWith source (10 * ·) 2 1 3 = .ok ([10, 10, 20], behind)) ∧
      ∃ buffers behind, inTurn (fillWith source (10 * ·) 2) 1 [4, 3] = .ok (buffers, behind) ∧
        fillWith source (10 * ·) 2 1 7 = .ok (buffers.flatten, behind) := by
  intro source
  have positive : 0 < 2 := Nat.two_pos
  obtain ⟨each, turns, -⟩ := buffers_carry_each_sample_once source (10 * ·) positive 1
  refine ⟨positive, ?_, turns [4, 3] (by decide)⟩
  obtain ⟨buffer, behind, filled, -, length_eq, elements⟩ := each 3
  obtain ⟨left, right, half, rfl⟩ := List.length_eq_three.mp length_eq
  have left_eq : left = 10 := Option.some.inj (elements 0 (by decide))
  have right_eq : right = 10 := Option.some.inj (elements 1 (by decide))
  have half_eq : half = 20 := Option.some.inj (elements 2 (by decide))
  rw [left_eq, right_eq, half_eq] at filled
  exact ⟨behind, filled⟩

end Frames

end Chip8
