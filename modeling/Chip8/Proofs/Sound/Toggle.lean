/-
# The beeper and its stream

A stream can refuse to start and to halt, and a beeper cannot look at it. All that the beeper
has is a flag, which it sets when a request was met and leaves alone when it was refused. If a
stream that meets a request is in the state that was asked for, and one that refuses is in the
state in which it was, then the flag is right behind every request, provided that it was right
before. Hence the stream is asked only for what it does not do already, a request that was
refused is made again when the beeper is next asked for the same, and the requests that were
met alternate.

What a stream is asked for is written down on a tape around it. Which requests it refuses is
left open.
-/

import Chip8.Sound.Script
import Mathlib.Data.List.Chain

namespace Chip8

/-! ## Streams that do as they say -/

/-- An attempt to start or to halt a stream. -/
def AudioStream.toggle {σ : Type} [AudioStream σ] (stream : σ) (active : Bool) :
    σ × Except DeviceError Unit :=
  if active then AudioStream.play stream else AudioStream.pause stream

/-- A stream whose answers to attempts are true. -/
class LawfulStream (σ : Type) [AudioStream σ] where
  /-- Whether the stream plays. -/
  isPlaying : σ → Bool
  /-- An attempt that succeeds has brought about what was asked for. -/
  isPlaying_of_ok : ∀ stream active, (AudioStream.toggle stream active).2 = .ok () →
    isPlaying (AudioStream.toggle stream active).1 = active
  /-- An attempt that fails has changed nothing about that. -/
  isPlaying_of_error : ∀ stream active cause,
    (AudioStream.toggle stream active).2 = .error cause →
      isPlaying (AudioStream.toggle stream active).1 = isPlaying stream

namespace ScriptedStream

theorem toggle_eq (stream : ScriptedStream) (active : Bool) :
    AudioStream.toggle stream active = stream.attempt active := by
  cases active <;> rfl

instance : LawfulStream ScriptedStream where
  isPlaying := playing
  isPlaying_of_ok stream active succeeded := by
    rw [toggle_eq, attempt] at succeeded ⊢
    split at succeeded
    · rfl
    · cases succeeded
  isPlaying_of_error stream active cause failed := by
    rw [toggle_eq, attempt] at failed ⊢
    split at failed
    · cases failed
    · rfl

end ScriptedStream

/-! ## Tapes around streams -/

/-- An attempt to start or to halt a stream. -/
structure Toggle where
  /-- Whether the stream was to start. -/
  active : Bool
  /-- Whether the attempt succeeded. -/
  succeeded : Bool
  deriving DecidableEq

/-- A stream with a tape of the attempts to start and to halt it. -/
structure TapedStream (σ : Type) where
  /-- What the attempts are made on. -/
  stream : σ
  /-- The attempts, the oldest first. -/
  toggles : List Toggle

namespace TapedStream

variable {σ : Type}

/-- What was brought about by the attempts that succeeded. -/
def successes (tape : TapedStream σ) : List Bool :=
  (tape.toggles.filter Toggle.succeeded).map Toggle.active

variable [AudioStream σ]

instance : AudioStream (TapedStream σ) where
  play tape :=
    let (stream, result) := AudioStream.play tape.stream
    (⟨stream, tape.toggles ++ [⟨true, result.isOk⟩]⟩, result)
  pause tape :=
    let (stream, result) := AudioStream.pause tape.stream
    (⟨stream, tape.toggles ++ [⟨false, result.isOk⟩]⟩, result)

theorem toggle_eq (tape : TapedStream σ) (active : Bool) :
    AudioStream.toggle tape active =
      (⟨(AudioStream.toggle tape.stream active).1,
          tape.toggles ++ [⟨active, (AudioStream.toggle tape.stream active).2.isOk⟩]⟩,
        (AudioStream.toggle tape.stream active).2) := by
  cases active <;> rfl

instance [LawfulStream σ] : LawfulStream (TapedStream σ) where
  isPlaying tape := LawfulStream.isPlaying tape.stream
  isPlaying_of_ok tape active succeeded := by
    rw [toggle_eq] at succeeded ⊢
    exact LawfulStream.isPlaying_of_ok tape.stream active succeeded
  isPlaying_of_error tape active cause failed := by
    rw [toggle_eq] at failed ⊢
    exact LawfulStream.isPlaying_of_error tape.stream active cause failed

end TapedStream

/-- The device whose streams have tapes around them. -/
def OutputDevice.taped {σ : Type} (device : OutputDevice σ) : OutputDevice (TapedStream σ) where
  config := device.config
  build config := (device.build config).map (TapedStream.mk · [])

namespace Beeper

variable {σ : Type} [AudioStream σ]

/-! ## What a request does -/

section Request

variable {beeper : Beeper σ} {active : Bool}

theorem setActive_of_eq (done : active = beeper.playing) :
    beeper.setActive active = (beeper, []) :=
  if_pos done

theorem setActive_of_ne (undone : active ≠ beeper.playing) :
    beeper.setActive active =
      match AudioStream.toggle beeper.stream active with
      | (stream, .ok ()) => ({ beeper with stream, playing := active }, [])
      | (stream, .error cause) => ({ beeper with stream }, [.toggleFailed cause]) := by
  rw [setActive, if_neg undone, ← AudioStream.toggle]
  rcases AudioStream.toggle beeper.stream active with ⟨stream, _ | _⟩ <;> rfl

theorem setActive_of_ok (undone : active ≠ beeper.playing)
    (succeeded : (AudioStream.toggle beeper.stream active).2 = .ok ()) :
    (beeper.setActive active).1 =
      { beeper with stream := (AudioStream.toggle beeper.stream active).1, playing := active } := by
  rw [setActive_of_ne undone]
  rcases attempted : AudioStream.toggle beeper.stream active with ⟨stream, result⟩
  rw [attempted] at succeeded
  subst succeeded
  rfl

theorem setActive_of_error {cause : DeviceError} (undone : active ≠ beeper.playing)
    (failed : (AudioStream.toggle beeper.stream active).2 = .error cause) :
    (beeper.setActive active).1 =
      { beeper with stream := (AudioStream.toggle beeper.stream active).1 } := by
  rw [setActive_of_ne undone]
  rcases attempted : AudioStream.toggle beeper.stream active with ⟨stream, result⟩
  rw [attempted] at failed
  subst failed
  rfl

/-- The beeper behind some requests, of which the first comes first. -/
def setAll (beeper : Beeper σ) (requests : List Bool) : Beeper σ :=
  requests.foldl (fun beeper active => (beeper.setActive active).1) beeper

theorem setAll_concat (beeper : Beeper σ) (requests : List Bool) (active : Bool) :
    beeper.setAll (requests ++ [active]) = ((beeper.setAll requests).setActive active).1 :=
  List.foldl_concat _ _ _ _

/-- Requests for what the stream does already change nothing, however many there are. -/
theorem setAll_replicate (done : active = beeper.playing) (count : Nat) :
    beeper.setAll (List.replicate count active) = beeper := by
  induction count with
  | zero => rfl
  | succ count ih =>
      rw [List.replicate_succ', setAll_concat, ih, setActive_of_eq done]

end Request

/-! ## The flag -/

section Flag

variable [LawfulStream σ] {beeper : Beeper σ}

/-- The flag of a beeper says whether its stream plays. -/
def Informed (beeper : Beeper σ) : Prop := beeper.playing = LawfulStream.isPlaying beeper.stream

/-- A flag that was right before a request is right behind it. -/
theorem Informed.setActive (informed : beeper.Informed) (active : Bool) :
    (beeper.setActive active).1.Informed := by
  by_cases done : active = beeper.playing
  · rw [setActive_of_eq done]
    exact informed
  · cases attempted : (AudioStream.toggle beeper.stream active).2 with
    | ok =>
        rw [setActive_of_ok done attempted]
        exact (LawfulStream.isPlaying_of_ok _ _ attempted).symm
    | error cause =>
        rw [setActive_of_error done attempted]
        exact informed.trans (LawfulStream.isPlaying_of_error _ _ _ attempted).symm

end Flag

/-! ## Requests on a tape -/

section Tape

variable [LawfulStream σ] {beeper before after : Beeper (TapedStream σ)} {request : Bool}

/-- A request was dealt with. The flag is right, an attempt was made exactly if the stream did
not do already what was asked for, and it does so now unless the attempt failed. -/
structure Obeys (before after : Beeper (TapedStream σ)) (request : Bool) : Prop where
  informed : after.Informed
  attempts : ∃ made, after.stream.toggles = before.stream.toggles ++ made ∧
    made.map Toggle.active =
      (if request = LawfulStream.isPlaying before.stream then [] else [request]) ∧
    LawfulStream.isPlaying after.stream =
      if made.all Toggle.succeeded then request else LawfulStream.isPlaying before.stream

theorem Informed.obeys (informed : beeper.Informed) (request : Bool) :
    Obeys beeper (beeper.setActive request).1 request := by
  refine ⟨informed.setActive request, ?_⟩
  rw [← informed]
  by_cases done : request = beeper.playing
  · rw [setActive_of_eq done, if_pos done]
    exact ⟨[], (List.append_nil _).symm, rfl, informed.symm.trans done.symm⟩
  · rw [if_neg done]
    refine ⟨[⟨request, (AudioStream.toggle beeper.stream.stream request).2.isOk⟩], ?_⟩
    have toggled := beeper.stream.toggle_eq request
    cases attempted : (AudioStream.toggle beeper.stream.stream request).2 with
    | ok =>
        have succeeded : (AudioStream.toggle beeper.stream request).2 = .ok () := by
          rw [toggled, attempted]
        rw [setActive_of_ok done succeeded]
        refine ⟨?_, rfl, LawfulStream.isPlaying_of_ok _ _ succeeded⟩
        rw [toggled, attempted]
    | error cause =>
        have failed : (AudioStream.toggle beeper.stream request).2 = .error cause := by
          rw [toggled, attempted]
        rw [setActive_of_error done failed]
        refine ⟨?_, rfl, (LawfulStream.isPlaying_of_error _ _ _ failed).trans informed.symm⟩
        rw [toggled, attempted]

/-- A request that was refused is not made again as long as the opposite is asked for, which the
stream does already, but as soon as the same is asked for. -/
theorem Informed.retry (informed : beeper.Informed)
    (refused : (beeper.setActive request).1.stream.toggles =
      beeper.stream.toggles ++ [⟨request, false⟩]) (count : Nat) :
    let later := (beeper.setActive request).1.setAll (List.replicate count (!request))
    later.stream.toggles = (beeper.setActive request).1.stream.toggles ∧
      ∃ succeeded, (later.setActive request).1.stream.toggles =
        later.stream.toggles ++ [⟨request, succeeded⟩] := by
  obtain ⟨informed', made, toggles_eq, asked, state_eq⟩ := informed.obeys request
  obtain rfl : made = [⟨request, false⟩] := List.append_cancel_left (toggles_eq.symm.trans refused)
  have unchanged : LawfulStream.isPlaying (beeper.setActive request).1.stream =
      LawfulStream.isPlaying beeper.stream := state_eq
  have differs : request ≠ LawfulStream.isPlaying (beeper.setActive request).1.stream := by
    intro same
    rw [if_pos (same.trans unchanged)] at asked
    exact nomatch asked
  have halted : (!request) = (beeper.setActive request).1.playing := by
    rw [informed']
    exact Bool.not_eq.mpr differs
  rw [setAll_replicate halted count]
  refine ⟨rfl, ?_⟩
  obtain ⟨-, again, toggles_eq', asked', -⟩ := informed'.obeys request
  rw [if_neg differs] at asked'
  obtain ⟨⟨active, succeeded⟩, rfl, rfl⟩ := List.map_eq_singleton_iff.mp asked'
  exact ⟨succeeded, toggles_eq'⟩

/-- The attempts that succeeded are alternately to halt and to start, of which the first was to
halt, and the stream does what the last was for. -/
structure Alternating (tape : TapedStream σ) : Prop where
  chain : tape.successes.IsChain (· ≠ ·)
  first_eq : tape.successes.head? = some false
  last_eq : tape.successes.getLast? = some (LawfulStream.isPlaying tape)

theorem Alternating.of_obeys (alternating : Alternating before.stream)
    (obeys : Obeys before after request) : Alternating after.stream := by
  obtain ⟨chain, first_eq, last_eq⟩ := alternating
  obtain ⟨-, made, toggles_eq, asked, state_eq⟩ := obeys
  have successes_eq : after.stream.successes =
      before.stream.successes ++ (made.filter Toggle.succeeded).map Toggle.active := by
    rw [TapedStream.successes, toggles_eq, List.filter_append, List.map_append]
    rfl
  by_cases done : request = LawfulStream.isPlaying before.stream
  · rw [if_pos done, List.map_eq_nil_iff] at asked
    subst asked
    rw [List.filter_nil, List.map_nil, List.append_nil] at successes_eq
    refine ⟨successes_eq ▸ chain, successes_eq ▸ first_eq, ?_⟩
    rw [successes_eq, last_eq, state_eq, ← done]
    rfl
  · rw [if_neg done] at asked
    obtain ⟨⟨active, succeeded⟩, rfl, rfl⟩ := List.map_eq_singleton_iff.mp asked
    cases succeeded with
    | false =>
        have kept : after.stream.successes = before.stream.successes :=
          successes_eq.trans (List.append_nil _)
        refine ⟨kept ▸ chain, kept ▸ first_eq, ?_⟩
        rw [kept, last_eq, state_eq]
        rfl
    | true =>
        -- An attempt is for the opposite of what the stream does, and so of the last success.
        have grown : after.stream.successes = before.stream.successes ++ [active] := successes_eq
        refine ⟨?_, ?_, ?_⟩
        · rw [grown]
          refine chain.append (List.isChain_singleton _) ?_
          rintro last listed first ⟨⟩
          rw [last_eq] at listed
          obtain rfl := Option.mem_some.mp listed
          exact fun same => done same.symm
        · rw [grown, List.head?_append, first_eq]
          rfl
        · rw [grown, List.getLast?_concat, state_eq]
          rfl

/-- What holds behind one request holds behind any number of them. -/
theorem setAll_invariant (informed : beeper.Informed) (alternating : Alternating beeper.stream)
    (requests : List Bool) :
    (beeper.setAll requests).Informed ∧ Alternating (beeper.setAll requests).stream := by
  induction requests generalizing beeper with
  | nil => exact ⟨informed, alternating⟩
  | cons active rest ih =>
      have obeys := informed.obeys active
      exact ih obeys.informed (alternating.of_obeys obeys)

end Tape

/-! ## New beepers -/

/-- The beeper without the tape around its stream. -/
def untaped (beeper : Beeper (TapedStream σ)) : Beeper σ :=
  { beeper with stream := beeper.stream.stream }

/-- A beeper behaves the same with and without the tape. -/
theorem setActive_untaped (beeper : Beeper (TapedStream σ)) (active : Bool) :
    beeper.untaped.setActive active = (beeper.setActive active).map untaped id := by
  by_cases done : active = beeper.playing
  · rw [setActive_of_eq done]
    exact setActive_of_eq done
  · have undone : active ≠ beeper.untaped.playing := done
    rw [setActive_of_ne done, setActive_of_ne undone, TapedStream.toggle_eq]
    change (match AudioStream.toggle beeper.stream.stream active with
      | (stream, .ok ()) => _ | (stream, .error cause) => _) = _
    rcases AudioStream.toggle beeper.stream.stream active with ⟨stream, _ | _⟩ <;> rfl

theorem openOn_of_ok {device : OutputDevice σ} {format : StreamConfig} {stream : σ}
    (described : device.config = .ok format) (built : device.build format = .ok stream)
    (halted : (AudioStream.pause stream).2 = .ok ()) :
    openOn (some device) =
      ([.audioOutput format],
        .ok { stream := (AudioStream.pause stream).1, playing := false, config := format,
              tone := .start format.rate }) := by
  simp only [openOn, described, built, halted]

/-- The flag of a new beeper is right, if the stream could be halted at first. -/
theorem exists_openOn_taped [LawfulStream σ] {device : OutputDevice σ} {format : StreamConfig}
    {stream : σ} (described : device.config = .ok format)
    (built : device.build format = .ok stream)
    (halted : (AudioStream.pause stream).2 = .ok ()) :
    ∃ beeper, (openOn (some device.taped)).2 = .ok beeper ∧
      (openOn (some device)).2 = .ok beeper.untaped ∧ beeper.Informed ∧
      Alternating beeper.stream := by
  have silent : LawfulStream.isPlaying (AudioStream.pause stream).1 = false :=
    LawfulStream.isPlaying_of_ok stream false halted
  have described_taped : device.taped.config = .ok format := described
  have built_taped : device.taped.build format = .ok ⟨stream, []⟩ := by
    change (device.build format).map _ = _
    rw [built]
    rfl
  have halted_taped : (AudioStream.pause (TapedStream.mk stream [])).2 = .ok () := halted
  have toggles_eq : (AudioStream.pause (TapedStream.mk stream [])).1.toggles =
      [⟨false, (AudioStream.pause stream).2.isOk⟩] := rfl
  rw [openOn_of_ok described built halted,
    openOn_of_ok described_taped built_taped halted_taped]
  refine ⟨_, rfl, rfl, silent.symm, ?_⟩
  have successes_eq : (AudioStream.pause (TapedStream.mk stream [])).1.successes = [false] := by
    rw [TapedStream.successes, toggles_eq, halted]
    rfl
  refine ⟨?_, ?_, ?_⟩
  · rw [successes_eq]
    exact List.isChain_singleton _
  · rw [successes_eq]
    rfl
  · rw [successes_eq]
    exact congrArg some silent.symm

end Beeper

end Chip8
