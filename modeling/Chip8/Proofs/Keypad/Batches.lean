/-
# The last batch decides

A batch of host keys puts down all keys that it lists as pressed and then puts up all that it
lists as released. Of each key of the keypad it says at most one thing, which depends on
whether a host key for it is listed, and not on where or how often: a key whose host key is
released comes up, one whose host key is only pressed goes down, and all others stay as they
are.

Over a run of batches, each key is therefore as the last batch says that mentions it. The host
keys for different keys of the keypad are different, so that no batch reaches a key whose own
host key it does not list.
-/

import Chip8.Keypad
import Mathlib.Data.List.Forall2
import Mathlib.Data.List.Induction

namespace Chip8

/-! ## What lists of host keys name -/

namespace HostKey

/-- Whether one of some host keys stands for a key of the keypad. -/
def names (hostKeys : List HostKey) (key : Fin 16) : Bool :=
  hostKeys.any fun hostKey => hostKey.hexKey? == some key

theorem names_cons (hostKey : HostKey) (rest : List HostKey) (key : Fin 16) :
    names (hostKey :: rest) key = (hostKey.hexKey? == some key || names rest key) := rfl

/-- The host key for a key of the keypad. -/
def ofHexKey (key : Fin 16) : HostKey :=
  #v[x, digit1, digit2, digit3, q, w, e, a, s, d, z, c, digit4, r, f, v].get key

/-- A key has one host key and no other. -/
theorem hexKey?_eq_some_iff {hostKey : HostKey} {key : Fin 16} :
    hostKey.hexKey? = some key ↔ hostKey = ofHexKey key := by
  constructor
  · intro means
    cases hostKey with
    | escape | other name => cases means
    | _ =>
        obtain rfl := Option.some.inj means
        rfl
  · rintro rfl
    decide +revert

/-- A key is named by the lists that its host key is on. -/
theorem names_iff {hostKeys : List HostKey} {key : Fin 16} :
    names hostKeys key = true ↔ ofHexKey key ∈ hostKeys := by
  simp [names, hexKey?_eq_some_iff]

/-- Lists of host keys that differ in the order, in how often a host key is listed, and in host
keys that stand for nothing. -/
inductive Rearranged : List HostKey → List HostKey → Prop where
  | perm {hostKeys others : List HostKey} (permuted : hostKeys.Perm others) :
      Rearranged hostKeys others
  | duplicate {hostKey : HostKey} {hostKeys : List HostKey} (listed : hostKey ∈ hostKeys) :
      Rearranged hostKeys (hostKey :: hostKeys)
  | unmapped {hostKey : HostKey} {hostKeys : List HostKey} (nothing : hostKey.hexKey? = none) :
      Rearranged hostKeys (hostKey :: hostKeys)
  | symm {hostKeys others : List HostKey} (rearranged : Rearranged hostKeys others) :
      Rearranged others hostKeys
  | trans {hostKeys others more : List HostKey} (rearranged : Rearranged hostKeys others)
      (again : Rearranged others more) : Rearranged hostKeys more

/-- The same keys are named by a list and by each rearrangement. -/
theorem Rearranged.names_eq {hostKeys others : List HostKey}
    (rearranged : Rearranged hostKeys others) (key : Fin 16) :
    names hostKeys key = names others key := by
  rw [Bool.eq_iff_iff, names_iff, names_iff]
  induction rearranged with
  | perm permuted => exact permuted.mem_iff
  | @duplicate hostKey hostKeys listed =>
      rw [List.mem_cons, or_iff_right_of_imp]
      intro same
      exact same ▸ listed
  | @unmapped hostKey hostKeys nothing =>
      have other : ofHexKey key ≠ hostKey := by
        intro same
        rw [hexKey?_eq_some_iff.mpr same.symm] at nothing
        cases nothing
      rw [List.mem_cons, or_iff_right other]
  | symm _ ih => exact ih.symm
  | trans _ _ ih ih' => exact ih.trans ih'

end HostKey

/-! ## What a batch says -/

namespace KeyBatch

/-- Whether a batch lists the host key for a key as released. -/
def releases (batch : KeyBatch) (key : Fin 16) : Bool := HostKey.names batch.released key

/-- Whether a batch lists the host key for a key at all. -/
def mentions (batch : KeyBatch) (key : Fin 16) : Bool :=
  HostKey.names batch.pressed key || HostKey.names batch.released key

/-- The last of some batches that mentions a key. -/
def lastMention? (batches : List KeyBatch) (key : Fin 16) : Option KeyBatch :=
  (batches.filter (·.mentions key)).getLast?

/-- Batches whose lists are rearranged. -/
structure Rearranged (batch other : KeyBatch) : Prop where
  pressed : HostKey.Rearranged batch.pressed other.pressed
  released : HostKey.Rearranged batch.released other.released

theorem lastMention?_concat_of_mentions {batches : List KeyBatch} {batch : KeyBatch}
    {key : Fin 16} (mentioned : batch.mentions key = true) :
    lastMention? (batches ++ [batch]) key = some batch := by
  rw [lastMention?, List.filter_append, List.filter_singleton, mentioned, cond_true,
    List.getLast?_concat]

theorem lastMention?_concat_of_not {batches : List KeyBatch} {batch : KeyBatch} {key : Fin 16}
    (unmentioned : batch.mentions key = false) :
    lastMention? (batches ++ [batch]) key = lastMention? batches key := by
  rw [lastMention?, List.filter_append, List.filter_singleton, unmentioned, cond_false,
    List.append_nil, lastMention?]

end KeyBatch

/-! ## Batches for a keypad -/

namespace Keypad

variable (keypad : Keypad)

theorem isPressed_ofNat (key : Fin 16) :
    keypad.isPressed (.ofNat key.val) = .ok (keypad.keys.get key) := by
  have small : (UInt8.ofNat key.val).toNat = key.val := by
    rw [UInt8.toNat_ofNat']
    omega
  have named : Keypad.key (.ofNat key.val) = .ok key := by
    rw [Keypad.key, dif_pos (by omega)]
    exact congrArg Except.ok (Fin.ext small)
  rw [isPressed, named]
  rfl

theorem get_put (key other : Fin 16) (down : Bool) :
    (keypad.put key down).keys.get other = if other = key then down else keypad.keys.get other := by
  by_cases same : other = key
  · rw [if_pos same, same]
    exact Vector.getElem_set_self key.isLt
  · rw [if_neg same]
    exact Vector.getElem_set_ne key.isLt other.isLt fun number => same (Fin.ext number.symm)

/-- The keys that a list names are put down or up, and all others stay. -/
theorem get_putAll (hostKeys : List HostKey) (key : Fin 16) (down : Bool) :
    (keypad.putAll hostKeys down).keys.get key =
      if HostKey.names hostKeys key then down else keypad.keys.get key := by
  induction hostKeys generalizing keypad with
  | nil => rfl
  | cons hostKey rest ih =>
      rw [HostKey.names_cons]
      cases means : hostKey.hexKey? with
      | none =>
          have skipped : keypad.putAll (hostKey :: rest) down = keypad.putAll rest down := by
            rw [putAll, List.filterMap_cons_none means, putAll]
          rw [skipped, ih]
          rfl
      | some first =>
          have taken : keypad.putAll (hostKey :: rest) down =
              (keypad.put first down).putAll rest down := by
            rw [putAll, List.filterMap_cons_some means, List.foldl_cons, putAll]
          rw [taken, ih, get_put]
          by_cases here : key = first
          · simp [here]
          · have apart : (some first == some key) = false :=
              beq_eq_false_iff_ne.mpr fun same => here (Option.some.inj same).symm
            rw [if_neg here, apart, Bool.false_or]

/-- A batch puts a key up that it releases, and down if it only presses it. -/
theorem get_update (batch : KeyBatch) (key : Fin 16) :
    (keypad.update batch).keys.get key =
      if batch.mentions key then !batch.releases key else keypad.keys.get key := by
  rw [update, get_putAll, get_putAll, KeyBatch.mentions, KeyBatch.releases]
  cases HostKey.names batch.released key <;> cases HostKey.names batch.pressed key <;> rfl

variable {keypad}

theorem eq_of_get {other : Keypad} (same : ∀ key, keypad.keys.get key = other.keys.get key) :
    keypad = other := by
  obtain ⟨keys⟩ := keypad
  obtain ⟨keys'⟩ := other
  congr 1
  apply Vector.ext
  intro place small
  exact same ⟨place, small⟩

/-- The keypad behind some batches, of which the first comes first. -/
def updateAll (keypad : Keypad) (batches : List KeyBatch) : Keypad := batches.foldl update keypad

theorem updateAll_concat (batches : List KeyBatch) (batch : KeyBatch) :
    keypad.updateAll (batches ++ [batch]) = (keypad.updateAll batches).update batch := by
  rw [updateAll, List.foldl_concat, updateAll]

/-- Each key is as the last batch says that mentions it. -/
theorem get_updateAll (batches : List KeyBatch) (key : Fin 16) :
    (keypad.updateAll batches).keys.get key =
      match KeyBatch.lastMention? batches key with
      | some batch => !batch.releases key
      | none => keypad.keys.get key := by
  induction batches using List.reverseRecOn with
  | nil => rfl
  | append_singleton batches batch ih =>
      rw [updateAll_concat, get_update]
      cases mentioned : batch.mentions key with
      | true => rw [KeyBatch.lastMention?_concat_of_mentions mentioned, if_pos rfl]
      | false => rw [KeyBatch.lastMention?_concat_of_not mentioned, if_neg Bool.false_ne_true, ih]

/-- Rearranged batches say the same. -/
theorem update_of_rearranged {batch other : KeyBatch} (rearranged : batch.Rearranged other) :
    keypad.update batch = keypad.update other := by
  apply eq_of_get
  intro key
  rw [get_update, get_update, KeyBatch.mentions, KeyBatch.mentions, KeyBatch.releases,
    KeyBatch.releases, rearranged.pressed.names_eq, rearranged.released.names_eq]

theorem updateAll_of_rearranged {batches others : List KeyBatch}
    (rearranged : List.Forall₂ KeyBatch.Rearranged batches others) :
    keypad.updateAll batches = keypad.updateAll others := by
  induction rearranged generalizing keypad with
  | nil => rfl
  | @cons batch other batches others here _ ih =>
      change (keypad.update batch).updateAll batches = (keypad.update other).updateAll others
      rw [update_of_rearranged here, ih]

/-- Behind any batches, a key is down if and only if the last batch that mentions it does not
release it, and a key that is never mentioned is as it was. Rearranging the lists of the batches
changes nothing. No two host keys stand for the same key, and a batch that does not list the host
key for a key leaves that key alone. A batch that comes twice in a row has the same effect as
once. -/
theorem last_batch_decides (keypad : Keypad) (batches : List KeyBatch) :
    (∀ key : Fin 16, (keypad.updateAll batches).isPressed (.ofNat key.val) =
      match KeyBatch.lastMention? batches key with
      | some batch => .ok (!batch.releases key)
      | none => keypad.isPressed (.ofNat key.val)) ∧
    (∀ others, List.Forall₂ KeyBatch.Rearranged batches others →
      keypad.updateAll others = keypad.updateAll batches) ∧
    (∀ (hostKey other : HostKey) (key : Fin 16), hostKey.hexKey? = some key →
      other.hexKey? = some key → hostKey = other) ∧
    (∀ (batch : KeyBatch) (hostKey : HostKey) (key : Fin 16), hostKey.hexKey? = some key →
      hostKey ∉ batch.pressed → hostKey ∉ batch.released →
      (keypad.update batch).isPressed (.ofNat key.val) = keypad.isPressed (.ofNat key.val)) ∧
    ∀ batch : KeyBatch, (keypad.update batch).update batch = keypad.update batch := by
  refine ⟨?decided, ?rearranged, ?different, ?unaffected, ?repeated⟩
  case decided =>
    intro key
    rw [isPressed_ofNat, isPressed_ofNat, get_updateAll]
    cases KeyBatch.lastMention? batches key <;> rfl
  case rearranged =>
    intro others rearranged
    exact (updateAll_of_rearranged rearranged).symm
  case different =>
    intro hostKey other key means means'
    exact (HostKey.hexKey?_eq_some_iff.mp means).trans (HostKey.hexKey?_eq_some_iff.mp means').symm
  case unaffected =>
    intro batch hostKey key means unpressed unreleased
    obtain rfl := HostKey.hexKey?_eq_some_iff.mp means
    have unmentioned : batch.mentions key = false := by
      rw [← HostKey.names_iff, Bool.not_eq_true] at unpressed unreleased
      rw [KeyBatch.mentions, unpressed, unreleased, Bool.or_false]
    rw [isPressed_ofNat, isPressed_ofNat, get_update, unmentioned, if_neg Bool.false_ne_true]
  case repeated =>
    intro batch
    apply eq_of_get
    intro key
    rw [get_update, get_update]
    split <;> rfl

/-- One batch presses two keys and releases one of them, and the next mentions neither. -/
theorem last_batch_decides_on_release :
    let batches : List KeyBatch := [⟨[.w, .q], [.w]⟩, ⟨[.escape], []⟩]
    (allUp.updateAll batches).isPressed 5 = .ok false ∧
      (allUp.updateAll batches).isPressed 4 = .ok true :=
  ⟨(last_batch_decides allUp _).1 5, (last_batch_decides allUp _).1 4⟩

end Keypad

end Chip8
