import CapServer.Attempt
import CapServer.Handle

/-!
# Messages

What the kernel hands to a receiver: a label that says which method is meant, the badge of the
capability the message came through, the capabilities transferred with it, and payload words that
are consumed in the order they were appended.

`Message.unread_pop` and `Message.pop_eq_error_iff` say what consuming a word does.
-/

namespace CapServer

/-- A message together with the place up to which its payload was read. -/
structure Message where
  label : Nat
  badge : Badge
  /-- A bit mask of the transferred capabilities that the kernel turned into badges. -/
  capsUnwrapped : Nat
  caps : List CapPtr
  words : List Word
  /-- How many payload words were consumed. -/
  pos : Nat
  deriving DecidableEq, Repr

namespace Message

/-- An unbadged message without capabilities and payload. -/
def ofLabel (label : Nat) : Message := ⟨label, Badge.none, 0, [], [], 0⟩

/-- Attach one more capability. -/
def withCap (m : Message) (cap : CapPtr) : Message := { m with caps := m.caps ++ [cap] }

/-- Append a payload word. -/
def push (m : Message) (word : Word) : Message := { m with words := m.words ++ [word] }

/-- Append a signed payload word. -/
def pushSigned (m : Message) (value : Int64) : Message := m.push value.toUInt64

/-- The payload words not consumed yet. -/
def unread (m : Message) : List Word := m.words.drop m.pos

/-- How many payload words are left to consume. -/
def remaining (m : Message) : Nat := m.words.length - m.pos

/-- Start reading the payload from the front again. -/
def rewind (m : Message) : Message := { m with pos := 0 }

/-- Consume the next payload word; a message without one is malformed. -/
def pop : Attempt Message Word := fun m =>
  match m.words[m.pos]? with
  | some word => (.ok word, { m with pos := m.pos + 1 })
  | none => (.error .malformed, m)

/-- Consume the next payload word as a signed value. -/
def popSigned : Attempt Message Int64 := do return (← pop).toInt64

/-- Whether the message carries exactly `extra` capabilities and exactly those in `mask` were
turned into badges. -/
def carries (m : Message) (mask extra : Nat) : Bool :=
  m.capsUnwrapped == mask && m.caps.length == extra

theorem pop_eq_error_iff {m : Message} : (pop m).1 = .error .malformed ↔ m.remaining = 0 := by
  unfold pop remaining
  split
  · next h =>
    have := (List.getElem?_eq_some_iff.1 h).1
    simp only [reduceCtorEq, false_iff]
    omega
  · next h =>
    rw [List.getElem?_eq_none_iff] at h
    simp only [true_iff]
    omega

theorem unread_pop {m : Message} {word : Word} (h : (pop m).1 = .ok word) :
    m.unread = word :: (pop m).2.unread := by
  unfold pop at h ⊢
  split at h
  · next hw =>
    cases h
    simp only [unread]
    exact List.drop_eq_getElem?_toList_append.trans (by simp [hw])
  · cases h

end Message

end CapServer
