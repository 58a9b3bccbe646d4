/-!
# Handles

The small integers that name things in a capability system, and their text.

A capability pointer is the index of a slot in its owner's capability space. A badge is the word
that the kernel delivers with every message sent through an endpoint capability minted with it,
so that a server can tell who is calling.
-/

namespace CapServer

/-- A machine word as it stands in a message payload or in shared memory. -/
abbrev Word := UInt64

/-- The number of values a machine word has. -/
def wordSize : Nat := UInt64.size

/-- The difference of two words. Below zero it goes on from the largest word down. -/
def wordSub (a b : Nat) : Nat := if b ≤ a then a - b else a + wordSize - b

theorem wordSub_of_le {a b : Nat} (h : b ≤ a) : wordSub a b = a - b := if_pos h

/-- The index of a slot in a capability space. -/
abbrev CapPtr := Nat

/-- The badge on an endpoint capability. -/
abbrev Badge := Nat

/-- An id handed out by an object table; zero is never issued. -/
abbrev ObjectId := Nat

/-- The id of a client session. -/
abbrev ClientId := ObjectId

/-- The id under which the process server announces one client's death. -/
abbrev DeathId := Nat

/-- A number in hexadecimal, lower case, behind its mark. -/
def hexText (n : Nat) : String :=
  "0x" ++ String.ofList (Nat.toDigits 16 n)

namespace CapPtr

/-- The null capability pointer. -/
def null : CapPtr := 0

def isNull (c : CapPtr) : Bool := c == null

def text (c : CapPtr) : String := "cptr:" ++ hexText c

/-- The text of a slot as its owner holds it. -/
def slotText (c : CapPtr) : String := "CSlot(" ++ hexText c ++ ")"

end CapPtr

namespace Badge

/-- The badge of an unbadged capability. -/
def none : Badge := 0

def text (b : Badge) : String := "badge:" ++ hexText b

end Badge

end CapServer
