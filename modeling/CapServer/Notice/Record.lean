import CapServer.Failure
import CapServer.WordBytes

/-!
# Notification records

The process server tells a server about page faults, missing content and dead clients by records of
nine words: a magic number, a label, and seven arguments whose meaning hangs on the label.

* `Record.toBytes` and `Record.ofBytes` are the form a record has in memory;
* `Notice.record` puts a notice into a record and `Record.notice` reads it back, malformed unless
  the magic number and the label are known.
-/

namespace CapServer

/-- The kinds of notice. -/
inductive NoticeKind
  /-- A client faulted on a window this server backs. -/
  | fault
  /-- A page of a dataspace needs its first content. -/
  | content
  /-- A watched client died. -/
  | death
  deriving DecidableEq, Repr

namespace NoticeKind

/-- The label of a kind. -/
def label : NoticeKind → Word
  | fault => 0
  | content => 1
  | death => 2

/-- The kind a label stands for. -/
def ofLabel? (label : Word) : Option NoticeKind :=
  if label = 0 then some fault
  else if label = 1 then some content
  else if label = 2 then some death
  else none

theorem ofLabel?_eq_some_iff {label : Word} {kind : NoticeKind} :
    ofLabel? label = some kind ↔ label = kind.label := by
  refine ⟨fun h => ?_, fun h => by subst h; cases kind <;> rfl⟩
  unfold ofLabel? at h
  cases kind <;> grind [NoticeKind.label]

end NoticeKind

/-- A client faulted inside a window backed by this server. -/
structure FaultNotice where
  window : Word
  windowSize : Word
  /-- The faulting address. -/
  address : Word
  /-- Where in the window the fault lies. -/
  windowOffset : Word
  /-- An instruction was fetched, rather than data touched. -/
  instruction : Bool
  /-- The permission bits of the access. -/
  permission : Word
  /-- The program counter. -/
  counter : Word
  deriving DecidableEq, Repr

/-- Part of a dataspace needs its first content. -/
structure ContentNotice where
  dataspace : Word
  dataspaceOffset : Word
  windowOffset : Word
  deriving DecidableEq, Repr

/-- What the process server tells a server. -/
inductive Notice
  | fault (notice : FaultNotice)
  | content (notice : ContentNotice)
  /-- The client watched under this id died. -/
  | death (id : Word)
  deriving DecidableEq, Repr

/-- A notification record, whatever its words say. -/
structure Record where
  magic : Word
  label : Word
  args : Vector Word 7
  deriving DecidableEq, Repr

namespace Record

/-- The magic number every record starts with. -/
def goodMagic : Word := 0xB0BA11CE

/-- The arguments of a record. -/
def argCount : Nat := 7

/-- The bytes a record takes. -/
def size : Nat := (2 + argCount) * Word.width

/-- A record of a kind with these arguments. -/
def ofKind (kind : NoticeKind) (args : Vector Word 7) : Record := ⟨goodMagic, kind.label, args⟩

/-- The words of a record in order. -/
def words (r : Record) : List Word := r.magic :: r.label :: r.args.toList

/-- The bytes of a record. -/
def toBytes (r : Record) : List UInt8 := r.words.flatMap Word.toBytes

/-- The word at an index of a list of bytes. -/
def wordAt (bytes : List UInt8) (index : Nat) : Word :=
  Word.ofBytes (bytes.drop (index * Word.width))

/-- The record a list of bytes holds. The magic number is not looked at. -/
def ofBytes (bytes : List UInt8) : Record :=
  ⟨wordAt bytes 0, wordAt bytes 1, Vector.ofFn fun i => wordAt bytes (i + 2)⟩

/-- The notice in a record, malformed unless magic number and label are known. -/
def notice (r : Record) : Except Failure Notice :=
  if r.magic ≠ goodMagic then .error .malformed
  else
    match NoticeKind.ofLabel? r.label with
    | none => .error .malformed
    | some .fault => .ok (.fault {
        window := r.args[0]
        windowSize := r.args[1]
        address := r.args[2]
        windowOffset := r.args[3]
        instruction := r.args[4] != 0
        permission := r.args[5]
        counter := r.args[6] })
    | some .content => .ok (.content {
        dataspace := r.args[0]
        dataspaceOffset := r.args[1]
        windowOffset := r.args[2] })
    | some .death => .ok (.death r.args[0])

end Record

namespace Notice

/-- The record that carries a notice; arguments its kind does not use are zero. -/
def record : Notice → Record
  | fault n => .ofKind .fault #v[n.window, n.windowSize, n.address, n.windowOffset,
      if n.instruction then 1 else 0, n.permission, n.counter]
  | content n => .ofKind .content #v[n.dataspace, n.dataspaceOffset, n.windowOffset, 0, 0, 0, 0]
  | death id => .ofKind .death #v[id, 0, 0, 0, 0, 0, 0]

theorem notice_record (n : Notice) : n.record.notice = .ok n := by
  cases n with
  | fault f => rcases f with ⟨_, _, _, _, _ | _, _, _⟩ <;> rfl
  | content c => rfl
  | death id => rfl

end Notice

end CapServer
