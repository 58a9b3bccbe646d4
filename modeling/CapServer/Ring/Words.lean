import CapServer.Ring.Region

/-!
# A region as memory words

The words of a region's memory: the two cursors, then the payload, eight bytes a word. Memory is
handed out in whole words and never less than the two cursors, so it may be longer than the region.
-/

namespace CapServer

namespace Region

/-- The number of words a region of a size takes. -/
def wordCount (size : Nat) : Nat := max 2 ((size + Word.width - 1) / Word.width)

/-- The memory word at an index. -/
def word (r : Region) : Nat → Word
  | 0 => UInt64.ofNat r.start
  | 1 => UInt64.ofNat r.stop
  | i + 2 => Word.ofBytes (Payload.fetch r.payload (i * Word.width) Word.width)

/-- All memory words. -/
def words (r : Region) : List Word := (List.range (wordCount r.size)).map r.word

/-- Write a memory word. -/
def poke (r : Region) : Nat → Word → Region
  | 0, w => { r with start := w.toNat }
  | 1, w => { r with stop := w.toNat }
  | i + 2, w => { r with payload := Payload.store r.payload (i * Word.width) (Word.toBytes w) }

/-- The region over memory that starts with these words and is zero behind them. -/
def ofWords (size : Nat) (words : List Word) : Region :=
  ((words.take (wordCount size)).zipIdx).foldl (fun r (w, i) => r.poke i w) (zeroed size)

end Region

end CapServer
