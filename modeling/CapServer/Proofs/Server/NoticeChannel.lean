import CapServer.Proofs.Notice.Ring
import CapServer.Proofs.Server.Ownership

/-!
# From posting to handling

A writer posts records into the notification ring of a server, and the server drains it from time
to time. `Channel` keeps account of what was posted and what was taken out.

The unread records are those that were posted and not yet taken (`Channel.Holds`), however often the
ring was filled and emptied. `Server.Drains` says what a drain does with the records that it takes.
-/

namespace CapServer

variable {σ : Type}

/-! ## Draining -/

namespace Server

/-- The records that draining takes out of the ring, the oldest first. -/
def takenBy (svc : Service σ) : Nat → Server σ → List Record
  | 0, _ => []
  | fuel + 1, s =>
    match nextRecord s with
    | (.ok (some record), s) =>
      match record.notice with
      | .ok notice => record :: takenBy svc fuel (svc.onNotice notice s).2
      | .error _ => [record]
    | _ => []

/-- The records that a drain of the whole ring takes. -/
def taken (svc : Service σ) (s : Server σ) : List Record := takenBy svc s.drainBound s

/-- A drain that takes some records, of which it has handled a number before, and what it comes to.
Each record is handed to the handler of its kind, once; the drain ends when the ring is empty, or at
a record that is damaged. -/
inductive Drains (svc : Service σ) :
    Nat → Option Failure → Server σ → List Record → Except Failure Nat × Server σ → Prop
  | emptied {handled : Nat} {failure : Option Failure} {s s' : Server σ}
      (next : nextRecord s = (.ok none, s')) :
      Drains svc handled failure s [] (drainAnswer handled failure, s')
  | damaged {handled : Nat} {failure : Option Failure} {s s' : Server σ} {record : Record}
      {e : Failure} (next : nextRecord s = (.ok (some record), s'))
      (broken : record.notice = .error e) :
      Drains svc handled failure s [record] (.error e, s')
  | handed {handled : Nat} {failure : Option Failure} {s s' s'' : Server σ} {record : Record}
      {notice : Notice} {a : Except Failure Unit} {records : List Record}
      {r : Except Failure Nat × Server σ} (next : nextRecord s = (.ok (some record), s'))
      (sound : record.notice = .ok notice) (handler : svc.onNotice notice s' = (a, s''))
      (rest : Drains svc (handled + 1) (firstFailure failure a) s'' records r) :
      Drains svc handled failure s (record :: records) r

/-! ## A ring with records -/

/-- The shared memory around a server. -/
abbrev memory (s : Server σ) : Memory := memoryPart.get s

/-- The notification ring of a server holds just some records, and the server will read the oldest
one next. -/
structure Unread (s : Server σ) (ring : RegionId) (capacity : Nat) (records : List Record) :
    Prop where
  notices : ∃ dataspace, s.notices = some ⟨dataspace, .attach s.memory ring⟩
  queues : (s.memory.region ring).Queues capacity (Record.bytes records)

namespace Unread

variable {s s' : Server σ} {ring : RegionId} {capacity : Nat} {record : Record}
  {records : List Record}

theorem length_lt (h : s.Unread ring capacity records) : records.length < s.drainBound := by
  obtain ⟨dataspace, hnotices⟩ := h.notices
  rw [drainBound, hnotices]
  exact Nat.lt_succ_of_le (Record.length_le_size h.queues)

/-- What leaves the ring and the place in it alone. -/
theorem congr (h : s.Unread ring capacity records) (hnotices : s'.notices = s.notices)
    (hregion : s'.memory.region ring = s.memory.region ring) :
    s'.Unread ring capacity records := by
  obtain ⟨dataspace, hbuffer⟩ := h.notices
  refine ⟨⟨dataspace, ?_⟩, ?_⟩
  · rw [hnotices, hbuffer, Reader.attach, Reader.attach, hregion]
  · rw [hregion]
    exact h.queues

theorem nextRecord_nil (h : s.Unread ring capacity []) :
    ∃ s', nextRecord s = (.ok none, s') ∧ s'.Unread ring capacity [] ∧
      Writer.attach s'.memory ring = .attach s.memory ring := by
  obtain ⟨⟨dataspace, hnotices⟩, hqueues⟩ := h
  obtain ⟨r, hread, hr, hwriter⟩ := Reader.readExact_attach_nil hqueues
  exact ⟨_, nextRecord_eq hnotices hread, ⟨⟨dataspace, rfl⟩, hr⟩, hwriter⟩

/-- The oldest record is found, as it was posted, and taken out. -/
theorem nextRecord_cons (h : s.Unread ring capacity (record :: records)) :
    ∃ s', nextRecord s = (.ok (some record), s') ∧ s'.Unread ring capacity records ∧
      Writer.attach s'.memory ring = .attach s.memory ring := by
  obtain ⟨⟨dataspace, hnotices⟩, hqueues⟩ := h
  rw [Record.bytes_cons] at hqueues
  obtain ⟨r, hread, hr, hwriter⟩ := Reader.readExact_attach_cons hqueues
  have hnext := nextRecord_eq hnotices hread
  rw [record.ofBytes_toBytes] at hnext
  exact ⟨_, hnext, ⟨⟨dataspace, rfl⟩, hr⟩, hwriter⟩

end Unread

end Server

/-! ## Handlers that leave the ring alone -/

/-- No handler touches a ring, nor the server's place in it. -/
def Service.Spares (svc : Service σ) (ring : RegionId) : Prop :=
  ∀ notice s, (svc.onNotice notice s).2.notices = s.notices ∧
    (svc.onNotice notice s).2.memory.region ring = s.memory.region ring

theorem Service.basic_spares (p : Platform (World σ)) (ring : RegionId) :
    (basic p).Spares ring := by
  intro notice s
  rw [Server.settle_onNotice]
  rcases Server.announced notice with _ | death
  · exact ⟨rfl, rfl⟩
  · obtain ⟨clients, hclients, -⟩ := Server.queueDeath_spec s death
    rw [Option.elim_some, hclients]
    exact ⟨rfl, rfl⟩

namespace Server

variable {s : Server σ} {ring : RegionId} {capacity : Nat} {records : List Record}

/-- A drain takes the oldest records, and leaves the younger ones if it meets a damaged one. -/
theorem Unread.drains {svc : Service σ} (hsvc : svc.Spares ring)
    (h : s.Unread ring capacity records) {fuel : Nat} (hfuel : records.length < fuel)
    (handled : Nat) (failure : Option Failure) :
    Drains svc handled failure s (takenBy svc fuel s) (drain svc fuel handled failure s) ∧
      ∃ left, records = takenBy svc fuel s ++ left ∧
        (drain svc fuel handled failure s).2.Unread ring capacity left ∧
        Writer.attach (drain svc fuel handled failure s).2.memory ring =
          .attach s.memory ring := by
  obtain ⟨fuel, rfl⟩ := Nat.exists_eq_succ_of_ne_zero (Nat.ne_zero_of_lt hfuel)
  induction records generalizing s fuel handled failure with
  | nil =>
    obtain ⟨s', hnext, hs', hwriter⟩ := h.nextRecord_nil
    rw [drain_emptied svc fuel handled failure hnext, takenBy, hnext]
    exact ⟨.emptied hnext, [], rfl, hs', hwriter⟩
  | cons record records ih =>
    obtain ⟨s', hnext, hs', hwriter⟩ := h.nextRecord_cons
    rcases hnotice : record.notice with e | notice
    · have htaken : takenBy svc (fuel + 1) s = [record] := by
        simp only [takenBy, hnext, hnotice]
      rw [drain_damaged svc fuel handled failure hnext hnotice, htaken]
      exact ⟨.damaged hnext hnotice, records, rfl, hs', hwriter⟩
    · have htaken : takenBy svc (fuel + 1) s =
          record :: takenBy svc fuel (svc.onNotice notice s').2 := by
        simp only [takenBy, hnext, hnotice]
      rw [drain_handed svc fuel handled failure hnext hnotice, htaken]
      obtain ⟨hsame, hregion⟩ := hsvc notice s'
      obtain ⟨fuel, rfl⟩ := Nat.exists_eq_succ_of_ne_zero
        (Nat.ne_zero_of_lt (Nat.lt_of_succ_lt_succ hfuel))
      obtain ⟨hrest, left, hleft, hafter, hwriter'⟩ := ih (hs'.congr hsame hregion)
        (handled + 1) (firstFailure failure (svc.onNotice notice s').1) fuel
        (Nat.lt_of_succ_lt_succ hfuel)
      refine ⟨.handed hnext hnotice rfl hrest, left, congrArg (record :: ·) hleft, hafter, ?_⟩
      rw [hwriter', ← hwriter, Writer.attach, Writer.attach, hregion]

end Server

/-! ## Channels -/

/-- A server and the one that posts to it, beside the records that were accepted from the one and
those that were taken by the other, the oldest first. -/
structure Channel (σ : Type) where
  server : Server σ
  writer : Writer
  accepted : List Record
  taken : List Record

namespace Channel

/-- A writer is attached to the ring of a server. -/
def attach (s : Server σ) (ring : RegionId) : Channel σ := ⟨s, .attach s.memory ring, [], []⟩

/-- What the writer can do. -/
inductive Posting
  | post (notice : Notice)
  | postRecord (record : Record)

namespace Posting

/-- The record that is to be posted. -/
def record : Posting → Record
  | post notice => notice.record
  | postRecord record => record

/-- How the writer posts it. -/
def perform : Posting → Attempt (Writer × Memory) Unit
  | post notice => Writer.post notice
  | postRecord record => Writer.postRecord record

theorem perform_eq (posting : Posting) : posting.perform = Writer.postRecord posting.record := by
  cases posting <;> rfl

end Posting

/-- Something is posted. -/
def post (posting : Posting) (c : Channel σ) : Except Failure Unit × Channel σ :=
  let (a, w, m) := posting.perform (c.writer, c.server.memory)
  (a, { c with
    server := Server.memoryPart.set m c.server
    writer := w
    accepted := c.accepted ++ if a.toBool then [posting.record] else [] })

/-- The server drains the ring. -/
def dispatch (svc : Service σ) (c : Channel σ) : Except Failure Nat × Channel σ :=
  let (a, s) := Server.drainNotices svc c.server
  (a, { c with server := s, taken := c.taken ++ c.server.taken svc })

/-- What happens at a channel. -/
inductive Call (σ : Type)
  | post (posting : Posting)
  | dispatch (svc : Service σ)

def step (c : Channel σ) : Call σ → Channel σ
  | .post posting => (c.post posting).2
  | .dispatch svc => (c.dispatch svc).2

/-- The channel after one call after the other. -/
def run (c : Channel σ) (calls : List (Call σ)) : Channel σ := calls.foldl step c

/-- What was accepted and not yet taken is in the ring, in this order, and nothing else; the writer
is as one attached just now. -/
structure Holds (c : Channel σ) (ring : RegionId) (capacity : Nat) (unread : List Record) :
    Prop where
  accepted_eq : c.accepted = c.taken ++ unread
  unread : c.server.Unread ring capacity unread
  writer_eq : c.writer = .attach c.server.memory ring

namespace Holds

variable {c : Channel σ} {ring : RegionId} {capacity : Nat} {unread : List Record}

/-- The bytes that are free. -/
theorem remaining (h : c.Holds ring capacity unread) :
    c.writer.remaining c.server.memory = .ok (capacity - 1 - (Record.bytes unread).length) := by
  rw [h.writer_eq]
  exact h.unread.queues.remaining_eq

/-- A record that fits is accepted, behind the others. -/
theorem post (h : c.Holds ring capacity unread) (posting : Posting)
    (hfits : Record.size ≤ capacity - 1 - (Record.bytes unread).length) :
    ∃ c', c.post posting = (.ok (), c') ∧ c'.accepted = c.accepted ++ [posting.record] ∧
      c'.Holds ring capacity (unread ++ [posting.record]) := by
  obtain ⟨dataspace, hnotices⟩ := h.unread.notices
  rw [← posting.record.length_toBytes] at hfits
  obtain ⟨r, hwrite, hr, hreader⟩ := Writer.write_attach h.unread.queues hfits
  refine ⟨⟨Server.memoryPart.set (c.server.memory.put ring r) c.server,
    .attach (c.server.memory.put ring r) ring, c.accepted ++ [posting.record], c.taken⟩, ?_, rfl, ?_,
    ⟨⟨dataspace, ?_⟩, ?_⟩, rfl⟩
  · simp only [Channel.post, posting.perform_eq, Writer.postRecord, h.writer_eq, hwrite]
    rfl
  · rw [h.accepted_eq, List.append_assoc]
  · rw [← hreader] at hnotices
    exact hnotices
  · rw [Record.bytes_append]
    exact hr

/-- A record that does not fit is refused, and nothing changes. -/
theorem post_refused (h : c.Holds ring capacity unread) (posting : Posting)
    (hfull : capacity - 1 - (Record.bytes unread).length < Record.size) :
    c.post posting = (.error .resourceExhausted, c) := by
  rw [← posting.record.length_toBytes] at hfull
  have hwrite := Writer.write_attach_refused h.unread.queues hfull
  rw [← h.writer_eq] at hwrite
  simp only [Channel.post, posting.perform_eq, Writer.postRecord, hwrite]
  rw [Except.toBool, if_neg Bool.false_ne_true, List.append_nil]
  rfl

/-- A drain takes the oldest of the unread records. -/
theorem dispatch (h : c.Holds ring capacity unread) {svc : Service σ} (hsvc : svc.Spares ring) :
    ∃ left, unread = c.server.taken svc ++ left ∧ (c.dispatch svc).2.Holds ring capacity left ∧
      Server.Drains svc 0 none c.server (c.server.taken svc)
        (Server.drainNotices svc c.server) := by
  obtain ⟨hdrains, left, hleft, hafter, hwriter⟩ :=
    h.unread.drains hsvc h.unread.length_lt 0 none
  refine ⟨left, hleft, ⟨?_, hafter, h.writer_eq.trans hwriter.symm⟩, hdrains⟩
  show c.accepted = c.taken ++ c.server.taken svc ++ left
  rw [h.accepted_eq, List.append_assoc]
  exact congrArg (c.taken ++ ·) hleft

/-- The account is kept, whatever happens. -/
theorem step (h : c.Holds ring capacity unread) {call : Call σ}
    (hcall : ∀ svc, call = .dispatch svc → svc.Spares ring) :
    ∃ unread', (c.step call).Holds ring capacity unread' := by
  cases call with
  | post posting =>
    by_cases hfits : Record.size ≤ capacity - 1 - (Record.bytes unread).length
    · obtain ⟨c', hpost, -, hc'⟩ := h.post posting hfits
      exact ⟨unread ++ [posting.record], by rwa [Channel.step, hpost]⟩
    · rw [Channel.step, h.post_refused posting (Nat.lt_of_not_le hfits)]
      exact ⟨unread, h⟩
  | dispatch svc =>
    obtain ⟨left, -, hleft, -⟩ := h.dispatch (hcall svc rfl)
    exact ⟨left, hleft⟩

theorem run (h : c.Holds ring capacity unread) {calls : List (Call σ)}
    (hcalls : ∀ svc, .dispatch svc ∈ calls → svc.Spares ring) :
    ∃ unread', (c.run calls).Holds ring capacity unread' := by
  induction calls generalizing c unread with
  | nil => exact ⟨unread, h⟩
  | cons call calls ih =>
    obtain ⟨unread', hstep⟩ := h.step fun svc hsvc => hcalls svc (hsvc ▸ List.mem_cons_self)
    exact ih hstep fun svc hsvc => hcalls svc (List.mem_cons_of_mem _ hsvc)

end Holds

/-- **Every record that is posted is handled once and in order.** Take a server whose notification
ring is empty, wherever its cursors are, one writer attached to it, and handlers that leave the ring
alone. However posting and draining follow each other, what was taken out of the ring is the
beginning of what was accepted, and the rest of that is in the ring. A record is refused if and only
if it does not fit into the free bytes, and then nothing changes; what it says is read back from it.
A drain takes the oldest records as they were posted, and hands each to the handler of its kind. -/
theorem notices_delivered (s : Server σ) (ring : RegionId) (capacity : Nat) {dataspace : CapPtr}
    (hnotices : s.notices = some ⟨dataspace, .attach s.memory ring⟩)
    (hsize : (s.memory.region ring).size = Region.metadataSize + capacity)
    (hstart : (s.memory.region ring).start < capacity)
    (hstop : (s.memory.region ring).stop = (s.memory.region ring).start) (calls : List (Call σ))
    (hspares : ∀ svc, .dispatch svc ∈ calls → svc.Spares ring) :
    let c := (attach s ring).run calls
    ∃ unread free, c.accepted = c.taken ++ unread ∧
      (c.server.memory.region ring).Queues capacity (Record.bytes unread) ∧
      c.writer.remaining c.server.memory = .ok free ∧
      (∀ posting, if free < Record.size then c.post posting = (.error .resourceExhausted, c)
        else (c.post posting).1 = .ok () ∧
          (c.post posting).2.accepted = c.accepted ++ [posting.record]) ∧
      (∀ notice, (Posting.post notice).record.notice = .ok notice) ∧
      ∀ svc : Service σ, svc.Spares ring → c.server.taken svc <+: unread ∧
        Server.Drains svc 0 none c.server (c.server.taken svc)
          (Server.drainNotices svc c.server) := by
  intro c
  have hattach : (attach s ring).Holds ring capacity [] :=
    ⟨rfl, ⟨⟨dataspace, hnotices⟩, Region.queues_empty hsize hstart hstop⟩, rfl⟩
  obtain ⟨unread, hc⟩ := hattach.run hspares
  refine ⟨unread, _, hc.accepted_eq, hc.unread.queues, hc.remaining, fun posting => ?_,
    Notice.notice_record, fun svc hsvc => ?_⟩
  · split
    · next hfull => exact hc.post_refused posting hfull
    · next hfits =>
      obtain ⟨c', hpost, haccepted, -⟩ := hc.post posting (Nat.le_of_not_lt hfits)
      rw [hpost]
      exact ⟨rfl, haccepted⟩
  · obtain ⟨left, hleft, -, hdrains⟩ := hc.dispatch hsvc
    exact ⟨⟨left, hleft.symm⟩, hdrains⟩

/-- A ring of a hundred bytes that was read and written before. -/
def sampleRing : Region := { Region.zeroed 116 with start := 60, stop := 60 }

/-- A server that has this ring and nothing else. -/
def sampleListener : Server (Machine Unit) where
  config := Server.sampleConfig
  caps := ⟨Server.sampleCaps.slots, ⟨⟨[sampleRing]⟩, .fresh ()⟩⟩
  anonEp := 0x100
  notifyAsyncEp := 0x101
  notifyEp := 0x102
  notices := some ⟨0x103, .attach ⟨[sampleRing]⟩ 0⟩
  paramBuffer := none
  clients := none

/-- A death is posted, a second one does not fit; a damaged record comes after a drain. -/
def samplePostings : List (Call (Machine Unit)) :=
  [.post (.post (.death 1)), .post (.post (.death 2)), .dispatch (.basic Machine.platform),
    .post (.postRecord ⟨0, 0, Vector.replicate 7 0⟩), .dispatch (.basic Machine.platform)]

/-- Two records are accepted and taken, and both of them pass around the end of the ring. -/
theorem notices_delivered_around_the_end :
    let c := (attach sampleListener 0).run samplePostings
    (∃ unread, c.accepted = c.taken ++ unread) ∧ c.accepted.length = 2 ∧ c.taken.length = 2 := by
  obtain ⟨unread, -, haccepted, -⟩ := notices_delivered sampleListener 0 100 rfl rfl (by decide)
    rfl samplePostings fun svc hsvc => by
      have hbasic : svc = .basic Machine.platform := by
        simpa [samplePostings] using hsvc
      rw [hbasic]
      exact Service.basic_spares Machine.platform 0
  exact ⟨⟨unread, haccepted⟩, by decide +kernel, by decide +kernel⟩

end Channel

end CapServer
