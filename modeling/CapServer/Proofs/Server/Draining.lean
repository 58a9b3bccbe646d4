import CapServer.Proofs.ClientTable.Queue
import CapServer.Proofs.Ring.Contained
import CapServer.Proofs.Server.NoticeChannel

/-!
# What a drain comes to

`Server.Drains` follows a drain record by record. Here the whole of it is told beforehand, from the
records in the ring and the sessions there are, for a server that knows only the connection protocol
(`Server.drained_in_order`).

A drain consumes the records up to the first one that is not known, that one included. Of the known
ones it queues the sessions they name, behind those that are queued already. Which session a death
names, and whether a handler fails, hangs on the sessions and not on the queue, so both can be told
from the table as it was when the drain began.
-/

namespace CapServer

variable {σ : Type}

/-! ## Records in a row -/

namespace Record

/-- The notices that some records carry. -/
def notices (records : List Record) : List Notice :=
  records.filterMap fun r => r.notice.toOption

theorem notices_cons_of_ok {r : Record} {n : Notice} (h : r.notice = .ok n)
    (records : List Record) : notices (r :: records) = n :: notices records := by
  rw [notices, List.filterMap_cons, h]
  rfl

theorem notices_cons_of_error {r : Record} {e : Failure} (h : r.notice = .error e)
    (records : List Record) : notices (r :: records) = notices records := by
  rw [notices, List.filterMap_cons, h]
  rfl

/-- The records that a drain takes: the known ones in front, and one behind them. -/
def upToUnknown (records : List Record) : List Record :=
  records.takeWhile isKnown ++ (records.dropWhile isKnown).take 1

theorem upToUnknown_cons_of_ok {r : Record} {n : Notice} (h : r.notice = .ok n)
    (records : List Record) : upToUnknown (r :: records) = r :: upToUnknown records := by
  have hknown := isKnown_of_notice h
  rw [upToUnknown, List.takeWhile_cons_of_pos hknown, List.dropWhile_cons_of_pos hknown]
  rfl

theorem upToUnknown_cons_of_error {r : Record} {e : Failure} (h : r.notice = .error e)
    (records : List Record) : upToUnknown (r :: records) = [r] := by
  have hunknown : ¬ r.isKnown = true := by simp [(malformed_of_notice h).1]
  rw [upToUnknown, List.takeWhile_cons_of_neg hunknown, List.dropWhile_cons_of_neg hunknown]
  rfl

theorem upToUnknown_append (records : List Record) :
    upToUnknown records ++ (records.dropWhile isKnown).drop 1 = records := by
  rw [upToUnknown, List.append_assoc, List.take_append_drop, List.takeWhile_append_dropWhile]

/-- A record that is not known adds nothing but its failure. -/
theorem notices_upToUnknown (records : List Record) :
    notices (upToUnknown records) = notices (records.takeWhile isKnown) := by
  induction records with
  | nil => rfl
  | cons r records ih =>
    cases hnotice : r.notice with
    | ok n =>
      rw [upToUnknown_cons_of_ok hnotice, List.takeWhile_cons_of_pos (isKnown_of_notice hnotice),
        notices_cons_of_ok hnotice, notices_cons_of_ok hnotice, ih]
    | error e =>
      rw [upToUnknown_cons_of_error hnotice,
        List.takeWhile_cons_of_neg (by simp [(malformed_of_notice hnotice).1]),
        notices_cons_of_error hnotice]

theorem all_upToUnknown (records : List Record) :
    (upToUnknown records).all isKnown = (records.dropWhile isKnown).isEmpty := by
  induction records with
  | nil => rfl
  | cons r records ih =>
    cases hnotice : r.notice with
    | ok n =>
      have hknown := isKnown_of_notice hnotice
      rw [upToUnknown_cons_of_ok hnotice, List.dropWhile_cons_of_pos hknown, List.all_cons, hknown,
        Bool.true_and, ih]
    | error e =>
      have hunknown := (malformed_of_notice hnotice).1
      rw [upToUnknown_cons_of_error hnotice, List.dropWhile_cons_of_neg (by simp [hunknown]),
        List.all_cons, hunknown, Bool.false_and]
      rfl

end Record

/-! ## Sessions in a row -/

namespace ClientTable

/-- Sessions queued behind those that are queued: the new ones, each where it comes up first. -/
def enqueue (ids : List ClientId) (t : ClientTable) : ClientTable :=
  { t with pending := t.pending ++ (ids.filter fun id => !t.pending.contains id).eraseDups }

theorem enqueue_nil (t : ClientTable) : t.enqueue [] = t := by
  rw [enqueue, List.filter_nil, List.eraseDups_nil, List.append_nil]

theorem enqueue_cons (t : ClientTable) (id : ClientId) (ids : List ClientId) :
    t.enqueue (id :: ids) = (t.queue id).enqueue ids := by
  rw [queue]
  split
  · next hqueued => rw [enqueue, List.filter_cons_of_neg (by simpa using hqueued), enqueue]
  · next hnew =>
    rw [enqueue, List.filter_cons_of_pos (by simpa using hnew), List.eraseDups_cons,
      List.filter_filter, enqueue]
    simp only [List.append_assoc, List.singleton_append, ClientTable.mk.injEq, true_and, and_true,
      List.append_cancel_left_eq, List.cons.injEq]
    congr 2
    funext other
    rw [List.contains_append, List.contains_cons, List.contains_nil, Bool.or_false, Bool.not_or,
      Bool.and_comm]

/-- The session that a notice names. -/
def named (t : ClientTable) : Notice → Option ClientId
  | .death death => t.findDeath? death.toNat
  | _ => none

theorem named_enqueue (t : ClientTable) (ids : List ClientId) :
    (t.enqueue ids).named = t.named := by
  funext n
  cases n <;> rfl

theorem enqueue_named_cons (t : ClientTable) (n : Notice) (notices : List Notice) :
    t.enqueue ((n :: notices).filterMap t.named) =
      (t.enqueue (t.named n).toList).enqueue (notices.filterMap t.named) := by
  cases hnamed : t.named n with
  | none => rw [List.filterMap_cons_none hnamed, Option.toList_none, enqueue_nil]
  | some id =>
    rw [List.filterMap_cons_some hnamed, Option.toList_some, enqueue_cons, enqueue_cons,
      enqueue_nil]

end ClientTable

/-! ## Notices one after the other -/

namespace Server

/-- The failure of a server that knows only the connection protocol in the face of a notice. -/
def refusal (clients : Option ClientTable) : Notice → Option Failure
  | .death death =>
    match clients with
    | none => some .unsupported
    | some t => if (t.findDeath? death.toNat).isNone then some .notFound else none
  | _ => some .unsupported

/-- What is queued makes no difference to what fails. -/
theorem refusal_enqueue (clients : Option ClientTable) (ids : ClientTable → List ClientId) :
    refusal (clients.map fun t => t.enqueue (ids t)) = refusal clients := by
  funext n
  cases clients <;> cases n <;> rfl

variable {p : Platform (World σ)} {s s' s'' : Server σ}

/-- A notice queues the session that it names, and fails as it must. -/
theorem onNotice_basic (p : Platform (World σ)) (s : Server σ) (n : Notice) :
    (∀ failure, firstFailure failure ((Service.basic p).onNotice n s).1 =
        (failure <|> refusal s.clients n)) ∧
      ((Service.basic p).onNotice n s).2.clients =
        s.clients.map fun t => t.enqueue (t.named n).toList := by
  have hnothing : s.clients = s.clients.map fun t => t.enqueue [] := by
    simp [ClientTable.enqueue_nil]
  cases n with
  | fault _ => exact ⟨fun _ => rfl, hnothing⟩
  | content _ => exact ⟨fun _ => rfl, hnothing⟩
  | death death =>
    have hhandler : (Service.basic p).onNotice (.death death) s =
        (do let _ ← queueDeath death.toNat : Attempt (Server σ) Unit) s := rfl
    rw [hhandler]
    cases hs : s.clients with
    | none =>
      rw [Attempt.bind_error (queueDeath_of_none hs death.toNat)]
      refine ⟨fun failure => ?_, hs⟩
      simp only [refusal]
      rfl
    | some t =>
      have hqueue := queueDeath_of_some hs death.toNat
      simp only [refusal, Option.map_some, ClientTable.named]
      rcases t.queueDeath_cases death.toNat with ⟨hnone, hsame⟩ | ⟨id, _, hfind, -, -, hqueued⟩
      · rw [hsame] at hqueue
        rw [Attempt.bind_error hqueue, hnone, Option.toList_none, ClientTable.enqueue_nil]
        exact ⟨fun _ => rfl, rfl⟩
      · rw [hqueued] at hqueue
        rw [Attempt.bind_ok hqueue, hfind, Option.toList_some, ClientTable.enqueue_cons,
          ClientTable.enqueue_nil]
        exact ⟨fun failure => by cases failure <;> rfl, rfl⟩

/-- What a drain comes to, told from the records that it takes and the state it begins with. -/
theorem Drains.comes_to {handled : Nat} {failure : Option Failure} {records : List Record}
    {r : Except Failure Nat × Server σ} (h : Drains (.basic p) handled failure s records r) :
    r.1 = (if records.all Record.isKnown then
        drainAnswer (handled + records.length)
          (failure <|> (Record.notices records).findSome? (refusal s.clients))
      else .error .malformed) ∧
    r.2.clients = s.clients.map fun t =>
      t.enqueue ((Record.notices records).filterMap t.named) := by
  induction h with
  | @emptied handled failure s s' next =>
    have hclients := clients_nextRecord s
    rw [next] at hclients
    refine ⟨?_, ?_⟩
    · cases failure <;> rfl
    · simpa [Record.notices, ClientTable.enqueue_nil] using hclients
  | @damaged handled failure s s' record e next broken =>
    have hclients := clients_nextRecord s
    rw [next] at hclients
    obtain ⟨hunknown, rfl⟩ := Record.malformed_of_notice broken
    rw [Record.notices_cons_of_error broken]
    refine ⟨?_, ?_⟩
    · rw [if_neg (by simp [hunknown])]
    · simpa [Record.notices, ClientTable.enqueue_nil] using hclients
  | @handed handled failure s s' s'' record notice a records r next sound handler rest ih =>
    have hclients := clients_nextRecord s
    rw [next] at hclients
    obtain ⟨hfailure, hqueued⟩ := onNotice_basic p s' notice
    rw [handler] at hfailure hqueued
    dsimp only at hclients hfailure hqueued
    rw [hclients] at hfailure hqueued
    obtain ⟨hanswer, hafter⟩ := ih
    rw [hqueued, refusal_enqueue, hfailure] at hanswer
    rw [Record.notices_cons_of_ok sound]
    refine ⟨?_, ?_⟩
    · have hfirst : ((failure <|> refusal s.clients notice) <|>
          (Record.notices records).findSome? (refusal s.clients)) =
          (failure <|> (notice :: Record.notices records).findSome? (refusal s.clients)) := by
        rw [List.findSome?_cons]
        cases failure <;> cases refusal s.clients notice <;> rfl
      rw [hanswer, hfirst, List.all_cons, Record.isKnown_of_notice sound, Bool.true_and,
        List.length_cons, Nat.add_assoc, Nat.add_comm 1]
    · rw [hafter, hqueued, Option.map_map]
      congr 1
      funext t
      rw [ClientTable.enqueue_named_cons, Function.comp_apply, ClientTable.named_enqueue]

/-! ## The records that are taken -/

theorem Unread.takenBy_eq {svc : Service σ} {ring : RegionId} {capacity : Nat}
    {records : List Record} (hsvc : svc.Spares ring) (h : s.Unread ring capacity records)
    {fuel : Nat} (hfuel : records.length < fuel) :
    takenBy svc fuel s = Record.upToUnknown records := by
  obtain ⟨fuel, rfl⟩ := Nat.exists_eq_succ_of_ne_zero (Nat.ne_zero_of_lt hfuel)
  induction records generalizing s fuel with
  | nil =>
    obtain ⟨s', hnext, -, -⟩ := h.nextRecord_nil
    rw [takenBy, hnext]
    rfl
  | cons record records ih =>
    obtain ⟨s', hnext, hs', -⟩ := h.nextRecord_cons
    simp only [takenBy, hnext]
    cases hnotice : record.notice with
    | error e =>
      rw [Record.upToUnknown_cons_of_error hnotice]
    | ok notice =>
      obtain ⟨hsame, hregion⟩ := hsvc notice s'
      obtain ⟨fuel, rfl⟩ := Nat.exists_eq_succ_of_ne_zero
        (Nat.ne_zero_of_lt (Nat.lt_of_succ_lt_succ hfuel))
      rw [Record.upToUnknown_cons_of_ok hnotice]
      exact congrArg (record :: ·)
        (ih (hs'.congr hsame hregion) fuel (Nat.lt_of_succ_lt_succ hfuel))

end Server

/-! ## A word that disagrees with the reader -/

theorem Memory.put_put (m : Memory) (id : RegionId) (r r' : Region) :
    (m.put id r).put id r' = m.put id r' := by
  rw [put, put, put, List.set_set]

/-- Reading does not look at the word that the reader itself publishes. -/
theorem Reader.readExact_restart {m : Memory} {ring : RegionId} {cursor : Nat}
    (h : ¬ (m.region ring).Unfit cursor (m.region ring).stop) (start : Nat)
    (buffer : List UInt8) :
    readExact ⟨⟨ring, cursor⟩, m.put ring { m.region ring with start := start }, buffer⟩ =
      readExact ⟨⟨ring, cursor⟩, m, buffer⟩ := by
  have hown : ring < m.regions.length :=
    Memory.lt_of_size_pos (Nat.lt_trans (by decide) (Region.not_unfit.1 h).1)
  have hread := Inlet.read_restart (i := ⟨m.region ring, cursor, buffer⟩) h start
  dsimp only at hread
  simp only [readExact, lift, Inlet.readExact, Attempt.bind_apply, Memory.region_put_self hown,
    hread, Memory.put_put]

namespace Server

variable {p : Platform (World σ)} {s s' : Server σ} {ring : RegionId} {capacity : Nat}
  {records : List Record}

theorem drain_congr (h : nextRecord s' = nextRecord s) (svc : Service σ) (fuel handled : Nat)
    (failure : Option Failure) :
    drain svc (fuel + 1) handled failure s' = drain svc (fuel + 1) handled failure s := by
  simp only [drain, Attempt.bind_apply, h]

theorem Drains.congr {svc : Service σ} {handled : Nat} {failure : Option Failure}
    {r : Except Failure Nat × Server σ} (h : nextRecord s' = nextRecord s)
    (hdrains : Drains svc handled failure s' records r) :
    Drains svc handled failure s records r := by
  cases hdrains with
  | emptied next => exact .emptied (h ▸ next)
  | damaged next broken => exact .damaged (h ▸ next) broken
  | handed next sound handler rest => exact .handed (h ▸ next) sound handler rest

/-- A server with another word published by the reader of a ring. -/
def republished (s : Server σ) (ring : RegionId) (start : Nat) : Server σ :=
  memoryPart.set (s.memory.put ring { s.memory.region ring with start := start }) s

section Republished

variable {dataspace : CapPtr} {cursor : Nat}
  (hnotices : s.notices = some ⟨dataspace, ⟨ring, cursor⟩⟩)
  (hfit : ¬ (s.memory.region ring).Unfit cursor (s.memory.region ring).stop)

include hfit

theorem region_republished (start : Nat) : (s.republished ring start).memory.region ring =
    { s.memory.region ring with start := start } :=
  Memory.region_put_self
    (Memory.lt_of_size_pos (Nat.lt_trans (by decide) (Region.not_unfit.1 hfit).1)) _

include hnotices

theorem nextRecord_republished (start : Nat) :
    nextRecord (s.republished ring start) = nextRecord s := by
  have hread := Reader.readExact_restart hfit start (List.replicate Record.size 0)
  have hmemory : memoryPart.get (s.republished ring start) =
      s.memory.put ring { s.memory.region ring with start := start } := rfl
  have hsame : (s.republished ring start).notices = s.notices := rfl
  simp only [nextRecord, hsame, hnotices, hmemory, hread]
  rfl

theorem drainNotices_republished (svc : Service σ) (start : Nat) :
    drainNotices svc (s.republished ring start) = drainNotices svc s := by
  have hbound : (s.republished ring start).drainBound = (s.memory.region ring).size + 1 := by
    have hsame : (s.republished ring start).notices = s.notices := rfl
    simp only [drainBound, hsame, hnotices]
    exact congrArg (·.size + 1) (region_republished hfit start)
  have hbound' : s.drainBound = (s.memory.region ring).size + 1 := by
    simp only [drainBound, hnotices]
  show drain svc (s.republished ring start).drainBound 0 none _ = drain svc s.drainBound 0 none s
  rw [hbound, hbound']
  exact drain_congr (nextRecord_republished hnotices hfit start) svc _ _ _

end Republished

/-! ## The whole drain -/

/-- A drain takes the records up to the first one that is not known, and comes to what these say. -/
theorem Unread.drained (h : s.Unread ring capacity records) :
    let front := records.takeWhile Record.isKnown
    let rest := records.dropWhile Record.isKnown
    let r := drainNotices (.basic p) s
    Drains (.basic p) 0 none s (front ++ rest.take 1) r ∧
      r.2.Unread ring capacity (rest.drop 1) ∧
      r.2.clients = (s.clients.map fun t =>
        t.enqueue ((Record.notices front).filterMap t.named)) ∧
      r.1 = if rest.isEmpty then
          drainAnswer records.length ((Record.notices front).findSome? (refusal s.clients))
        else .error .malformed := by
  intro front rest r
  have hspares := Service.basic_spares p ring
  obtain ⟨hdrains, left, hleft, hafter, -⟩ := h.drains hspares h.length_lt 0 none
  rw [h.takenBy_eq hspares h.length_lt] at hdrains hleft
  have hrest : rest.drop 1 = left :=
    List.append_cancel_left ((Record.upToUnknown_append records).trans hleft)
  obtain ⟨hanswer, hclients⟩ := hdrains.comes_to
  rw [Record.notices_upToUnknown] at hanswer hclients
  rw [Record.all_upToUnknown, Nat.zero_add] at hanswer
  refine ⟨hdrains, hrest ▸ hafter, hclients, hanswer.trans ?_⟩
  split
  · next hnone =>
    have hwhole := Record.upToUnknown_append records
    rw [List.isEmpty_iff.1 hnone, List.drop_nil, List.append_nil] at hwhole
    rw [hwhole]
    rfl
  · rfl

/-- **What a drain does can be told from the records in the ring.** Take a server that knows only
the connection protocol, and whose notification ring holds some records from the reader's cursor on,
whatever these are and whatever word is published for the reader. A drain comes to an end, having
handed over the known records in front and having taken one record behind them, if there is one; it
leaves the others. It queues the sessions named by the deaths in front, each once and in this order,
behind those that were queued; a death names the live session with the lowest id that has it. If
there is no unknown record, it answers with the first failure of a handler or the number of records,
and otherwise the failure is that record's. -/
theorem drained_in_order (p : Platform (World σ)) (s : Server σ) (ring : RegionId)
    (capacity : Nat) (records : List Record) {dataspace : CapPtr} {cursor : Nat}
    (hnotices : s.notices = some ⟨dataspace, ⟨ring, cursor⟩⟩)
    (hqueues : Region.Queues { s.memory.region ring with start := cursor } capacity
      (Record.bytes records)) :
    let front := records.takeWhile Record.isKnown
    let rest := records.dropWhile Record.isKnown
    let r := drainNotices (.basic p) s
    Drains (.basic p) 0 none s (front ++ rest.take 1) r ∧
      r.2.Unread ring capacity (rest.drop 1) ∧
      r.2.clients = (s.clients.map fun t =>
        t.enqueue ((Record.notices front).filterMap t.named)) ∧
      (∀ t death id, s.clients = some t → (t.named (.death death) = some id ↔
        IsLeast {i | ∃ x, t.get? i = some x ∧ x.deathId = some death.toNat} id)) ∧
      r.1 = if rest.isEmpty then
          drainAnswer records.length ((Record.notices front).findSome? (refusal s.clients))
        else .error .malformed := by
  intro front rest r
  have hfit : ¬ (s.memory.region ring).Unfit cursor (s.memory.region ring).stop := hqueues.fit
  -- the server as it would be if its reader had published its cursor
  have hregion := region_republished hfit cursor
  have hunread : (s.republished ring cursor).Unread ring capacity records := by
    refine ⟨⟨dataspace, ?_⟩, ?_⟩
    · rw [Reader.attach, hregion]
      exact hnotices
    · rw [hregion]
      exact hqueues
  obtain ⟨hdrains, hafter, hclients, hanswer⟩ := hunread.drained (p := p)
  rw [drainNotices_republished hnotices hfit] at hdrains hafter hclients hanswer
  exact ⟨hdrains.congr (nextRecord_republished hnotices hfit cursor), hafter, hclients,
    fun _ _ _ _ => ClientTable.findDeath?_eq_some_iff, hanswer⟩

/-- A fault, a death that is queued already, one that nobody has, one that two sessions have, a
damaged record, and a death behind it. -/
def sampleRecords : List Record :=
  [Notice.record (.fault ⟨0, 0, 0, 0, false, 0, 0⟩), Notice.record (.death 6),
    Notice.record (.death 99), Notice.record (.death 5), ⟨0, 2, Vector.replicate 7 5⟩,
    Notice.record (.death 6)]

/-- A ring with these records, around its end. -/
def sampleFull : Region :=
  (Outlet.write (Record.bytes sampleRecords)
    ⟨{ Region.zeroed 616 with start := 500, stop := 500 }, 500⟩).2.region

/-- A table with three sessions, the last one queued. -/
def sampleMourners : ClientTable :=
  (((⟨⟨.ofRange 1 8, .empty⟩, [3], 0x1000, 0x1008, 0x100⟩ : ClientTable).enter
    (.ofRange 1 8) ⟨1, 0x1001, 0x110, 0x111, true, some 5, none⟩).enter
    (.ofRange 1 8) ⟨2, 0x1002, 0x112, 0x113, true, some 5, none⟩).enter
    (.ofRange 1 8) ⟨3, 0x1003, 0x114, 0x115, true, some 6, none⟩

/-- A server with these sessions, at a place in a ring. -/
def sampleMourner (ring : Region) : Server (Machine Unit) :=
  { Channel.sampleListener with
    caps := ⟨sampleCaps.slots, ⟨⟨[ring]⟩, .fresh ()⟩⟩
    notices := some ⟨0x103, ⟨0, 500⟩⟩
    clients := some sampleMourners }

/-- The word published for the reader is damaged. The drain stops at the damaged record, with one
session queued behind the other and one record left. -/
theorem drained_in_order_up_to_damaged :
    let r := drainNotices (.basic Machine.platform)
      (sampleMourner { sampleFull with start := 7777 })
    r.1 = .error .malformed ∧ r.2.clients.map ClientTable.pending = some [3, 1] ∧
      r.2.Unread 0 600 [Notice.record (.death 6)] := by
  have hempty : Region.Queues { Region.zeroed 616 with start := 500, stop := 500 } 600 [] :=
    Region.queues_empty rfl (by decide) rfl
  have hfits : (Record.bytes sampleRecords).length ≤ 600 - 1 - ([] : List UInt8).length := by
    decide +kernel
  obtain ⟨⟨size, start, stop, payload⟩, hwrite, hqueues, hstart⟩ := hempty.write hfits
  obtain rfl : start = 500 := hstart
  rw [List.nil_append] at hqueues
  have hring (r : Region) : (sampleMourner r).memory.region 0 = r := rfl
  rw [sampleFull, hwrite]
  obtain ⟨-, hafter, hclients, -, hanswer⟩ := drained_in_order Machine.platform
    (sampleMourner ⟨size, 7777, stop, payload⟩) 0 600 sampleRecords rfl (by rwa [hring])
  have hleft : (sampleRecords.dropWhile Record.isKnown).drop 1 = [Notice.record (.death 6)] := by
    decide +kernel
  have hqueued : (sampleMourners.enqueue
      ((Record.notices (sampleRecords.takeWhile Record.isKnown)).filterMap
        sampleMourners.named)).pending = [3, 1] := by
    decide +kernel
  rw [hleft] at hafter
  refine ⟨hanswer.trans (if_neg (by decide +kernel)), ?_, hafter⟩
  rw [hclients]
  exact congrArg some hqueued

end Server

end CapServer
