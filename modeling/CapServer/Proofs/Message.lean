import CapServer.Reply
import CapServer.Request

/-!
# Messages word by word

Requests and replies are read from the front of their words, and reading one takes as many words as
writing it put there (`Message.Consumes`).

Any message can be asked for a request or for the outcome that a reply carries. `Request.Decodes`
lists what a message can be read as, and `Reply.Damaged` the words that carry no outcome or say that
something was malformed. What was written is read back, and what is read as a request could have
been written as that request (`codes_read_back`).
-/

namespace CapServer

namespace Message

variable {m m' : Message} {word : Word}

/-- Consuming a word is taking the first of those that are left. -/
theorem pop_eq (msg : Message) : pop msg = match msg.unread with
    | [] => (.error .malformed, msg)
    | word :: _ => (.ok word, { msg with pos := msg.pos + 1 }) := by
  have hhead : msg.words[msg.pos]? = msg.unread.head? := List.head?_drop.symm
  rw [pop, hhead]
  rcases msg.unread with _ | ⟨word, _⟩ <;> rfl

/-- Words were taken from the front of those that were left, and nothing else was done. -/
structure Consumes (m : Message) (words : List Word) (m' : Message) : Prop where
  eq : m' = { m with pos := m.pos + words.length }
  unread_eq : m.unread = words ++ m'.unread

theorem consumes_nil (m : Message) : m.Consumes [] m := ⟨rfl, rfl⟩

theorem consumes_pop (h : pop m = (.ok word, m')) : m.Consumes [word] m' := by
  have hfst : (pop m).1 = .ok word := congrArg Prod.fst h
  have hunread := unread_pop hfst
  rw [h] at hunread
  refine ⟨?_, hunread⟩
  rw [pop_eq, hunread] at h
  cases h
  rfl

theorem pop_of_nil (h : m.unread = []) : pop m = (.error .malformed, m) := by
  rw [pop_eq, h]

/-- Consuming the first of some words leaves the others. -/
theorem pop_of_cons {rest : List Word} (h : m.unread = word :: rest) :
    ∃ m', pop m = (.ok word, m') ∧ m'.unread = rest := by
  have hpop : pop m = (.ok word, { m with pos := m.pos + 1 }) := by rw [pop_eq, h]
  refine ⟨_, hpop, ?_⟩
  have hunread := (consumes_pop hpop).unread_eq
  rw [h] at hunread
  exact (List.cons.inj hunread).2.symm

/-- There is a word to consume unless none is left. -/
theorem pop_eq_error {e : Failure} (h : pop m = (.error e, m')) :
    e = .malformed ∧ m.unread = [] := by
  rcases hunread : m.unread with _ | ⟨word, rest⟩
  · rw [pop_of_nil hunread] at h
    cases h
    exact ⟨rfl, rfl⟩
  · obtain ⟨m'', hpop, -⟩ := pop_of_cons hunread
    cases hpop.symm.trans h

end Message

/-! ## Replies -/

/-- The code is a signed number of thirty-two bits, as a status of the kernel is. -/
def Status.Narrow (code : Int64) : Prop := ∃ n : Int32, code = n.toInt64

theorem Status.narrow_iff {code : Int64} :
    Narrow code ↔ -2147483648 ≤ code.toInt ∧ code.toInt < 2147483648 := by
  constructor
  · rintro ⟨n, rfl⟩
    rw [Int32.toInt_toInt64]
    exact ⟨n.le_toInt, n.toInt_lt⟩
  · rintro ⟨hlow, hhigh⟩
    refine ⟨Int32.ofInt code.toInt, Int64.toInt_inj.1 ?_⟩
    rw [Int32.toInt_toInt64, Int32.toInt_ofInt_of_le hlow hhigh]

namespace Failure

variable {code : Int64}

theorem ofKernelStatus_eq_malformed_iff :
    ofKernelStatus code = malformed ↔ ¬ Status.Narrow code := by
  rw [ofKernelStatus]
  constructor
  · rintro h ⟨n, rfl⟩
    rw [Int32.toInt32_toInt64, if_pos rfl] at h
    cases h
  · intro hwide
    exact if_neg fun hfits => hwide ⟨code.toInt32, hfits.symm⟩

/-- Zero is the only code of success. -/
theorem ofStatus_eq_ok_iff : ofStatus code = .ok () ↔ code = Status.success := by
  constructor
  · intro h
    unfold ofStatus at h
    split at h
    · next hzero => exact Int64.toInt_inj.1 hzero
    all_goals cases h
  · rintro rfl
    rfl

/-- A code stands for malformed data by itself, or because it is too wide to stand for anything. -/
theorem ofStatus_eq_malformed_iff :
    ofStatus code = .error .malformed ↔ code = Status.malformed ∨ ¬ Status.Narrow code := by
  constructor
  · intro h
    unfold ofStatus at h
    split at h
    case h_6 hcode => exact .inl (Int64.toInt_inj.1 hcode)
    case h_10 => exact .inr (ofKernelStatus_eq_malformed_iff.1 (Except.error.inj h))
    all_goals cases h
  · rintro (rfl | hwide)
    · rfl
    · unfold ofStatus
      split
      case h_10 => rw [ofKernelStatus_eq_malformed_iff.2 hwide]
      all_goals exact absurd (Status.narrow_iff.2 (by omega)) hwide

end Failure

namespace Reply

/-- What a reply is read as, by the words that are left of it. -/
inductive Reads (m : Message) : Except Failure Unit → Prop
  | missing (unread : m.unread = []) : Reads m (.error .malformed)
  | coded {code rest} (unread : m.unread = code :: rest)
      (plain : code.toInt64 ≠ Status.delegated) : Reads m (Failure.ofStatus code.toInt64)
  /-- The status of the kernel is missing. -/
  | short {code} (unread : m.unread = [code]) (delegated : code.toInt64 = Status.delegated) :
      Reads m (.error .malformed)
  | kernel {code status rest} (unread : m.unread = code :: status :: rest)
      (delegated : code.toInt64 = Status.delegated) :
      Reads m (.error (Failure.ofKernelStatus status.toInt64))

/-- The words of a reply from which no outcome can be read, or which say that something was
malformed. -/
inductive Damaged : List Word → Prop
  | missing : Damaged []
  /-- The status of the kernel is missing. -/
  | short {code} (delegated : code.toInt64 = Status.delegated) : Damaged [code]
  /-- The status of the kernel is too wide. -/
  | kernel {code status rest} (delegated : code.toInt64 = Status.delegated)
      (wide : ¬ Status.Narrow status.toInt64) : Damaged (code :: status :: rest)
  /-- The code is too wide. -/
  | unknown {code rest} (wide : ¬ Status.Narrow code.toInt64) : Damaged (code :: rest)
  | malformed {code rest} (said : code.toInt64 = Status.malformed) : Damaged (code :: rest)

variable {m : Message}

theorem reads (m : Message) : Reads m (result m).1 := by
  rw [result, Message.popSigned, bind_assoc]
  rcases hunread : m.unread with _ | ⟨code, rest⟩
  · rw [Attempt.bind_error (Message.pop_of_nil hunread)]
    exact .missing hunread
  obtain ⟨m', hpop, hrest⟩ := Message.pop_of_cons hunread
  rw [Attempt.bind_ok hpop, pure_bind]
  by_cases hcode : code.toInt64 = Status.delegated
  · rw [if_pos hcode, bind_assoc]
    rcases rest with _ | ⟨status, rest⟩
    · rw [Attempt.bind_error (Message.pop_of_nil hrest)]
      exact .short hunread hcode
    · obtain ⟨m'', hpop', -⟩ := Message.pop_of_cons hrest
      rw [Attempt.bind_ok hpop']
      exact .kernel hunread hcode
  · rw [if_neg hcode, Attempt.ofExcept_apply]
    exact .coded hunread hcode

/-- A reply says that all went well exactly if the first word left of it is zero. -/
theorem result_eq_ok_iff : (result m).1 = .ok () ↔ m.unread.head? = some 0 := by
  have hzero : ∀ code : Word, code.toInt64 = Status.success ↔ code = 0 := fun code =>
    ⟨congrArg Int64.toUInt64, congrArg UInt64.toInt64⟩
  have hcase := reads m
  generalize (result m).1 = outcome at hcase
  cases hcase with
  | missing hunread => simp [hunread]
  | coded hunread hplain =>
    rw [hunread, Failure.ofStatus_eq_ok_iff, List.head?_cons, Option.some.injEq, hzero]
  | short hunread hcode | kernel hunread hcode =>
    rw [hunread, List.head?_cons, Option.some.injEq, ← hzero, hcode]
    exact iff_of_false nofun (by decide)

theorem result_eq_malformed_iff : (result m).1 = .error .malformed ↔ Damaged m.unread := by
  have hcase := reads m
  generalize (result m).1 = outcome at hcase
  cases hcase with
  | missing hunread =>
    rw [hunread]
    exact iff_of_true rfl .missing
  | coded hunread hplain =>
    rw [hunread, Failure.ofStatus_eq_malformed_iff]
    constructor
    · rintro (hsaid | hwide)
      · exact .malformed hsaid
      · exact .unknown hwide
    · intro h
      cases h with
      | short hcode | kernel hcode => exact absurd hcode hplain
      | unknown hwide => exact .inr hwide
      | malformed hsaid => exact .inl hsaid
  | short hunread hcode =>
    rw [hunread]
    exact iff_of_true rfl (.short hcode)
  | kernel hunread hcode =>
    rw [hunread, Except.error.injEq, Failure.ofKernelStatus_eq_malformed_iff]
    refine ⟨.kernel hcode, fun h => ?_⟩
    cases h with
    | kernel _ hwide => exact hwide
    | unknown hwide =>
      rw [hcode] at hwide
      exact absurd (Status.narrow_iff.2 (by decide)) hwide
    | malformed hsaid =>
      rw [hcode] at hsaid
      cases hsaid

end Reply

/-! ## Requests -/

namespace Request

/-- What a message is read as, and what is left of it to read. -/
inductive Decodes (msg : Message) : Except Failure (Option Request) × Message → Prop
  | connect (label : msg.label = connectLabel) : Decodes msg (.ok (some .connect), msg)
  | ping (label : msg.label = pingLabel) : Decodes msg (.ok (some .ping), msg)
  | setParamBuffer {size read} (label : msg.label = setParamBufferLabel)
      (popped : Message.pop msg = (.ok size, read)) :
      Decodes msg (.ok (some (.setParamBuffer size)), read)
  /-- The size of the buffer is missing. -/
  | short {e read} (label : msg.label = setParamBufferLabel)
      (popped : Message.pop msg = (.error e, read)) : Decodes msg (.error e, read)
  | disconnect (label : msg.label = disconnectLabel) : Decodes msg (.ok (some .disconnect), msg)
  /-- The message is not of the connection protocol. -/
  | foreign (label : isLabel msg.label = false) : Decodes msg (.ok none, msg)

theorem decodes (msg : Message) : Decodes msg (decode msg) := by
  rw [decode, Attempt.bind_ok (Attempt.get_apply msg)]
  split
  · next h => exact .connect h
  split
  · next h => exact .ping h
  split
  · next h =>
    rcases hpop : Message.pop msg with ⟨e | size, read⟩
    · rw [Attempt.bind_error hpop]
      exact .short h hpop
    · rw [Attempt.bind_ok hpop]
      exact .setParamBuffer h hpop
  split
  · next h => exact .disconnect h
  · next hconnect hping hset hdisconnect =>
    refine .foreign ?_
    simp only [connectLabel, pingLabel, setParamBufferLabel, disconnectLabel] at *
    rw [isLabel, endLabel, Bool.and_eq_false_iff, decide_eq_false_iff_not, decide_eq_false_iff_not]
    omega

theorem decode_connect {msg : Message} (h : msg.label = connectLabel) :
    decode msg = (.ok (some .connect), msg) := by
  rw [decode, Attempt.bind_ok (Attempt.get_apply msg), if_pos h]
  rfl

/-- A message outside the connection protocol is left to the service as it is. -/
theorem decode_foreign {msg : Message} (h : isLabel msg.label = false) :
    decode msg = (.ok none, msg) := by
  have hcase := decodes msg
  generalize decode msg = r at hcase
  cases hcase with
  | foreign => rfl
  | _ label => rw [label] at h; cases h

variable {m : Message}

theorem decode_eq_none_iff : (decode m).1 = .ok none ↔ isLabel m.label = false := by
  have hcase := decodes m
  generalize decode m = r at hcase
  cases hcase with
  | foreign label => exact iff_of_true rfl label
  | _ label => exact iff_of_false nofun (by rw [label]; decide)

theorem decode_eq_malformed_iff :
    (decode m).1 = .error .malformed ↔ m.label = setParamBufferLabel ∧ m.unread = [] := by
  have hcase := decodes m
  generalize decode m = r at hcase
  cases hcase with
  | connect label | ping label | disconnect label =>
    exact iff_of_false nofun fun h => absurd (label.symm.trans h.1) (by decide)
  | foreign label =>
    refine iff_of_false nofun fun h => ?_
    rw [h.1] at label
    cases label
  | setParamBuffer label popped =>
    refine iff_of_false nofun fun h => ?_
    rw [Message.pop_of_nil h.2] at popped
    cases popped
  | short label popped =>
    obtain ⟨rfl, hunread⟩ := Message.pop_eq_error popped
    exact iff_of_true rfl ⟨label, hunread⟩

/-- Nothing of a request was read before it is sent. -/
theorem unread_encode (r : Request) : r.encode.unread = r.encode.words := by
  cases r <;> rfl

/-- What was read could have been written as the request that it was read as. -/
theorem consumes_decode {r : Request} {m' : Message} (h : decode m = (.ok (some r), m')) :
    r.encode.label = m.label ∧ m.Consumes r.encode.words m' := by
  have hcase := decodes m
  rw [h] at hcase
  cases hcase with
  | connect label | ping label | disconnect label => exact ⟨label.symm, m.consumes_nil⟩
  | setParamBuffer label popped => exact ⟨label.symm, Message.consumes_pop popped⟩

/-- A message of the protocol that is not cut short is read as a request. -/
theorem decode_eq_some_iff :
    (∃ r m', decode m = (.ok (some r), m')) ↔
      isLabel m.label = true ∧ ¬ (m.label = setParamBufferLabel ∧ m.unread = []) := by
  rw [← decode_eq_malformed_iff, ← Bool.not_eq_false, ← decode_eq_none_iff]
  constructor
  · rintro ⟨r, m', h⟩
    rw [h]
    exact ⟨nofun, nofun⟩
  · rintro ⟨hforeign, hmalformed⟩
    have hcase := decodes m
    generalize decode m = r at hcase hforeign hmalformed
    cases hcase with
    | foreign => exact absurd rfl hforeign
    | short label popped =>
      obtain ⟨rfl, -⟩ := Message.pop_eq_error popped
      exact absurd rfl hmalformed
    | _ => exact ⟨_, _, rfl⟩

end Request

/-- **Requests and replies are read back as they were written.** A reply is read as the outcome and
leaves the further words that it was made of. A request is read as itself, to its end. Whatever else
a message says, a reply is read as a success only for a zero in front and as malformed only if its
words are damaged; and a message is read as a request of which it has the label and the words,
unless it is not of the protocol or its size is missing. -/
theorem codes_read_back (label : Nat) (outcome : Except Failure Unit) (values : List Word)
    (request : Request) (m : Message) :
    (∃ m', Reply.result (Reply.make label outcome values) = (outcome, m') ∧ m'.unread = values) ∧
      ((Reply.result m).1 = .ok () ↔ m.unread.head? = some 0) ∧
      ((Reply.result m).1 = .error .malformed ↔ Reply.Damaged m.unread) ∧
      (∃ m', Request.decode request.encode = (.ok (some request), m') ∧ m'.unread = []) ∧
      ((Request.decode m).1 = .ok none ↔ Request.isLabel m.label = false) ∧
      ((Request.decode m).1 = .error .malformed ↔
        m.label = Request.setParamBufferLabel ∧ m.unread = []) ∧
      (Request.isLabel m.label = true ∧ ¬ (m.label = Request.setParamBufferLabel ∧ m.unread = []) ↔
        ∃ r m', Request.decode m = (.ok (some r), m') ∧ r.encode.label = m.label ∧
          m.Consumes r.encode.words m') := by
  obtain ⟨houtcome, hvalues⟩ := Reply.result_make label outcome values
  refine ⟨⟨_, Prod.ext houtcome rfl, hvalues⟩, Reply.result_eq_ok_iff,
    Reply.result_eq_malformed_iff, ?_, Request.decode_eq_none_iff,
    Request.decode_eq_malformed_iff, ?_⟩
  · have hrequest : Request.decode request.encode = (.ok (some request), _) :=
      Prod.ext (Request.decode_encode request) rfl
    refine ⟨_, hrequest, ?_⟩
    have hunread := (Request.consumes_decode hrequest).2.unread_eq
    rw [request.unread_encode] at hunread
    exact List.self_eq_append_right.1 hunread
  · rw [← Request.decode_eq_some_iff]
    constructor
    · rintro ⟨r, m', h⟩
      exact ⟨r, m', h, Request.consumes_decode h⟩
    · rintro ⟨r, m', h, -⟩
      exact ⟨r, m', h⟩

end CapServer
