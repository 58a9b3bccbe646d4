import CapServer.Notice.Record

/-!
# Records, bytes and notices

Bytes and records determine each other: a record is read back from its bytes
(`Record.ofBytes_toBytes`), and as many bytes as a record takes are the bytes of the record that
they hold (`Record.toBytes_ofBytes`).

A record can hold more than a notice, since a notice does not use all of the arguments, and only
asks whether the word for an instruction is zero. A record is that of its notice exactly if it is
`Record.Tidy` (`notices_read_back`).
-/

namespace CapServer

/-- Pieces of one length make up a list of as many times that length. -/
theorem length_flatMap_of_length_eq {α β : Type} {f : α → List β} {n : Nat}
    (hf : ∀ a, (f a).length = n) (l : List α) : (l.flatMap f).length = l.length * n := by
  induction l with
  | nil => exact (Nat.zero_mul n).symm
  | cons a l ih =>
    rw [List.flatMap_cons, List.length_append, hf, ih, List.length_cons, Nat.succ_mul, Nat.add_comm]

namespace Record

variable {bytes : List UInt8}

/-! ## Records as bytes -/

theorem length_toBytes (r : Record) : r.toBytes.length = size := by
  rw [toBytes, length_flatMap_of_length_eq Word.length_toBytes, words, List.length_cons,
    List.length_cons, Vector.length_toList]
  rfl

/-- The words of a record stand at their places. -/
theorem wordAt_flatMap (l : List Word) (i : Nat) (h : i < l.length) :
    wordAt (l.flatMap Word.toBytes) i = l[i] := by
  induction l generalizing i with
  | nil => exact absurd h (Nat.not_lt_zero i)
  | cons w l ih =>
    rw [wordAt, List.flatMap_cons]
    cases i with
    | zero =>
      rw [Nat.zero_mul, List.drop_zero, Word.ofBytes,
        List.take_append_of_le_length (Nat.le_of_eq (Word.length_toBytes w).symm)]
      exact Word.ofBytes_toBytes w
    | succ i =>
      have hdrop : (Word.toBytes w ++ l.flatMap Word.toBytes).drop ((i + 1) * Word.width) =
          (l.flatMap Word.toBytes).drop (i * Word.width) := by
        rw [List.drop_append, Word.length_toBytes, Nat.succ_mul, Nat.add_sub_cancel,
          List.drop_eq_nil_of_le, List.nil_append]
        rw [Word.length_toBytes]
        exact Nat.le_add_left _ _
      rw [hdrop]
      exact ih i (Nat.lt_of_succ_lt_succ h)

/-- A record is read back from its bytes. -/
theorem ofBytes_toBytes (r : Record) : ofBytes r.toBytes = r := by
  have hlength : r.words.length = 9 := by
    rw [words, List.length_cons, List.length_cons, Vector.length_toList]
  have hword : ∀ i (h : i < r.words.length), wordAt r.toBytes i = r.words[i] :=
    fun i h => wordAt_flatMap r.words i h
  obtain ⟨magic, label, args⟩ := r
  rw [ofBytes, hword 0 (by omega), hword 1 (by omega)]
  refine congrArg (Record.mk magic label) (Vector.ext fun i hi => ?_)
  rw [Vector.getElem_ofFn, hword (i + 2) (by omega)]
  exact Vector.getElem_toList _

/-- The first bytes are those of the word that they hold. -/
theorem toBytes_wordAt_zero (h : Word.width ≤ bytes.length) :
    (wordAt bytes 0).toBytes = bytes.take Word.width := by
  have htake : (bytes.take Word.width).length = Word.width :=
    List.length_take_of_le h
  rw [wordAt, Nat.zero_mul, List.drop_zero, ← Word.toBytes_ofBytes htake, Word.ofBytes,
    Word.ofBytes, List.take_take, Nat.min_self]

theorem wordAt_succ (bytes : List UInt8) (i : Nat) :
    wordAt bytes (i + 1) = wordAt (bytes.drop Word.width) i := by
  rw [wordAt, wordAt, List.drop_drop, Nat.succ_mul, Nat.add_comm]

/-- So many bytes that words can be made of them are the bytes of these words. -/
theorem flatMap_wordAt (n : Nat) (h : bytes.length = n * Word.width) :
    ((List.range n).map (wordAt bytes)).flatMap Word.toBytes = bytes := by
  induction n generalizing bytes with
  | zero =>
    rw [Nat.zero_mul, List.length_eq_zero_iff] at h
    rw [h]
    rfl
  | succ n ih =>
    rw [Nat.succ_mul] at h
    have hrest : (bytes.drop Word.width).length = n * Word.width := by
      rw [List.length_drop, h, Nat.add_sub_cancel]
    have hwords : (List.range (n + 1)).map (wordAt bytes) =
        wordAt bytes 0 :: (List.range n).map (wordAt (bytes.drop Word.width)) := by
      rw [List.range_succ_eq_map, List.map_cons, List.map_map]
      exact congrArg _ (List.map_congr_left fun i _ => wordAt_succ bytes i)
    rw [hwords, List.flatMap_cons, ih hrest, toBytes_wordAt_zero (h ▸ Nat.le_add_left _ _),
      List.take_append_drop]

/-- As many bytes as a record takes are the bytes of the record that they hold. -/
theorem toBytes_ofBytes (h : bytes.length = size) : (ofBytes bytes).toBytes = bytes :=
  flatMap_wordAt 9 h

/-! ## Records as notices -/

/-- The magic number is right and the label stands for a kind of notice. -/
def isKnown (r : Record) : Bool := r.magic == goodMagic && (NoticeKind.ofLabel? r.label).isSome

/-- Just the known records carry notices; the others are malformed. -/
theorem notice_cases (r : Record) :
    (r.isKnown = true ∧ ∃ n, r.notice = .ok n) ∨
      (r.isKnown = false ∧ r.notice = .error .malformed) := by
  rw [isKnown, notice]
  by_cases hmagic : r.magic = goodMagic
  · rcases NoticeKind.ofLabel? r.label with _ | _ | _ | _ <;> simp [hmagic]
  · simp [hmagic]

theorem isKnown_of_notice {r : Record} {n : Notice} (h : r.notice = .ok n) : r.isKnown = true := by
  rcases r.notice_cases with ⟨hknown, -⟩ | ⟨-, hnotice⟩
  · exact hknown
  · rw [h] at hnotice
    cases hnotice

theorem malformed_of_notice {r : Record} {e : Failure} (h : r.notice = .error e) :
    r.isKnown = false ∧ e = .malformed := by
  rcases r.notice_cases with ⟨-, n, hnotice⟩ | ⟨hunknown, hnotice⟩
  · rw [h] at hnotice
    cases hnotice
  · rw [h] at hnotice
    cases hnotice
    exact ⟨hunknown, rfl⟩

theorem isKnown_iff {r : Record} :
    r.isKnown = true ↔ r.magic = goodMagic ∧ (r.label = 0 ∨ r.label = 1 ∨ r.label = 2) := by
  rw [isKnown, Bool.and_eq_true, beq_iff_eq, Option.isSome_iff_exists]
  refine and_congr_right fun _ => ⟨?_, ?_⟩
  · rintro ⟨kind, hkind⟩
    rw [NoticeKind.ofLabel?_eq_some_iff] at hkind
    cases kind with
    | fault => exact .inl hkind
    | content => exact .inr (.inl hkind)
    | death => exact .inr (.inr hkind)
  · rintro (hlabel | hlabel | hlabel)
    · exact ⟨.fault, NoticeKind.ofLabel?_eq_some_iff.2 hlabel⟩
    · exact ⟨.content, NoticeKind.ofLabel?_eq_some_iff.2 hlabel⟩
    · exact ⟨.death, NoticeKind.ofLabel?_eq_some_iff.2 hlabel⟩

end Record

/-- How many of its arguments a record of a kind uses. -/
def NoticeKind.arity : NoticeKind → Nat
  | fault => 7
  | content => 3
  | death => 1

/-- The kind of a notice. -/
def Notice.kind : Notice → NoticeKind
  | fault _ => .fault
  | content _ => .content
  | death _ => .death

namespace Record

/-- The record says nothing that a notice of its kind does not say: the arguments that are not used
are zero, and the word for an instruction is zero or one. -/
structure Tidy (r : Record) (kind : NoticeKind) : Prop where
  unused : ∀ i : Fin 7, kind.arity ≤ i → r.args[i] = 0
  flag : kind = .fault → r.args.get ⟨4, by decide⟩ = 0 ∨ r.args.get ⟨4, by decide⟩ = 1

theorem exists_args (args : Vector Word 7) : ∃ a b c d e f g, args = #v[a, b, c, d, e, f, g] := by
  refine ⟨args[0], args[1], args[2], args[3], args[4], args[5], args[6],
    Vector.ext fun i hi => ?_⟩
  have hcases : i = 0 ∨ i = 1 ∨ i = 2 ∨ i = 3 ∨ i = 4 ∨ i = 5 ∨ i = 6 := by omega
  rcases hcases with rfl | rfl | rfl | rfl | rfl | rfl | rfl <;> rfl

/-- The word that is written for a truth value read from a word. -/
theorem flag_eq_iff (w : Word) : (if w != 0 then 1 else 0) = w ↔ w = 0 ∨ w = 1 := by
  by_cases h : w = 0
  · simp [h]
  · rw [if_pos (bne_iff_ne.2 h)]
    exact ⟨fun hone => .inr hone.symm, fun hflag => (hflag.resolve_left h).symm⟩

/-- What a record must be for a notice to be read from it. -/
theorem eq_ofKind_of_notice {r : Record} {n : Notice} (h : r.notice = .ok n) :
    ∃ a b c d e f g, r = .ofKind n.kind #v[a, b, c, d, e, f, g] ∧
      n = match n.kind with
        | .fault => .fault ⟨a, b, c, d, e != 0, f, g⟩
        | .content => .content ⟨a, b, c⟩
        | .death => .death a := by
  obtain ⟨magic, label, args⟩ := r
  obtain ⟨a, b, c, d, e, f, g, rfl⟩ := exists_args args
  refine ⟨a, b, c, d, e, f, g, ?_⟩
  rw [notice] at h
  split at h
  · cases h
  next hmagic =>
    obtain rfl := Decidable.not_not.1 hmagic
    split at h
    · cases h
    all_goals
      next hlabel =>
        obtain rfl := NoticeKind.ofLabel?_eq_some_iff.1 hlabel
        cases h
        exact ⟨rfl, rfl⟩

/-- The record of a notice that was read is the record it was read from, if and only if that was
tidy. -/
theorem record_eq_iff {r : Record} {n : Notice} (h : r.notice = .ok n) :
    n.record = r ↔ r.Tidy n.kind := by
  obtain ⟨a, b, c, d, e, f, g, hr, hn⟩ := eq_ofKind_of_notice h
  have htidy : r.Tidy n.kind ↔ (∀ i : Fin 7, n.kind.arity ≤ i → #v[a, b, c, d, e, f, g][i] = 0) ∧
      (n.kind = .fault → e = 0 ∨ e = 1) := by
    rw [hr]
    exact ⟨fun h => ⟨h.unused, h.flag⟩, fun h => ⟨h.1, h.2⟩⟩
  rw [htidy, hr]
  clear h hr htidy
  cases n with
  | fault notice =>
    cases hn
    simpa [Notice.record, Notice.kind, ofKind, NoticeKind.arity, Fin.forall_fin_succ] using
      flag_eq_iff e
  | content notice =>
    cases hn
    simp [Notice.record, Notice.kind, ofKind, NoticeKind.arity, Fin.forall_fin_succ,
      eq_comm (a := (0 : Word))]
  | death id =>
    cases hn
    simp [Notice.record, Notice.kind, ofKind, NoticeKind.arity, Fin.forall_fin_succ,
      eq_comm (a := (0 : Word))]

end Record

/-- **Records, bytes and notices are read back as they were written.** A notice comes back through
the bytes of its record, and bytes and records determine each other. A notice is read from a record
exactly if the magic number is right and the label is one of the three, and it is written back as
the same record exactly if that record is tidy. -/
theorem notices_read_back :
    (∀ n : Notice, n.record.toBytes.length = Record.size ∧
      (Record.ofBytes n.record.toBytes).notice = .ok n) ∧
    (∀ bytes : List UInt8, bytes.length = Record.size → (Record.ofBytes bytes).toBytes = bytes) ∧
    (∀ r : Record, Record.ofBytes r.toBytes = r) ∧
    (∀ r : Record, (∃ n, r.notice = .ok n) ↔
      r.magic = Record.goodMagic ∧ (r.label = 0 ∨ r.label = 1 ∨ r.label = 2)) ∧
    ∀ (r : Record) (n : Notice), r.notice = .ok n → (n.record = r ↔ r.Tidy n.kind) := by
  refine ⟨fun n => ⟨Record.length_toBytes _, ?_⟩, fun bytes => Record.toBytes_ofBytes,
    Record.ofBytes_toBytes, fun r => ?_, fun r n => Record.record_eq_iff⟩
  · rw [Record.ofBytes_toBytes, Notice.notice_record]
  · rw [← Record.isKnown_iff]
    rcases r.notice_cases with ⟨hknown, hnotice⟩ | ⟨hunknown, hmalformed⟩
    · exact iff_of_true hnotice hknown
    · rw [hmalformed, hunknown]
      exact iff_of_false nofun nofun

/-- The bytes of a fault whose word for an instruction is two: they are the bytes of their record,
which is not the record of its notice. -/
theorem notices_read_back_untidy :
    let r : Record := .ofKind .fault #v[3, 4096, 4112, 16, 2, 1, 64]
    (Record.ofBytes r.toBytes).toBytes = r.toBytes ∧
      r.notice = .ok (.fault ⟨3, 4096, 4112, 16, true, 1, 64⟩) ∧
      Notice.record (.fault ⟨3, 4096, 4112, 16, true, 1, 64⟩) ≠ r := by
  intro r
  obtain ⟨-, hbytes, -, -, hrecord⟩ := notices_read_back
  refine ⟨hbytes r.toBytes (Record.length_toBytes r), rfl, fun h => ?_⟩
  have htidy := (hrecord r (.fault ⟨3, 4096, 4112, 16, true, 1, 64⟩) rfl).1 h
  exact absurd (htidy.flag rfl) (by decide)

end CapServer
