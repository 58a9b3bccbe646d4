import CapServer.Proofs.Ring.Contained

/-!
# The room a writer is told of

`Writer.told` is how many bytes a writer is told to fit, and `Writer.write` refuses the bytes that do
not. Both reckon with the same space, so a writer that asks first knows what it will be answered
(`Writer.Foretells`): as long as the cursors are sound.

Writing also checks that they are, and asking does not. With a payload and an unfit cursor, writing
is malformed whatever the bytes are, while asking still names some number of bytes, or ends the
program if the space is overdrawn and its arithmetic is checked. These are all the cases in which
the two disagree, however the program was built (`Writer.foretells_iff`).
-/

namespace CapServer

namespace Writer

variable {u : Underflow} {w : Writer} {m : Memory} {src : List UInt8}

/-- The room in a writer's ring, if its cursors lie in the payload. -/
def room (w : Writer) (m : Memory) : Nat :=
  Region.space (m.region w.region).payloadSize (m.region w.region).start w.cursor

/-- What a writer is told of the room, and what `write` answers to some bytes, agree. -/
structure Foretells (u : Underflow) (w : Writer) (m : Memory) (src : List UInt8) : Prop where
  ok_iff : (write src (w, m)).1 = .ok () ↔ ∃ n, w.told u m = some (.ok n) ∧ src.length ≤ n
  exhausted_iff : (write src (w, m)).1 = .error .resourceExhausted ↔
    ∃ n, w.told u m = some (.ok n) ∧ n < src.length
  malformed_iff : (write src (w, m)).1 = .error .malformed ↔
    w.told u m = some (.error .malformed)

/-- The region has no payload, or a cursor that writing looks at does not lie in it. -/
def Astray (w : Writer) (m : Memory) : Prop :=
  (m.region w.region).Unfit (m.region w.region).start w.cursor

/-- More bytes than the ring can hold lie between the cursors that its space is reckoned from. -/
def Overdrawn (w : Writer) (m : Memory) : Prop :=
  Region.Overdrawn (m.region w.region).payloadSize (m.region w.region).start w.cursor

instance (w : Writer) (m : Memory) : Decidable (w.Overdrawn m) :=
  inferInstanceAs (Decidable (Region.Overdrawn ..))

/-! ## What is said and what is answered -/

theorem told_of_size_le (u : Underflow) (h : (m.region w.region).size ≤ Region.metadataSize) :
    w.told u m = some (.error .malformed) := by
  have hcapacity : (m.region w.region).capacity = .error .malformed := if_pos h
  simp only [told, Outlet.told, Outlet.remaining, hcapacity]
  rfl

/-- Of a region with a payload some room is named wherever its cursors are, unless the program ends
over it. -/
theorem told_of_lt_size (u : Underflow) (h : Region.metadataSize < (m.region w.region).size) :
    w.told u m = if u = .ends ∧ w.Overdrawn m then none else some (.ok (w.room m)) := by
  have hcapacity : (m.region w.region).capacity = .ok (m.region w.region).payloadSize :=
    if_neg (Nat.not_le.2 h)
  simp only [told, Outlet.told, Outlet.remaining, hcapacity]
  rfl

/-- Between sound cursors the space does not fall below zero. -/
theorem told_of_not_astray (u : Underflow) (h : ¬ w.Astray m) :
    w.told u m = some (.ok (w.room m)) := by
  obtain ⟨hsize, -, hcursor⟩ := Region.not_unfit.1 h
  have hcovered : ¬ w.Overdrawn m := by
    unfold Overdrawn Region.Overdrawn
    omega
  rw [told_of_lt_size u hsize, if_neg fun hends => hcovered hends.2]

theorem write_of_astray (h : w.Astray m) : (write src (w, m)).1 = .error .malformed :=
  congrArg Prod.fst (Outlet.write_of_unfit (o := ⟨m.region w.region, w.cursor⟩) h)

/-- Both failing as malformed, they agree. -/
theorem foretells_of_malformed (hwrite : (write src (w, m)).1 = .error .malformed)
    (htold : w.told u m = some (.error .malformed)) : w.Foretells u m src where
  ok_iff := by simp [hwrite, htold]
  exhausted_iff := by simp [hwrite, htold]
  malformed_iff := iff_of_true hwrite htold

/-- Between sound cursors, the room named is the space that writing reckons with. -/
theorem foretells_of_not_astray (u : Underflow) (h : ¬ w.Astray m) : w.Foretells u m src := by
  have htold := told_of_not_astray u h
  rcases Nat.lt_or_ge (w.room m) src.length with hfull | hfits
  · have hwrite : (write src (w, m)).1 = .error .resourceExhausted :=
      congrArg Prod.fst (Outlet.write_of_full (o := ⟨m.region w.region, w.cursor⟩) h hfull)
    constructor <;> simp [hwrite, htold, hfull]
  · obtain ⟨o', hwritten, -⟩ :=
      Outlet.written_of_fit (o := ⟨m.region w.region, w.cursor⟩) h hfits
    have hwrite : (write src (w, m)).1 = .ok () := congrArg Prod.fst hwritten
    constructor <;> simp [hwrite, htold, hfits]

/-- **Asking for the room foretells what writing answers, except with a payload and a cursor outside
of it.** This is so of programs that end where the space falls below zero, and of others. -/
theorem foretells_iff (u : Underflow) (w : Writer) (m : Memory) (src : List UInt8) :
    w.Foretells u m src ↔
      ((m.region w.region).size ≤ Region.metadataSize ∨ ¬ w.Astray m) := by
  constructor
  · intro h
    by_cases hastray : w.Astray m
    · refine .inl (Nat.le_of_not_lt fun hsize => ?_)
      have hmalformed := h.malformed_iff.1 (write_of_astray hastray)
      rw [told_of_lt_size u hsize] at hmalformed
      split at hmalformed <;> cases hmalformed
    · exact .inr hastray
  · rintro (hsize | hsound)
    · exact foretells_of_malformed (write_of_astray (.inl hsize)) (told_of_size_le u hsize)
    · exact foretells_of_not_astray u hsound

-- With the largest word for a producer's cursor, eight bytes seem to fit where seven do at most.
example :
    let m : Memory := ⟨[⟨24, 0, 2 ^ 64 - 1, fun _ => 0⟩]⟩
    let w := attach m 0
    w.told .wraps m = some (.ok 8) ∧ w.told .ends m = none :=
  ⟨rfl, rfl⟩

/-- With a consumer's word behind the payload, there seems to be room for seven bytes where not one
can be written. Nothing falls below zero here. -/
theorem room_behind_payload :
    let m : Memory := ⟨[⟨24, 8, 0, fun _ => 0⟩]⟩
    let w := attach m 0
    w.remaining m = .ok 7 ∧ (write [0] (w, m)).1 = .error .malformed ∧
      ∀ u, w.told u m = some (.ok 7) ∧ ¬ w.Foretells u m [0] := by
  refine ⟨rfl, rfl, fun u => ?_⟩
  have htold : told u (attach ⟨[⟨24, 8, 0, fun _ => 0⟩]⟩ 0) ⟨[⟨24, 8, 0, fun _ => 0⟩]⟩ =
      some (.ok 7) := by
    cases u <;> rfl
  refine ⟨htold, fun h => ?_⟩
  have hmalformed := h.malformed_iff.1 rfl
  rw [htold] at hmalformed
  cases hmalformed

end Writer

end CapServer
