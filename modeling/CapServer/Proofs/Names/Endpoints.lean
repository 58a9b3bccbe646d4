import CapServer.Proofs.IdMap
import CapServer.Proofs.Names.Directory
import Mathlib.Logic.Function.Basic

/-!
# What becomes of an endpoint

A name server owns an endpoint from its registration on, and hands it back once: when its name is
registered again or removed, or when the name server stops. What happened to a name server is its
history (`NameServer.History`). A history is `Lawful` if each event handed back what it had to, and
then all that was ever accepted is what was handed back and what stands (`Lawful.accepted_perm`).

Name servers go by their histories, on their own and in a directory
(`Directory.endpoints_accounted`). In a directory each name server has a history of its own, to
which a call on it adds what the directory released meanwhile (`Directory.Call.perform`).
-/

namespace CapServer

namespace NameServer

/-! ## Entries by name -/

theorem lookup_filter (entries : List (Path × CapPtr)) (name m : Path) :
    lookup ⟨entries.filter fun e => e.1 ≠ name⟩ m =
      if m = name then none else lookup ⟨entries⟩ m := by
  induction entries with
  | nil => simp [lookup]
  | cons e entries ih =>
    by_cases he : e.1 = name
    · rw [List.filter_cons_of_neg (by simp [he]), ih, lookup_cons, he]
      by_cases hm : m = name
      · rw [if_pos hm, if_pos hm]
      · rw [if_neg hm, if_neg hm, if_neg (Ne.symm hm)]
    · rw [List.filter_cons_of_pos (by simp [he]), lookup_cons, lookup_cons, ih]
      by_cases hm : m = name
      · rw [if_pos hm, if_neg (hm ▸ he), if_pos hm]
      · rw [if_neg hm, if_neg hm]

/-- As no name is registered twice, to drop its registration is to drop all there is under it. -/
theorem without_eq_filter {s : NameServer} (hs : s.Valid) (name : Path) :
    s.without name = ⟨s.entries.filter fun e => e.1 ≠ name⟩ := by
  obtain ⟨entries⟩ := s
  have hnodup := hs.nodup
  clear hs
  rw [without, mk.injEq]
  induction entries with
  | nil => rfl
  | cons e entries ih =>
    obtain ⟨hfresh, hnodup⟩ := List.nodup_cons.1 hnodup
    by_cases he : e.1 = name
    · have hrest : ∀ a ∈ entries, decide (a.1 ≠ name) = true := by
        intro a ha
        have hname : a.1 ∈ entries.map Prod.fst := List.mem_map_of_mem ha
        simpa using fun heq : a.1 = name => hfresh ((he.trans heq.symm) ▸ hname)
      rw [List.eraseP_cons_of_pos (by simp [he]), List.filter_cons_of_neg (by simp [he]),
        List.filter_eq_self.2 hrest]
    · rw [List.eraseP_cons_of_neg (by simp [he]), List.filter_cons_of_pos (by simp [he]),
        ih hnodup]

theorem add_old {s s' : NameServer} {name : Path} {endpoint : CapPtr} {old : Option CapPtr}
    (h : s.add name endpoint = .ok (s', old)) : old = s.lookup name := by
  rw [add_eq] at h
  split at h
  · cases h
  · cases h
    rfl

/-! ## Histories -/

/-- Something that happened to a name server, and the endpoints that it handed back then. -/
inductive Event
  /-- An endpoint was accepted under a name. -/
  | registered (name : Path) (endpoint : CapPtr) (freed : List CapPtr)
  /-- The registration of a name was dropped. -/
  | removed (name : Path) (freed : List CapPtr)
  /-- The name server came to its end. -/
  | stopped (freed : List CapPtr)
  deriving DecidableEq, Repr

/-- What happened so far, the latest first. -/
abbrev History : Type := List Event

namespace History

/-- The endpoint that was registered last under a name and not removed since. -/
def found : History → Path → Option CapPtr
  | [], _ => none
  | .registered name endpoint _ :: older, m => if m = name then some endpoint else found older m
  | .removed name _ :: older, m => if m = name then none else found older m
  | .stopped _ :: _, _ => none

/-- All registrations ever made, the oldest first. -/
def registrations : History → List (Path × CapPtr)
  | [] => []
  | .registered name endpoint _ :: older => registrations older ++ [(name, endpoint)]
  | .removed _ _ :: older => registrations older
  | .stopped _ :: older => registrations older

/-- All endpoints ever accepted. -/
def accepted (h : History) : List CapPtr := h.registrations.map Prod.snd

/-- All endpoints ever handed back, in that order. -/
def freed : History → List CapPtr
  | [] => []
  | .registered _ _ back :: older => freed older ++ back
  | .removed _ back :: older => freed older ++ back
  | .stopped back :: older => freed older ++ back

/-- The registrations that stand, the oldest first: those whose name was neither registered nor
removed since. -/
def standing : History → List (Path × CapPtr)
  | [] => []
  | .registered name endpoint _ :: older =>
    ((standing older).filter fun e => e.1 ≠ name) ++ [(name, endpoint)]
  | .removed name _ :: older => (standing older).filter fun e => e.1 ≠ name
  | .stopped _ :: _ => []

/-- Only an endpoint with a name is accepted, and for the one it replaces; only what is registered
is removed; and what stands at the end is handed back in the order of registration. -/
def Lawful : History → Prop
  | [] => True
  | .registered name endpoint back :: older =>
    (name ≠ [] ∧ endpoint.isNull = false) ∧ back = (found older name).toList ∧ Lawful older
  | .removed name back :: older =>
    (found older name).isSome = true ∧ back = (found older name).toList ∧ Lawful older
  | .stopped back :: older => back = (standing older).map Prod.snd ∧ Lawful older

variable {h : History}

/-- The registration of a name, if it stands, is one of those that stand. -/
theorem standing_perm (h : History) (name : Path) :
    h.standing.Perm (((h.found name).map (Prod.mk name)).toList ++
      h.standing.filter fun e => e.1 ≠ name) := by
  induction h with
  | nil => simp [standing, found]
  | cons event older ih =>
    -- Dropping another name first does not touch the registration.
    have hother : ∀ other, name ≠ other →
        ((standing older).filter fun e => e.1 ≠ other).Perm
          (((found older name).map (Prod.mk name)).toList ++
            ((standing older).filter fun e => e.1 ≠ other).filter fun e => e.1 ≠ name) := by
      intro other hne
      have hkept : (((found older name).map (Prod.mk name)).toList.filter fun e => e.1 ≠ other) =
          ((found older name).map (Prod.mk name)).toList := by
        cases found older name <;> simp [hne]
      have hdropped := ih.filter fun e => e.1 ≠ other
      rw [List.filter_append, hkept, List.filter_filter] at hdropped
      rw [List.filter_filter]
      simpa only [Bool.and_comm] using hdropped
    cases event with
    | registered other endpoint back =>
      by_cases hname : name = other
      · subst hname
        simp only [standing, found, if_true, Option.map_some, Option.toList_some,
          List.filter_append, List.filter_filter, Bool.and_self]
        simp
      · have hlast := (hother other hname).append_right [(other, endpoint)]
        simpa [standing, found, hname, Ne.symm hname, List.filter_append] using hlast
    | removed other back =>
      by_cases hname : name = other
      · simp [standing, found, hname]
      · simpa [standing, found, hname] using hother other hname
    | stopped back => simp [standing, found]

/-- The endpoint of a name leaves what stands when the name is dropped. -/
theorem endpoints_perm (h : History) (name : Path) :
    (h.standing.map Prod.snd).Perm ((h.found name).toList ++
      (h.standing.filter fun e => e.1 ≠ name).map Prod.snd) := by
  have hperm := (h.standing_perm name).map Prod.snd
  rw [List.map_append] at hperm
  cases hfound : h.found name <;> simpa [hfound] using hperm

/-- What is found is what a look-up among the standing registrations finds. -/
theorem lookup_standing (h : History) (m : Path) : lookup ⟨h.standing⟩ m = h.found m := by
  induction h with
  | nil => rfl
  | cons event older ih =>
    cases event with
    | registered name endpoint back =>
      rw [standing, found, lookup_append, lookup_filter, ih]
      by_cases hm : m = name
      · simp [hm]
      · simp [hm, Ne.symm hm]
    | removed name back => rw [standing, found, lookup_filter, ih]
    | stopped back => rfl

/-- No two registrations of one name stand. -/
theorem standing_nodup (h : History) : (h.standing.map Prod.fst).Nodup := by
  induction h with
  | nil => exact List.nodup_nil
  | cons event older ih =>
    have hkept : ∀ name, (((standing older).filter fun e => e.1 ≠ name).map Prod.fst).Nodup :=
      fun name => ih.sublist (List.filter_sublist.map Prod.fst)
    cases event with
    | registered name endpoint back =>
      simp only [standing, List.map_append, List.map_singleton]
      rw [(List.perm_append_singleton _ _).nodup_iff]
      refine List.nodup_cons.2 ⟨?_, hkept name⟩
      simp
    | removed name back => exact hkept name
    | stopped back => exact List.nodup_nil

/-- What stands was accepted, so it has a name and is an endpoint. -/
theorem Lawful.named (hh : h.Lawful) : ∀ e ∈ h.standing, e.1 ≠ [] ∧ e.2.isNull = false := by
  induction h with
  | nil => nofun
  | cons event older ih =>
    intro e he
    cases event with
    | registered name endpoint back =>
      obtain ⟨hnew, -, hlawful⟩ := hh
      obtain hold | hlast := List.mem_append.1 he
      · exact ih hlawful e (List.mem_filter.1 hold).1
      · rw [List.mem_singleton.1 hlast]
        exact hnew
    | removed name back => exact ih hh.2.2 e (List.mem_filter.1 he).1
    | stopped back => cases he

/-- What stands was registered, in the same order. -/
theorem standing_sublist (h : History) : h.standing.Sublist h.registrations := by
  induction h with
  | nil => exact List.Sublist.slnil
  | cons event older ih =>
    cases event with
    | registered name endpoint back =>
      exact (List.filter_sublist.trans ih).append_right [(name, endpoint)]
    | removed name back => exact List.filter_sublist.trans ih
    | stopped back => exact List.nil_sublist _

/-- All that was accepted was handed back or stands, each endpoint as many times as it was
accepted. -/
theorem Lawful.accepted_perm (hh : h.Lawful) :
    h.accepted.Perm (h.freed ++ h.standing.map Prod.snd) := by
  induction h with
  | nil => exact List.Perm.nil
  | cons event older ih =>
    cases event with
    | registered name endpoint back =>
      obtain ⟨-, rfl, hlawful⟩ := hh
      have hbefore := ih hlawful
      have hname := endpoints_perm older name
      simp only [accepted, registrations, freed, standing, List.map_append, List.map_cons,
        List.map_nil] at hbefore ⊢
      rw [List.perm_iff_count] at hbefore hname ⊢
      intro a
      have hbefore := hbefore a
      have hname := hname a
      simp only [List.count_append] at hbefore hname ⊢
      omega
    | removed name back =>
      obtain ⟨-, rfl, hlawful⟩ := hh
      have hbefore := ih hlawful
      have hname := endpoints_perm older name
      simp only [accepted, registrations, freed, standing] at hbefore ⊢
      rw [List.append_assoc]
      exact hbefore.trans (hname.append_left _)
    | stopped back =>
      obtain ⟨rfl, hlawful⟩ := hh
      simpa [accepted, registrations, freed, standing] using ih hlawful

end History

/-! ## Name servers and their histories -/

variable {s s' : NameServer} {h : History} {name : Path} {endpoint : CapPtr}

/-- What its history says of a name server. -/
structure GoesBy (s : NameServer) (h : History) : Prop where
  named : ∀ e ∈ s.entries, e.1 ≠ [] ∧ e.2.isNull = false
  nodup : (s.entries.map Prod.fst).Nodup
  lookup_eq : ∀ name, s.lookup name = h.found name
  lawful : h.Lawful
  /-- What is registered is what stands, in the order of registration. -/
  entries_eq : s.entries = h.standing
  ordered : s.entries.Sublist h.registrations
  /-- What was accepted is what was handed back and what is registered. -/
  conserved : h.accepted.Perm (h.freed ++ s.endpoints)
  /-- When the name server stops, the rest is handed back, and with it all that was accepted. -/
  released : History.Lawful (.stopped s.endpoints :: h) ∧
    (History.accepted (.stopped s.endpoints :: h)).Perm (History.freed (.stopped s.endpoints :: h))

/-- The rest follows from what stands. -/
theorem GoesBy.of_standing (hentries : s.entries = h.standing) (hh : h.Lawful) : s.GoesBy h := by
  obtain ⟨entries⟩ := s
  obtain rfl : entries = h.standing := hentries
  have hstop : History.Lawful (.stopped (endpoints ⟨h.standing⟩) :: h) := ⟨rfl, hh⟩
  exact {
    named := hh.named
    nodup := h.standing_nodup
    lookup_eq := h.lookup_standing
    lawful := hh
    entries_eq := rfl
    ordered := h.standing_sublist
    conserved := hh.accepted_perm
    released := ⟨hstop, by simpa [History.standing] using hstop.accepted_perm⟩ }

theorem goesBy_empty : empty.GoesBy [] := .of_standing rfl trivial

theorem GoesBy.valid (hs : s.GoesBy h) : s.Valid where
  nodup := hs.nodup
  named hmem := by
    obtain ⟨e, he, hname⟩ := List.mem_map.1 hmem
    exact (hs.named e he).1 hname

theorem GoesBy.add {old : Option CapPtr} (hs : s.GoesBy h)
    (hadd : s.add name endpoint = .ok (s', old)) :
    s'.GoesBy (.registered name endpoint old.toList :: h) := by
  obtain ⟨hnew, rfl⟩ := add_eq_ok hadd
  apply GoesBy.of_standing
  · rw [without_eq_filter hs.valid, hs.entries_eq, History.standing]
  · exact ⟨hnew, by rw [add_old hadd, hs.lookup_eq], hs.lawful⟩

theorem GoesBy.delete {old : CapPtr} (hs : s.GoesBy h) (hdelete : s.delete name = .ok (s', old)) :
    s'.GoesBy (.removed name [old] :: h) := by
  obtain ⟨hold, rfl⟩ := delete_eq_ok hdelete
  have hfound : h.found name = some old := (hs.lookup_eq name).symm.trans hold
  apply GoesBy.of_standing
  · rw [without_eq_filter hs.valid, hs.entries_eq, History.standing]
  · exact ⟨by rw [hfound]; rfl, by rw [hfound]; rfl, hs.lawful⟩

/-- A call that changes a name server. -/
inductive Call
  | add (name : Path) (endpoint : CapPtr)
  | delete (name : Path)
  deriving DecidableEq, Repr

/-- Make a call, and note it with what it handed back. One that fails leaves no trace. -/
def Call.perform (call : Call) (s : NameServer) (h : History) : NameServer × History :=
  match call with
  | .add name endpoint =>
    match s.add name endpoint with
    | .ok (s', old) => (s', .registered name endpoint old.toList :: h)
    | .error _ => (s, h)
  | .delete name =>
    match s.delete name with
    | .ok (s', old) => (s', .removed name [old] :: h)
    | .error _ => (s, h)

/-- A name server and its history after some more calls. -/
def record (s : NameServer) (h : History) (calls : List Call) : NameServer × History :=
  calls.foldl (fun r call => call.perform r.1 r.2) (s, h)

theorem GoesBy.perform (hs : s.GoesBy h) (call : Call) :
    (call.perform s h).1.GoesBy (call.perform s h).2 := by
  cases call with
  | add name endpoint =>
    rw [Call.perform]
    split
    · next hadd => exact hs.add hadd
    · exact hs
  | delete name =>
    rw [Call.perform]
    split
    · next hdelete => exact hs.delete hdelete
    · exact hs

theorem GoesBy.record (hs : s.GoesBy h) (calls : List Call) :
    (s.record h calls).1.GoesBy (s.record h calls).2 := by
  induction calls generalizing s h with
  | nil => exact hs
  | cons call calls ih => exact ih (hs.perform call)

end NameServer

namespace Directory

variable {d : Directory} {ns : CapPtr} {s : NameServer}

/-! ## The histories in a directory -/

/-- The histories of the name servers of a directory, by endpoint. -/
abbrev Histories : Type := CapPtr → NameServer.History

variable {hs : Histories}

/-- What a call adds to the history of its name server when it succeeds, with the endpoints that
were handed back meanwhile. A name server that starts has no history yet. -/
def Call.note (freed : List CapPtr) (hs : Histories) : Call → Histories
  | .addServer ns => Function.update hs ns []
  | .removeServer ns => Function.update hs ns (.stopped freed :: hs ns)
  | .register ns path endpoint =>
    Function.update hs ns (.registered path.dropSlash endpoint freed :: hs ns)
  | .unregister ns path => Function.update hs ns (.removed path.dropSlash freed :: hs ns)

/-- Make a call, and note it if it succeeds. -/
def Call.perform (call : Call) (d : Directory) (hs : Histories) : Directory × Histories :=
  match call.attempt d with
  | (.ok (), d') => (d', call.note (d'.released.drop d.released.length) hs)
  | (.error _, d') => (d', hs)

/-- A directory and the histories of its name servers after some more calls. -/
def record (d : Directory) (hs : Histories) (calls : List Call) : Directory × Histories :=
  calls.foldl (fun r call => call.perform r.1 r.2) (d, hs)

/-- Every name server that runs goes by its history. Where none runs, nothing stands. -/
structure Accounted (d : Directory) (hs : Histories) : Prop where
  running : ∀ ns s, d.servers.get? ns = some s → s.GoesBy (hs ns)
  absent : ∀ ns, d.servers.get? ns = none → (hs ns).Lawful ∧ (hs ns).standing = []

theorem accounted_empty : Accounted empty fun _ => [] where
  running _ _ hget := nomatch hget
  absent _ _ := ⟨trivial, rfl⟩

/-- One name server changes, and its history with it. -/
theorem Accounted.insert {h : NameServer.History} (hd : Accounted d hs) (hs' : s.GoesBy h)
    (released : List CapPtr) :
    Accounted ⟨d.servers.insert ns s, released⟩ (Function.update hs ns h) where
  running m t hget := by
    rw [IdMap.get?_insert] at hget
    rw [Function.update_apply]
    split at hget
    · next hm =>
      cases hget
      rwa [if_pos hm]
    · next hm =>
      rw [if_neg hm]
      exact hd.running m t hget
  absent m hget := by
    rw [IdMap.get?_insert] at hget
    rw [Function.update_apply]
    split at hget
    · cases hget
    · next hm =>
      rw [if_neg hm]
      exact hd.absent m hget

theorem Accounted.erase (hd : Accounted d hs) (hget : d.servers.get? ns = some s)
    (released : List CapPtr) :
    Accounted ⟨d.servers.erase ns, released⟩
      (Function.update hs ns (.stopped s.endpoints :: hs ns)) where
  running m t hm := by
    rw [IdMap.get?_erase] at hm
    rw [Function.update_apply]
    split at hm
    · cases hm
    · next hne =>
      rw [if_neg hne]
      exact hd.running m t hm
  absent m hm := by
    rw [IdMap.get?_erase] at hm
    rw [Function.update_apply]
    split
    · exact ⟨(hd.running ns s hget).released.1, rfl⟩
    · next hne =>
      rw [if_neg hne] at hm
      exact hd.absent m hm

theorem Accounted.perform (hd : Accounted d hs) (call : Call) :
    Accounted (call.perform d hs).1 (call.perform d hs).2 := by
  cases call with
  | addServer ns =>
    obtain ⟨s, -, h⟩ | ⟨-, h⟩ := addServer_cases d ns <;> simp only [Call.perform, Call.attempt, h]
    · exact hd
    · exact hd.insert NameServer.goesBy_empty _
  | removeServer ns =>
    obtain ⟨-, h⟩ | ⟨s, hget, h⟩ := removeServer_cases d ns <;>
      simp only [Call.perform, Call.attempt, h]
    · exact hd
    · rw [List.drop_left]
      exact hd.erase hget _
  | register ns path endpoint =>
    obtain ⟨e, h⟩ | ⟨s, s', old, hget, hadd, h⟩ := register_cases d ns path endpoint <;>
      simp only [Call.perform, Call.attempt, h]
    · exact hd
    · rw [List.drop_left]
      exact hd.insert ((hd.running ns s hget).add hadd) _
  | unregister ns path =>
    obtain ⟨-, h⟩ | ⟨s, s', old, hget, hdelete, h⟩ := unregister_cases d ns path <;>
      simp only [Call.perform, Call.attempt, h]
    · exact hd
    · rw [List.drop_left]
      exact hd.insert ((hd.running ns s hget).delete hdelete) _

theorem perform_fst (call : Call) (d : Directory) (hs : Histories) :
    (call.perform d hs).1 = call.attempt.settle d := by
  unfold Call.perform Attempt.settle
  rcases call.attempt d with ⟨e | ⟨⟩, d'⟩ <;> rfl

theorem record_fst (d : Directory) (hs : Histories) (calls : List Call) :
    (d.record hs calls).1 = d.settle calls := by
  induction calls generalizing d hs with
  | nil => rfl
  | cons call calls ih =>
    calc (d.record hs (call :: calls)).1
        = ((call.perform d hs).1.record (call.perform d hs).2 calls).1 := rfl
      _ = (call.attempt.settle d).settle calls := by rw [ih, perform_fst]

theorem Accounted.record (hd : Accounted d hs) (calls : List Call) :
    Accounted (d.record hs calls).1 (d.record hs calls).2 := by
  induction calls generalizing d hs with
  | nil => exact hd
  | cons call calls ih => exact ih (hd.perform call)

theorem Accounted.lookup_eq (hd : Accounted d hs) (ns : CapPtr) (name : Path) :
    d.lookup ns name = (hs ns).found name := by
  rcases hget : d.servers.get? ns with _ | s
  · rw [lookup_eq_none_of_get? hget, ← (hs ns).lookup_standing, (hd.absent ns hget).2]
    rfl
  · rw [lookup_eq_of_get? hget, (hd.running ns s hget).lookup_eq]

/-- Where no name server runs, all that was accepted was handed back. -/
theorem Accounted.absent_perm (hd : Accounted d hs) (hget : d.servers.get? ns = none) :
    (hs ns).accepted.Perm (hs ns).freed := by
  obtain ⟨hlawful, hstanding⟩ := hd.absent ns hget
  simpa [hstanding] using hlawful.accepted_perm

/-- A call only adds to what was handed back, and one that fails leaves everything. -/
theorem settle_call (call : Call) (d : Directory) :
    d.released <+: (call.attempt.settle d).released ∧
      ((call.attempt d).1 ≠ .ok () → call.attempt.settle d = d) := by
  unfold Attempt.settle
  cases call with
  | addServer ns =>
    obtain ⟨s, -, h⟩ | ⟨-, h⟩ := addServer_cases d ns <;> simp [Call.attempt, h]
  | removeServer ns =>
    obtain ⟨-, h⟩ | ⟨s, -, h⟩ := removeServer_cases d ns <;> simp [Call.attempt, h]
  | register ns path endpoint =>
    obtain ⟨e, h⟩ | ⟨s, s', old, -, -, h⟩ := register_cases d ns path endpoint <;>
      simp [Call.attempt, h]
  | unregister ns path =>
    obtain ⟨-, h⟩ | ⟨s, s', old, -, -, h⟩ := unregister_cases d ns path <;> simp [Call.attempt, h]

/-- To drop a directory is to stop each of its name servers, in the order of their endpoints. -/
theorem close_eq (d : Directory) : d.close = d.settle (d.servers.keys.map .removeServer) := by
  obtain ⟨⟨entries, hsorted⟩, released⟩ := d
  induction entries generalizing released with
  | nil => simp [close, settle, IdMap.keys, IdMap.empty]
  | cons e entries ih =>
    obtain ⟨hfirst, hrest⟩ := List.pairwise_cons.1 hsorted
    have hget : (IdMap.mk (e :: entries) hsorted).get? e.1 = some e.2 :=
      IdMap.get?_eq_some_iff.2 List.mem_cons_self
    have herase : (IdMap.mk (e :: entries) hsorted).erase e.1 = ⟨entries, hrest⟩ := by
      apply IdMap.ext
      show (e :: entries).filter (fun p => p.1 != e.1) = entries
      rw [List.filter_cons_of_neg (by simp), List.filter_eq_self]
      intro a ha
      simpa using Nat.ne_of_gt (hfirst a ha)
    have hstop : (removeServer e.1).settle ⟨⟨e :: entries, hsorted⟩, released⟩ =
        ⟨⟨entries, hrest⟩, released ++ e.2.endpoints⟩ := by
      rw [Attempt.settle, removeServer, hget, herase]
    calc close ⟨⟨e :: entries, hsorted⟩, released⟩
        = close ⟨⟨entries, hrest⟩, released ++ e.2.endpoints⟩ := by
          simp [close, List.append_assoc]
      _ = settle ((removeServer e.1).settle ⟨⟨e :: entries, hsorted⟩, released⟩)
            (IdMap.keys ⟨entries, hrest⟩ |>.map .removeServer) := by rw [ih, hstop]

/-- **An endpoint that was accepted is handed back once, or registered.** A name server goes by its
history, on its own and in a directory. There a call leaves every other name server alone, one that
fails does nothing, and a name server that is gone handed back all that it accepted. A directory
goes by stopping its name servers. -/
theorem endpoints_accounted :
    (∀ calls : List NameServer.Call,
      (NameServer.empty.record [] calls).1.GoesBy (NameServer.empty.record [] calls).2) ∧
    ∀ calls : List Call, ∃ d hs, empty.record (fun _ => []) calls = (d, hs) ∧
      d = empty.settle calls ∧
      (∀ ns s, d.servers.get? ns = some s → s.GoesBy (hs ns)) ∧
      (∀ ns, d.servers.get? ns = none → (hs ns).Lawful ∧ (hs ns).accepted.Perm (hs ns).freed) ∧
      (∀ ns name, d.lookup ns name = (hs ns).found name) ∧
      (∀ call : Call, d.released <+: (call.attempt.settle d).released ∧
        ((call.attempt d).1 ≠ .ok () → call.attempt.settle d = d)) ∧
      d.close = d.settle (d.servers.keys.map .removeServer) := by
  refine ⟨NameServer.goesBy_empty.record, fun calls => ?_⟩
  have hall := accounted_empty.record calls
  exact ⟨_, _, rfl, record_fst _ _ calls, hall.running,
    fun ns hget => ⟨(hall.absent ns hget).1, hall.absent_perm hget⟩, hall.lookup_eq,
    fun call => settle_call call _, close_eq _⟩

/-- Two name servers, of which one is stopped again: an endpoint is replaced, one is removed, one is
left to the end, and two are not accepted. -/
def sampleCalls : List Call :=
  [.addServer 3, .register 3 ['/', 'f', 's'] 40, .register 3 ['f', 's'] 41, .register 3 ['/'] 42,
    .register 3 ['i', 'o'] 0, .register 3 ['i', 'o'] 43, .unregister 3 ['f', 's'], .addServer 4,
    .register 4 ['i', 'o'] 44, .removeServer 3]

/-- What became of them. -/
theorem endpoints_accounted_sample :
    let hs := (empty.record (fun _ => []) sampleCalls).2
    hs 3 = [.stopped [43], .removed ['f', 's'] [41], .registered ['i', 'o'] 43 [],
        .registered ['f', 's'] 41 [40], .registered ['f', 's'] 40 []] ∧
      (hs 3).accepted.Perm (hs 3).freed ∧
      NameServer.GoesBy ⟨[(['i', 'o'], 44)]⟩ (hs 4) ∧
      (register 4 ['/'] 45).settle (empty.settle sampleCalls) = empty.settle sampleCalls := by
  obtain ⟨d, hs, heq, rfl, hrunning, habsent, -, hcall, -⟩ := endpoints_accounted.2 sampleCalls
  rw [heq]
  have hhs : hs = (empty.record (fun _ => []) sampleCalls).2 := by rw [heq]
  have hfails : ((Call.register 4 ['/'] 45).attempt (empty.settle sampleCalls)).1 =
      .error .invalidArgument := rfl
  refine ⟨?_, (habsent 3 (by decide)).2, hrunning 4 _ (by decide), ?_⟩
  · rw [hhs]
    decide
  · apply (hcall (.register 4 ['/'] 45)).2
    rw [hfails]
    nofun

end Directory

end CapServer
