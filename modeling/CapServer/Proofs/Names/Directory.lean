import CapServer.Names.Directory
import CapServer.Proofs.Names.Path

/-!
# What is registered

No name is registered twice at one name server, and the empty name never is (`NameServer.Valid`). So
a registration or a removal settles the look-ups of its own name and leaves every other name alone
(`NameServer.lookup_add`, `NameServer.lookup_delete`).

For a directory this gives `Directory.lookup_settle`: whatever calls are made on it, a name stays
registered under its endpoint until one of them is about that name at that name server
(`Directory.Call.Spares`), or stops the name server.
-/

namespace CapServer

/-- What a name server says of a path whose first segment ends after so many bytes. -/
def Resolution.ofLookup (found : Option CapPtr) (consumed : Nat) : Except Failure Resolution :=
  match found with
  | some endpoint => .ok (.forward endpoint consumed)
  | none => .error .notFound

namespace NameServer

variable {s s' : NameServer} {name : Path} {endpoint : CapPtr} {old : Option CapPtr}

/-- Every registration has a name, and a name of its own. -/
structure Valid (s : NameServer) : Prop where
  nodup : (s.entries.map Prod.fst).Nodup
  named : [] ∉ s.entries.map Prod.fst

theorem valid_empty : empty.Valid := ⟨List.nodup_nil, List.not_mem_nil⟩

theorem lookup_cons (e : Path × CapPtr) (entries : List (Path × CapPtr)) (name : Path) :
    lookup ⟨e :: entries⟩ name = if e.1 = name then some e.2 else lookup ⟨entries⟩ name := by
  unfold lookup
  rw [List.find?_cons]
  by_cases h : e.1 = name
  · simp [h]
  · simp [h, beq_eq_false_iff_ne.2 h]

theorem lookup_eq_none_iff : s.lookup name = none ↔ name ∉ s.entries.map Prod.fst := by
  rw [lookup, Option.map_eq_none_iff, List.find?_eq_none, List.mem_map, not_exists]
  refine forall_congr' fun e => ?_
  rw [not_and, beq_iff_eq]

/-- The empty name is not registered. -/
theorem Valid.lookup_nil (h : s.Valid) : s.lookup [] = none := lookup_eq_none_iff.2 h.named

/-- A name server less the registration of a name. -/
def without (s : NameServer) (name : Path) : NameServer :=
  ⟨s.entries.eraseP fun e => e.1 == name⟩

theorem without_eq_self (h : s.lookup name = none) : s.without name = s := by
  have hentries : (s.entries.eraseP fun e => e.1 == name) = s.entries := by
    apply List.eraseP_of_forall_not
    intro e he heq
    exact lookup_eq_none_iff.1 h (List.mem_map.2 ⟨e, he, eq_of_beq heq⟩)
  rw [without, hentries]

theorem without_names (s : NameServer) (name : Path) :
    ((s.without name).entries.map Prod.fst).Sublist (s.entries.map Prod.fst) :=
  List.eraseP_sublist.map Prod.fst

theorem Valid.without (h : s.Valid) (name : Path) : (s.without name).Valid where
  nodup := h.nodup.sublist (s.without_names name)
  named hmem := h.named ((s.without_names name).subset hmem)

theorem lookup_without (h : s.Valid) (name m : Path) :
    (s.without name).lookup m = if m = name then none else s.lookup m := by
  obtain ⟨entries⟩ := s
  have hnodup := h.nodup
  clear h
  simp only [NameServer.without]
  induction entries with
  | nil => simp [lookup]
  | cons e entries ih =>
    obtain ⟨hfresh, hnodup⟩ := List.nodup_cons.1 hnodup
    rw [List.eraseP_cons, lookup_cons]
    by_cases he : e.1 = name
    · -- The name does not stand in the rest.
      subst he
      rw [beq_self_eq_true, cond_true]
      by_cases hm : m = e.1
      · rw [if_pos hm, hm]
        exact lookup_eq_none_iff.2 hfresh
      · rw [if_neg hm, if_neg (Ne.symm hm)]
    · rw [beq_eq_false_iff_ne.2 he, cond_false, lookup_cons, ih hnodup]
      by_cases hm : m = name
      · subst hm
        rw [if_neg he, if_pos rfl, if_pos rfl]
      · rw [if_neg hm, if_neg hm]

theorem lookup_append (entries : List (Path × CapPtr)) (name m : Path) (endpoint : CapPtr) :
    lookup ⟨entries ++ [(name, endpoint)]⟩ m =
      (lookup ⟨entries⟩ m).or (if name = m then some endpoint else none) := by
  have hlast := lookup_cons (name, endpoint) [] m
  unfold lookup at hlast ⊢
  rw [List.find?_append, Option.map_or, hlast]
  rfl

theorem delete_eq (s : NameServer) (name : Path) :
    s.delete name = match s.lookup name with
      | some old => .ok (s.without name, old)
      | none => .error .notFound := by
  unfold delete lookup
  cases s.entries.find? fun e => e.1 == name <;> rfl

theorem add_eq (s : NameServer) (name : Path) (endpoint : CapPtr) :
    s.add name endpoint =
      if name.isEmpty || endpoint.isNull then .error .invalidArgument
      else .ok (⟨(s.without name).entries ++ [(name, endpoint)]⟩, s.lookup name) := by
  unfold add
  rw [delete_eq]
  rcases h : s.lookup name with _ | old
  · rw [without_eq_self h]
  · rfl

theorem delete_eq_ok {old : CapPtr} (h : s.delete name = .ok (s', old)) :
    s.lookup name = some old ∧ s' = s.without name := by
  rw [delete_eq] at h
  split at h
  · next hold =>
    cases h
    exact ⟨hold, rfl⟩
  · cases h

/-- What is registered has a name and an endpoint. -/
theorem add_eq_ok (h : s.add name endpoint = .ok (s', old)) :
    (name ≠ [] ∧ endpoint.isNull = false) ∧
      s' = ⟨(s.without name).entries ++ [(name, endpoint)]⟩ := by
  rw [add_eq] at h
  split at h
  · cases h
  · next hguard =>
    cases h
    simp only [Bool.or_eq_true, List.isEmpty_iff, not_or, Bool.not_eq_true] at hguard
    exact ⟨hguard, rfl⟩

/-- A path with a segment in front is answered by what is registered under that segment. -/
theorem resolve_of_cutSlash {path segment after : Path}
    (hcut : path.dropSlash.cutSlash = some (segment, after)) :
    s.resolve path =
      Resolution.ofLookup (s.lookup segment) (path.frontSlash ++ segment).byteLength := by
  have hslash : '/' ∈ path.dropSlash := by
    rw [(Path.cutSlash_eq_some_iff.1 hcut).1]
    simp
  have hne : path.dropSlash.isEmpty = false :=
    List.isEmpty_eq_false_iff.2 (List.ne_nil_of_mem hslash)
  simp only [resolve, Path.segment_eq hcut, hne, Bool.false_eq_true, if_false,
    List.contains_iff_mem.2 hslash, Bool.not_true]
  cases s.lookup segment <;> rfl

variable (hs : s.Valid)

include hs

theorem lookup_delete {old : CapPtr} (h : s.delete name = .ok (s', old)) (m : Path) :
    s'.lookup m = if m = name then none else s.lookup m := by
  rw [(delete_eq_ok h).2, lookup_without hs]

theorem Valid.delete {old : CapPtr} (h : s.delete name = .ok (s', old)) : s'.Valid := by
  rw [(delete_eq_ok h).2]
  exact hs.without name

theorem lookup_add (h : s.add name endpoint = .ok (s', old)) (m : Path) :
    s'.lookup m = if m = name then some endpoint else s.lookup m := by
  rw [(add_eq_ok h).2, lookup_append, lookup_without hs]
  by_cases hm : m = name
  · rw [if_pos hm, if_pos hm, if_pos hm.symm]
    rfl
  · rw [if_neg hm, if_neg hm, if_neg (Ne.symm hm), Option.or_none]

theorem Valid.add (h : s.add name endpoint = .ok (s', old)) : s'.Valid := by
  obtain ⟨⟨hname, -⟩, rfl⟩ := add_eq_ok h
  have hfresh : name ∉ (s.without name).entries.map Prod.fst := by
    rw [← lookup_eq_none_iff, lookup_without hs, if_pos rfl]
  constructor
  · rw [List.map_append, List.map_singleton]
    rw [(List.perm_append_singleton _ _).nodup_iff]
    exact List.nodup_cons.2 ⟨hfresh, (hs.without name).nodup⟩
  · rw [List.map_append, List.map_singleton, List.mem_append, List.mem_singleton, not_or]
    exact ⟨(hs.without name).named, Ne.symm hname⟩

end NameServer

namespace Directory

variable {d : Directory} {ns : CapPtr} {name path : Path} {endpoint : CapPtr} {s : NameServer}

theorem lookup_eq_of_get? (h : d.servers.get? ns = some s) (name : Path) :
    d.lookup ns name = s.lookup name := by
  rw [lookup, h, Option.bind_some]

theorem lookup_eq_none_of_get? (h : d.servers.get? ns = none) (name : Path) :
    d.lookup ns name = none := by
  rw [lookup, h, Option.bind_none]

theorem lookup_insert (d : Directory) (m ns : CapPtr) (s : NameServer) (released : List CapPtr)
    (name : Path) :
    lookup ⟨d.servers.insert m s, released⟩ ns name =
      if ns = m then s.lookup name else d.lookup ns name := by
  unfold lookup
  rw [IdMap.get?_insert]
  split <;> rfl

theorem lookup_eq_none_iff :
    d.lookup ns name = none ↔
      d.servers.get? ns = none ∨ ∃ s, d.servers.get? ns = some s ∧ s.lookup name = none := by
  unfold lookup
  rcases d.servers.get? ns with _ | s <;> simp

theorem resolve_of_cutSlash {segment after : Path}
    (hcut : path.dropSlash.cutSlash = some (segment, after)) :
    resolve ns path d =
      (Resolution.ofLookup (d.lookup ns segment) (path.frontSlash ++ segment).byteLength, d) := by
  unfold resolve
  rcases hget : d.servers.get? ns with _ | s
  · rw [lookup_eq_none_of_get? hget]
    rfl
  · dsimp only
    rw [lookup_eq_of_get? hget, NameServer.resolve_of_cutSlash hcut]

/-! ## Calls -/

/-- A call that changes a directory. -/
inductive Call
  | addServer (ns : CapPtr)
  | removeServer (ns : CapPtr)
  | register (ns : CapPtr) (path : Path) (endpoint : CapPtr)
  | unregister (ns : CapPtr) (path : Path)
  deriving DecidableEq, Repr

/-- The call as it is made. -/
def Call.attempt : Call → Attempt Directory Unit
  | .addServer ns => Directory.addServer ns
  | .removeServer ns => Directory.removeServer ns
  | .register ns path endpoint => Directory.register ns path endpoint
  | .unregister ns path => Directory.unregister ns path

/-- A directory after some calls, of which any may have failed. -/
def settle (d : Directory) (calls : List Call) : Directory :=
  calls.foldl (fun d call => call.attempt.settle d) d

/-- A directory that calls have led to. -/
def Made (d : Directory) : Prop := ∃ calls, d = empty.settle calls

theorem addServer_cases (d : Directory) (ns : CapPtr) :
    (∃ s, d.servers.get? ns = some s ∧ addServer ns d = (.error .invalidArgument, d)) ∨
      d.servers.get? ns = none ∧
        addServer ns d = (.ok (), ⟨d.servers.insert ns .empty, d.released⟩) := by
  unfold addServer IdMap.contains
  rcases d.servers.get? ns with _ | s
  · exact .inr ⟨rfl, rfl⟩
  · exact .inl ⟨s, rfl, rfl⟩

theorem removeServer_cases (d : Directory) (ns : CapPtr) :
    (d.servers.get? ns = none ∧ removeServer ns d = (.error .notFound, d)) ∨
      ∃ s, d.servers.get? ns = some s ∧
        removeServer ns d = (.ok (), ⟨d.servers.erase ns, d.released ++ s.endpoints⟩) := by
  unfold removeServer
  rcases d.servers.get? ns with _ | s
  · exact .inl ⟨rfl, rfl⟩
  · exact .inr ⟨s, rfl, rfl⟩

theorem register_cases (d : Directory) (ns : CapPtr) (path : Path) (endpoint : CapPtr) :
    (∃ e, register ns path endpoint d = (.error e, d)) ∨
      ∃ s s' old, d.servers.get? ns = some s ∧ s.add path.dropSlash endpoint = .ok (s', old) ∧
        register ns path endpoint d =
          (.ok (), ⟨d.servers.insert ns s', d.released ++ old.toList⟩) := by
  rcases hget : d.servers.get? ns with _ | s
  · exact .inl ⟨.notFound, by simp only [register, hget]⟩
  · rcases hadd : s.add path.dropSlash endpoint with e | ⟨s', old⟩
    · exact .inl ⟨e, by simp only [register, hget, hadd]⟩
    · exact .inr ⟨s, s', old, rfl, hadd, by simp only [register, hget, hadd]⟩

theorem unregister_cases (d : Directory) (ns : CapPtr) (path : Path) :
    (d.lookup ns path.dropSlash = none ∧ unregister ns path d = (.error .notFound, d)) ∨
      ∃ s s' old, d.servers.get? ns = some s ∧ s.delete path.dropSlash = .ok (s', old) ∧
        unregister ns path d = (.ok (), ⟨d.servers.insert ns s', d.released ++ [old]⟩) := by
  rcases hget : d.servers.get? ns with _ | s
  · exact .inl ⟨lookup_eq_none_of_get? hget _, by simp only [unregister, hget]⟩
  · have hdelete := s.delete_eq path.dropSlash
    rcases hold : s.lookup path.dropSlash with _ | old
    · simp only [hold] at hdelete
      exact .inl ⟨(lookup_eq_of_get? hget _).trans hold, by simp only [unregister, hget, hdelete]⟩
    · simp only [hold] at hdelete
      exact .inr ⟨s, _, old, rfl, hdelete, by simp only [unregister, hget, hdelete]⟩

/-! ## Valid directories -/

/-- Every name server of a directory is valid. -/
def Valid (d : Directory) : Prop := ∀ ns s, d.servers.get? ns = some s → s.Valid

theorem Valid.insert (hd : d.Valid) (ns : CapPtr) (hs : s.Valid) (released : List CapPtr) :
    Valid ⟨d.servers.insert ns s, released⟩ := by
  intro m t hget
  rw [IdMap.get?_insert] at hget
  split at hget
  · cases hget
    exact hs
  · exact hd m t hget

theorem Valid.erase (hd : d.Valid) (ns : CapPtr) (released : List CapPtr) :
    Valid ⟨d.servers.erase ns, released⟩ := by
  intro m t hget
  rw [IdMap.get?_erase] at hget
  split at hget
  · cases hget
  · exact hd m t hget

theorem Valid.call (hd : d.Valid) (call : Call) : (call.attempt.settle d).Valid := by
  unfold Attempt.settle
  cases call with
  | addServer ns =>
    obtain ⟨s, -, h⟩ | ⟨-, h⟩ := addServer_cases d ns <;> rw [Call.attempt, h]
    · exact hd
    · exact hd.insert ns NameServer.valid_empty _
  | removeServer ns =>
    obtain ⟨-, h⟩ | ⟨s, -, h⟩ := removeServer_cases d ns <;> rw [Call.attempt, h]
    · exact hd
    · exact hd.erase ns _
  | register ns path endpoint =>
    obtain ⟨e, h⟩ | ⟨s, s', old, hget, hadd, h⟩ := register_cases d ns path endpoint <;>
      rw [Call.attempt, h]
    · exact hd
    · exact hd.insert ns ((hd ns s hget).add hadd) _
  | unregister ns path =>
    obtain ⟨-, h⟩ | ⟨s, s', old, hget, hdelete, h⟩ := unregister_cases d ns path <;>
      rw [Call.attempt, h]
    · exact hd
    · exact hd.insert ns ((hd ns s hget).delete hdelete) _

theorem Valid.settle (hd : d.Valid) (calls : List Call) : (d.settle calls).Valid := by
  induction calls generalizing d with
  | nil => exact hd
  | cons call calls ih => exact ih (hd.call call)

theorem Made.valid (hd : d.Made) : d.Valid := by
  obtain ⟨calls, rfl⟩ := hd
  apply Valid.settle
  intro ns s hget
  cases hget

/-- The empty name is registered nowhere. -/
theorem Valid.lookup_nil (hd : d.Valid) (ns : CapPtr) : d.lookup ns [] = none := by
  rcases hget : d.servers.get? ns with _ | s
  · exact lookup_eq_none_of_get? hget []
  · rw [lookup_eq_of_get? hget]
    exact (hd ns s hget).lookup_nil

/-! ## What a call does to the look-ups -/

/-- A name server starts without registrations, so nothing is found or lost. -/
theorem lookup_addServer (d : Directory) (m ns : CapPtr) (name : Path) :
    ((addServer m).settle d).lookup ns name = d.lookup ns name := by
  unfold Attempt.settle
  obtain ⟨s, -, h⟩ | ⟨hget, h⟩ := addServer_cases d m
  · rw [h]
  · rw [h, lookup_insert]
    split
    · next hns =>
      subst hns
      rw [lookup_eq_none_of_get? hget]
      rfl
    · rfl

theorem lookup_removeServer (d : Directory) (m ns : CapPtr) (name : Path) :
    ((removeServer m).settle d).lookup ns name = if ns = m then none else d.lookup ns name := by
  unfold Attempt.settle
  obtain ⟨hget, h⟩ | ⟨s, -, h⟩ := removeServer_cases d m
  · rw [h]
    split
    · next hns => rw [hns, lookup_eq_none_of_get? hget]
    · rfl
  · rw [h]
    unfold lookup
    rw [IdMap.get?_erase]
    split <;> rfl

theorem lookup_register (hd : d.Valid) (h : (register ns path endpoint d).1 = .ok ())
    (m : CapPtr) (name : Path) :
    ((register ns path endpoint).settle d).lookup m name =
      if m = ns ∧ name = path.dropSlash then some endpoint else d.lookup m name := by
  unfold Attempt.settle
  obtain ⟨e, heq⟩ | ⟨s, s', old, hget, hadd, heq⟩ := register_cases d ns path endpoint
  · rw [heq] at h
    cases h
  · rw [heq, lookup_insert, NameServer.lookup_add (hd ns s hget) hadd]
    by_cases hm : m = ns
    · simp only [hm, true_and, if_true, lookup_eq_of_get? hget]
    · simp only [hm, false_and, if_false]

theorem lookup_unregister (hd : d.Valid) (ns m : CapPtr) (path name : Path) :
    ((unregister ns path).settle d).lookup m name =
      if m = ns ∧ name = path.dropSlash then none else d.lookup m name := by
  unfold Attempt.settle
  obtain ⟨hnone, heq⟩ | ⟨s, s', old, hget, hdelete, heq⟩ := unregister_cases d ns path
  · rw [heq]
    split
    · next hm => rw [hm.1, hm.2, hnone]
    · rfl
  · rw [heq, lookup_insert, NameServer.lookup_delete (hd ns s hget) hdelete]
    by_cases hm : m = ns
    · simp only [hm, true_and, if_true, lookup_eq_of_get? hget]
    · simp only [hm, false_and, if_false]

/-- Removing a path hands back the endpoint that stood there. -/
theorem released_unregister (d : Directory) (ns : CapPtr) (path : Path) :
    ((unregister ns path).settle d).released =
      d.released ++ (d.lookup ns path.dropSlash).toList := by
  unfold Attempt.settle
  obtain ⟨hnone, heq⟩ | ⟨s, s', old, hget, hdelete, heq⟩ := unregister_cases d ns path
  · rw [heq, hnone, Option.toList_none, List.append_nil]
  · rw [heq, lookup_eq_of_get? hget, (NameServer.delete_eq_ok hdelete).1]
    rfl

/-! ## What calls leave registered -/

/-- Whether a call leaves a name at a name server alone: it neither stops the name server nor
registers or removes the name. The null endpoint is never registered. -/
def Call.Spares (ns : CapPtr) (name : Path) : Call → Prop
  | .addServer _ => True
  | .removeServer m => m ≠ ns
  | .register m path endpoint => m = ns → path.dropSlash = name → endpoint.isNull = true
  | .unregister m path => m = ns → path.dropSlash ≠ name

/-- What is registered has a name and an endpoint. -/
theorem register_eq_ok (h : (register ns path endpoint d).1 = .ok ()) :
    path.dropSlash ≠ [] ∧ endpoint.isNull = false := by
  obtain ⟨e, heq⟩ | ⟨s, s', old, -, hadd, -⟩ := register_cases d ns path endpoint
  · rw [heq] at h
    cases h
  · exact (NameServer.add_eq_ok hadd).1

theorem lookup_call (hd : d.Valid) {call : Call} (hcall : call.Spares ns name) :
    (call.attempt.settle d).lookup ns name = d.lookup ns name := by
  cases call with
  | addServer m => exact lookup_addServer d m ns name
  | removeServer m =>
    rw [Call.attempt, lookup_removeServer]
    exact if_neg hcall.symm
  | register m path endpoint =>
    obtain ⟨e, heq⟩ | ⟨s, s', old, -, -, heq⟩ := register_cases d m path endpoint
    · rw [Call.attempt, Attempt.settle, heq]
    · have hok : (register m path endpoint d).1 = .ok () := by rw [heq]
      rw [Call.attempt, lookup_register hd hok]
      refine if_neg ?_
      rintro ⟨rfl, rfl⟩
      have hnull := (register_eq_ok hok).2
      rw [hcall rfl rfl] at hnull
      cases hnull
  | unregister m path =>
    rw [Call.attempt, lookup_unregister hd]
    refine if_neg ?_
    rintro ⟨rfl, rfl⟩
    exact hcall rfl rfl

/-- A name stays as it is registered while calls leave it alone. -/
theorem lookup_settle (hd : d.Valid) {calls : List Call}
    (hcalls : ∀ call ∈ calls, call.Spares ns name) :
    (d.settle calls).lookup ns name = d.lookup ns name := by
  induction calls generalizing d with
  | nil => rfl
  | cons call calls ih =>
    obtain ⟨hcall, hcalls⟩ := List.forall_mem_cons.1 hcalls
    calc (d.settle (call :: calls)).lookup ns name
        = ((call.attempt.settle d).settle calls).lookup ns name := rfl
      _ = (call.attempt.settle d).lookup ns name := ih (hd.call call) hcalls
      _ = d.lookup ns name := lookup_call hd hcall

end Directory

end CapServer
