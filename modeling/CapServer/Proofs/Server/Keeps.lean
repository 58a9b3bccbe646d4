import CapServer.Proofs.Server.Ownership

/-!
# What coming up and going down keep

A server that comes up calls its platform and publishes its mount point; one that goes down takes
the mount point back and calls its kernel. So a property of the world that these keep is kept,
whether or not the server comes up (`Server.start_keeps`, `Server.shutdown_keeps`).
-/

namespace CapServer

namespace Server

variable {σ : Type} {p : Platform (World σ)} {k : Kernel (World σ)}
  {names : Option (NameResolver (World σ))} {config : Config} {s : Server σ} {I : World σ → Prop}
  {c c' c₁ c₂ c₃ c₄ c₅ c₆ : CapSpace (World σ)}

/-! ## Coming up -/

section Platform

variable (hp : p.Keeps I)

include hp

theorem create_keeps (size : Nat) :
    (MappedBuffer.create p.procs size).Keeps fun c => I c.world := by
  refine .bind CapSpace.alloc_keeps fun dataspace => .bind
    (((hp.procs.openDataspace size dataspace).on CapSpace.worldPart).catching) fun outcome => ?_
  cases outcome with
  | ok region => exact .pure _
  | error e => exact fun _ h => h

theorem openNotices_keeps (size : Nat) : (openNotices p.procs size).Keeps fun c => I c.world := by
  rw [openNotices]
  split
  · exact .pure none
  · refine .bind (create_keeps hp size) fun buffer => ?_
    refine .bind ((hp.procs.registerNotices buffer.dataspace).on CapSpace.worldPart) fun _ => ?_
    exact .bind .get fun _ => .pure _

theorem openParams_keeps (size : Nat) : (openParams p.procs size).Keeps fun c => I c.world := by
  rw [openParams]
  split
  · exact .pure none
  · refine .bind (create_keeps hp size) fun buffer => ?_
    refine .bind ((hp.procs.registerParams buffer.dataspace size).on CapSpace.worldPart) fun _ => ?_
    exact .pure _

/-- Up to the publishing, a server coming up makes calls of its platform only. -/
theorem Steps.keeps_before (steps : Steps p names config s c c₁ c₂ c₃ c₄ c₅ c₆) (h : I c.world) :
    I c₄.world := by
  have h₁ : I c₁.world :=
    (CapSpace.allocFilled_keeps hp.procs.newEndpoint).of_eq steps.anonEp h
  have h₂ : I c₂.world :=
    (CapSpace.allocFilled_keeps hp.procs.newAsyncEndpoint).of_eq steps.asyncEp h₁
  have h₃ : I c₃.world :=
    (CapSpace.allocFilled_keeps fun dest => hp.kernel.mint dest _ _).of_eq steps.notifyEp h₂
  exact (hp.kernel.bindNotification _).of_eq (CapSpace.world_of_on steps.bound) h₃

/-- And so it does after it. -/
theorem Steps.keeps_after (steps : Steps p names config s c c₁ c₂ c₃ c₄ c₅ c₆) (h : I c₅.world) :
    I s.caps.world :=
  (openParams_keeps hp _).of_eq steps.params ((openNotices_keeps hp _).of_eq steps.notices h)

end Platform

section Names

variable (hnames : ∀ n path endpoint, names = some n → config.mountPoint = some path →
  (n.register config.nameServer path endpoint).Keeps I)

include hnames

theorem publish_keeps (endpoint : CapPtr) :
    (publish names config endpoint).Keeps fun c => I c.world := by
  rw [publish]
  rcases hmount : config.mountPoint with _ | path
  · exact .pure ()
  · rcases hn : names with _ | n
    · exact .throw _
    · exact (hnames n path endpoint hn hmount).on CapSpace.worldPart

/-- Coming up, with or without success, is a matter of the platform and of publishing. -/
theorem start_keeps (hp : p.Keeps I) : (start p names config).Keeps fun c => I c.world := by
  refine .bind (.ofExcept _) fun _ => ?_
  refine .bind (CapSpace.allocFilled_keeps hp.procs.newEndpoint) fun anonEp => ?_
  refine .bind (CapSpace.allocFilled_keeps hp.procs.newAsyncEndpoint) fun asyncEp => ?_
  refine .bind (CapSpace.allocFilled_keeps fun dest => hp.kernel.mint dest asyncEp _) fun _ => ?_
  refine .bind ((hp.kernel.bindNotification asyncEp).on CapSpace.worldPart) fun _ => ?_
  refine .bind (publish_keeps hnames anonEp) fun _ => ?_
  refine .bind (.ofExcept _) fun _ => ?_
  refine .bind (openNotices_keeps hp _) fun _ => ?_
  refine .bind (openParams_keeps hp _) fun _ => ?_
  exact .bind .get fun _ => .pure _

end Names

/-- A server that came up has the capability space that is left. -/
theorem caps_of_start (hr : start p names config c = (.ok s, c')) : s.caps = c' := by
  iterate 9 obtain ⟨_, _, -, hr⟩ := Attempt.bind_eq_ok hr
  cases hr
  rfl

/-! ## Going down -/

section Kernel

variable (hk : k.Keeps I)

include hk

theorem discard_keeps (slots : List CapPtr) (h : I c.world) :
    I (slots.foldl (fun caps slot => caps.discard k slot) c).world := by
  induction slots generalizing c with
  | nil => exact h
  | cons slot slots ih =>
    have hrelease : (CapSpace.release k slot).Keeps fun c => I c.world :=
      .bind ((hk.delete slot).on CapSpace.worldPart) fun _ => .modify fun _ h => h
    exact ih (hrelease c h)

/-- After the mount point, going down is a matter of the kernel. -/
theorem shutdown_keeps (h : I (s.withdraw names).world) : I (s.shutdown k names).world := by
  rw [shutdown]
  rcases s.clients with _ | t
  · exact discard_keeps hk _ h
  · dsimp only
    rw [ClientTable.release_eq]
    exact discard_keeps hk _ (discard_keeps hk _ h)

end Kernel

end Server

end CapServer
