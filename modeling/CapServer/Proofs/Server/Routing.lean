import CapServer.Proofs.Message
import CapServer.Proofs.Server.Confined

/-!
# Where a message goes

The badge of a message decides whether it signals notifications (`Server.handle_signal`) or asks for
something (`Server.handle_request`).
-/

namespace CapServer

namespace Server

variable {σ : Type} {k : Kernel (World σ)} {svc : Service σ} {msg : Message} {s : Server σ}

/-- Send the reply, if there is one. -/
def deliver (k : Kernel (World σ)) : Dispatch × Option Message × Server σ → Dispatch × Server σ
  | (outcome, some reply, s) => (outcome, ((k.reply reply).on worldPart).settle s)
  | (outcome, none, s) => (outcome, s)

/-- Sending a reply has to do with the world only. -/
theorem deliver_spec (k : Kernel (World σ)) (r : Dispatch × Option Message × Server σ) :
    (deliver k r).1 = r.1 ∧ (deliver k r).2.station = r.2.2.station ∧
      (deliver k r).2.clients = r.2.2.clients := by
  rcases r with ⟨outcome, _ | reply, s⟩
  · exact ⟨rfl, rfl, rfl⟩
  · exact ⟨rfl, rfl, rfl⟩

/-- A message with the badge of notifications drains the ring, and nobody gets a reply. -/
theorem handle_signal (h : msg.badge = s.config.noticeBadge) :
    handle k svc msg s = (if (drainNotices svc s).1.toBool then .success else .error,
      (drainNotices svc s).2) := by
  rw [handle, if_pos h]

/-- Any other message is a request. -/
theorem handle_request (h : msg.badge ≠ s.config.noticeBadge) :
    handle k svc msg s = deliver k (respond svc msg s) := by
  rw [handle, if_neg h]
  rcases respond svc msg s with ⟨outcome, _ | reply, s'⟩ <;> rfl

end Server

end CapServer
