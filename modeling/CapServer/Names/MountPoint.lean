import CapServer.Names.Directory

/-!
# Mount points

A path is resolved segment by segment, from a root name server on: each answer names the server to
ask next and how far the path is dealt with, until a server owns what is left.

The answers come from other processes and may say anything. `MountPoint.resolve` takes an answer
only if it moves on to a boundary within the rest of the path, so it ends after at most as many
questions as the path has characters, whatever it is told.
-/

namespace CapServer

/-- A path that was resolved to the server that owns its end. -/
structure MountPoint where
  /-- The anonymous endpoint of the owner. -/
  server : CapPtr
  /-- The name server the walk started at. -/
  root : CapPtr
  /-- The part of the path that was resolved, with the slash behind it. -/
  resolved : Path
  /-- The part the owner interprets. -/
  leaf : Path
  deriving DecidableEq, Repr

namespace MountPoint

variable {ω : Type}

/-- Go on at `server` with `rest`, after `resolved`. -/
def walk (names : NameResolver ω) (root server : CapPtr) (resolved rest : Path) :
    Attempt ω MountPoint :=
  if rest.isLeaf then pure ⟨server, root, resolved, rest⟩
  else do
    match ← names.resolve server rest with
    | .here => pure ⟨server, root, resolved, rest⟩
    | .forward endpoint consumed =>
      match _cut : rest.splitAt? consumed with
      | some (front, back) =>
        if _stuck : consumed = 0 then throw .malformed
        else walk names root endpoint (resolved ++ front ++ back.frontSlash) back.dropSlash
      | none => throw .malformed
termination_by rest.length
decreasing_by
  obtain ⟨rfl, hl⟩ := Path.splitAt?_eq_some _cut
  have hf : front ≠ [] := fun e => _stuck (by rw [← hl, e, Path.byteLength_nil])
  have := List.length_pos_iff.2 hf
  have := Path.length_dropSlash_le back
  rw [List.length_append]
  omega

/-- Resolve a path from the name server `root` on. -/
def resolve (names : NameResolver ω) (root : CapPtr) (path : Path) : Attempt ω MountPoint :=
  walk names root root [] path

end MountPoint

end CapServer
