import CapServer.Names.Path
import CapServer.Session

/-!
# Server configuration

What a server is brought up with. Three classes of badge meet at a server: the one that marks
notifications, the sessions' badges, and the absence of a badge. `Config.checkBadges` refuses a
configuration in which a session could carry the badge of notifications.
-/

namespace CapServer

/-- Server construction parameters. -/
structure Config where
  /-- The server's name, for its own messages. -/
  name : String := "server"
  /-- Client ids lie in `[1, maxClients)`; a server without clients has zero. -/
  maxClients : Nat := 2048
  /-- The session of client `n` has the badge `clientBadgeBase + n`. -/
  clientBadgeBase : Nat := 0x1000
  /-- The size of the notification ring, zero for none. -/
  notificationBufferSize : Nat := 0x8000
  /-- The size of the parameter buffer to the process server, zero for none. -/
  paramBufferSize : Nat := 0x2000
  /-- The path the anonymous endpoint is published under. -/
  mountPoint : Option Path := none
  /-- The name server it is published at. -/
  nameServer : CapPtr := CapPtr.null
  /-- The badge of notifications. -/
  noticeBadge : Badge := 0x10
  deriving DecidableEq, Repr, Inhabited

namespace Config

/-- A server with sessions must have a badge for each, none of them the badge of notifications. -/
def checkBadges (c : Config) : Except Failure Unit :=
  if c.maxClients = 0 then .ok ()
  else do
    let (first, stop) ← ClientTable.badgeRange c.maxClients c.clientBadgeBase
    if first ≤ c.noticeBadge && c.noticeBadge < stop then .error .invalidArgument

end Config

end CapServer
