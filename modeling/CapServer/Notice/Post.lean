import CapServer.Notice.Record
import CapServer.Ring.Memory

/-!
# Posting notices

The process server's side of a notification ring: one record after the other is appended to it, and
a record that does not fit is refused as a whole.
-/

namespace CapServer

namespace Writer

/-- Append a record as it is. -/
def postRecord (r : Record) : Attempt (Writer × Memory) Unit := write r.toBytes

/-- Append the record of a notice. -/
def post (n : Notice) : Attempt (Writer × Memory) Unit := postRecord n.record

end Writer

end CapServer
