import CapServer.Names.NameServer
import CapServer.Text.Quoted

/-!
# The text of a name server

A name server as a list of its registrations, the oldest first, names quoted.
-/

namespace CapServer

namespace NameServer

/-- One registration. -/
def entryText (e : Path × CapPtr) : String :=
  "NameEntry \x7b name: " ++ Text.quoted e.1 ++ ", endpoint: CPtr(" ++ toString e.2 ++ ") \x7d"

/-- All registrations. -/
def text (s : NameServer) : String :=
  "NameServ \x7b entries: [" ++ ", ".intercalate (s.entries.map entryText) ++ "] \x7d"

end NameServer

end CapServer
