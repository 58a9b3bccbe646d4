import CapServer.Names.Directory

/-!
# A scripted name service

A name service that gives prepared answers one after the other, whoever asks for whatever, and keeps
the questions. When the answers are used up it knows nothing.
-/

namespace CapServer

/-- Answers still to give, and the questions so far. -/
structure NameScript where
  answers : List (Except Failure Resolution)
  asked : List (CapPtr × Path)

namespace NameScript

/-- Give the next answer. -/
def resolve (ns : CapPtr) (path : Path) : Attempt NameScript Resolution := fun s =>
  let asked := s.asked ++ [(ns, path)]
  match s.answers with
  | [] => (.error .notFound, ⟨[], asked⟩)
  | answer :: rest => (answer, ⟨rest, asked⟩)

/-- The script as a name service; it takes no registrations. -/
def resolver : NameResolver NameScript where
  register _ _ _ := throw .unsupported
  unregister _ _ := throw .unsupported
  resolve := resolve

end NameScript

end CapServer
