import WorkspaceConsole.Http.Domain.Label
import WorkspaceConsole.Text.Utf8

/-!
# Names of servers

A name of a server in any script has a written form in small plain letters, under which it is looked
up (UTS #46). Labels that are written in plain letters already stay so, but must stand for a label
that has no other written form.
-/

namespace WorkspaceConsole.Http.Domain

open Text

/-- The labels of a name after its characters have been replaced and composed. -/
def labels? (name : List Char) : Option (List (List Char)) :=
  (name.mapM image?).map fun images => pieces (· == '.') (composed images.flatten)

/-- The written form of a name of a server. -/
def written? (name : List UInt8) : Option (List Char) := do
  let labels ← labels? (← Utf8.decode? name).toList
  let meant ← labels.mapM meant?
  if meant.all isWellFormed && (!meant.any turnsLeft || meant.all keepsDirection) then
    return joinWith '.' (← labels.mapM plain?)
  else none

end WorkspaceConsole.Http.Domain
