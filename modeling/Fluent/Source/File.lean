import Fluent.Source.Lines
import Fluent.Syntax.Cursor

/-! Source files. -/

set_option autoImplicit false

namespace Fluent

structure SourceFile where
  packageName : String
  /-- The offset of the package clause. -/
  start : Nat
  stop : Nat
  /-- Missing if nothing is known about the positions in the file. -/
  lines : Option LineTable
  comments : List CommentGroup
  doc : CommentGroup
  decls : List Node

namespace SourceFile

/-- A file without known positions does not count as generated. -/
def generated (file : SourceFile) : Bool :=
  file.lines.isSome && isGenerated file.comments file.start

/-- Does a comment behind a position on its line accept findings? -/
def nolintAt (file : SourceFile) (position : Nat) : Bool :=
  match file.lines with
  | none => false
  | some lines => Fluent.nolintAt lines file.comments position

def ref (file : SourceFile) : NodeRef :=
  { kind := .file, start := file.start, stop := file.stop }

/-- The positions of a file in the order of its text. -/
def cursors (file : SourceFile) : List Cursor :=
  file.decls.flatMap (Node.cursors [])

end SourceFile

end Fluent
