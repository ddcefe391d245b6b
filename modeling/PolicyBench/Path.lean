/-
  PolicyBench — paths.

  A path is a text whose parts are separated by slashes.  It names a place by
  its components: empty parts and a `.` that does not come first say nothing.

  * `Path.join` puts a relative path behind a directory; an absolute one
    replaces it;
  * `Path.components` are the components a path goes through;
  * `Path.Same`: two paths are the same if their components are.
-/
import PolicyBench.Text.Parts

namespace PolicyBench

/-- A path, as written. -/
structure Path where
  text : String
  deriving DecidableEq, Repr, Inhabited

/-- A step of a path. -/
inductive Component where
  /-- the root directory -/
  | root
  /-- the directory one is in, at the start of a path -/
  | current
  /-- the directory above -/
  | parent
  /-- an entry of the directory one is in -/
  | named (name : String)
  deriving DecidableEq, Repr

namespace Path

/-- The component that a part after the first one stands for. -/
def componentOf (part : List Char) : Option Component :=
  match part with
  | [] => none
  | ['.'] => none
  | ['.', '.'] => some .parent
  | part => some (.named (String.ofList part))

/-- Whether the path starts at the root. -/
def isAbsolute (p : Path) : Bool := p.text.toList.head? == some '/'

/-- The components of a path, from its start. -/
def components (p : Path) : List Component :=
  match Text.parts '/' p.text.toList with
  | [] => []
  | first :: rest =>
    let start :=
      if p.isAbsolute then [.root]
      else if first = ['.'] then [.current]
      else (componentOf first).toList
    start ++ rest.filterMap componentOf

/-- Same components, whatever the spelling. -/
def Same (p q : Path) : Prop := p.components = q.components

instance (p q : Path) : Decidable (p.Same q) := by unfold Same; infer_instance

/-- The path `q` seen from the directory `p`. -/
def join (p : Path) (q : String) : Path :=
  if Path.isAbsolute ⟨q⟩ then ⟨q⟩
  else if p.text.toList.getLast?.all (· == '/') then ⟨p.text ++ q⟩
  else ⟨p.text ++ "/" ++ q⟩

theorem join_of_isAbsolute {p : Path} {q : String} (h : Path.isAbsolute ⟨q⟩ = true) :
    p.join q = ⟨q⟩ := by
  simp [join, h]

end Path

end PolicyBench
