import MaximalMunch.Text

/-!
Switches of a pattern. The two character modes exclude each other where a group sets one; all other
switches are independent.
-/

namespace MaximalMunch.Pattern

inductive Flag where
  | ascii
  | ignoreCase
  | locale
  | multiLine
  | dotAll
  | template
  | unicode
  | verbose
  deriving DecidableEq, Repr

def Flag.ofChar? : Char → Option Flag
  | 'a' => some .ascii
  | 'i' => some .ignoreCase
  | 'L' => some .locale
  | 'm' => some .multiLine
  | 's' => some .dotAll
  | 't' => some .template
  | 'u' => some .unicode
  | 'x' => some .verbose
  | _ => none

/-- A character mode, of which a group has one at most. -/
def Flag.isMode : Flag → Bool
  | .ascii | .locale | .unicode => true
  | _ => false

/-- A set of switches, each listed once. -/
structure Flags where
  members : List Flag := []
  deriving DecidableEq, Repr

namespace Flags

def none : Flags := ⟨[]⟩

def has (s : Flags) (f : Flag) : Bool := s.members.contains f

def insert (s : Flags) (f : Flag) : Flags := if s.has f then s else ⟨s.members ++ [f]⟩

def union (s t : Flags) : Flags := t.members.foldl insert s

def remove (s t : Flags) : Flags := ⟨s.members.filter fun f => !t.has f⟩

def isEmpty (s : Flags) : Bool := s.members.isEmpty

def meets (s t : Flags) : Bool := s.members.any t.has

def modes (s : Flags) : List Flag := s.members.filter Flag.isMode

/-- The switches inside a group that turns `on` and `off` some of those outside. A character mode
that is turned on replaces the one outside. -/
def within (outer on off : Flags) : Flags :=
  let kept := if on.modes.isEmpty then outer else ⟨outer.members.filter fun f => !f.isMode⟩
  (kept.union on).remove off

end Flags
end MaximalMunch.Pattern
