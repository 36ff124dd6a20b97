import MaximalMunch.Pattern.Inline
import MaximalMunch.Text.Identifier

/-!
Reading a whole regular expression. A sequence of items ends at a bar, at a closing parenthesis or
at the end; bars between sequences make a choice. A choice is simplified as it is read: what all
alternatives begin with is written once in front of it, and a choice between single characters is a
set.
-/

namespace MaximalMunch.Pattern

/-- Takes the common first item off all sequences. -/
def commonFirst? : List (List Tree) → Option (Tree × List (List Tree))
  | (first :: rest) :: others =>
    if others.all fun o => match o with
      | item :: _ => first.sameAtom item
      | [] => false
    then some (first, rest :: others.map List.tail)
    else none
  | _ => none

def factor : Nat → List (List Tree) → List Tree × List (List Tree)
  | 0, alternatives => ([], alternatives)
  | fuel + 1, alternatives =>
    match commonFirst? alternatives with
    | some (first, rests) =>
      let (shared, left) := factor fuel rests
      (first :: shared, left)
    | none => ([], alternatives)

/-- The members of a sequence that is one character or one set. -/
def asMembers? : List Tree → Option (List Member)
  | [.char c] => some [.char c]
  | [.set false members] => some members
  | _ => none

def asSet? (alternatives : List (List Tree)) : Option Tree :=
  (alternatives.mapM asMembers?).map fun members => .set false (Read.distinct members.flatten)

def choice (alternatives : List (List Tree)) : List Tree :=
  match alternatives with
  | [only] => only
  | _ =>
    let size := (alternatives.head?.getD []).length
    let (shared, left) := factor size alternatives
    shared ++ [(asSet? left).getD (.branch left)]

/-- Groups that only enclose give way to what they enclose. -/
def unwrap (items : List Tree) : List Tree :=
  items.flatMap fun item =>
    match item with
    | .group none on off body => if on.isEmpty && off.isEmpty then body else [item]
    | item => [item]

def isPatternBlank (c : Char) : Bool :=
  c == ' ' || c == '\t' || c == '\n' || c == '\r' || c == '\x0b' || c == '\x0c'

/-- The groups are numbered below this. -/
def maxGroups : Nat := 1073741823

def groupName : Text := "group name".toList

namespace Read

/-- Skips a comment that ends at a line feed or at the end. -/
def lineComment : Nat → Read Unit
  | 0 => return
  | fuel + 1 => do
    match ← take with
    | none => return
    | some l => if l = .plain '\n' then return else lineComment fuel

/-- Skips a comment that ends at a closing parenthesis. -/
def groupComment (start : Nat) : Nat → Read Unit
  | 0 => failAt start .unterminatedComment
  | fuel + 1 => do
    match ← take with
    | none => failAt start .unterminatedComment
    | some l => if l = .plain ')' then return else groupComment start fuel

def checkedName (closer : Char) : Read Text := do
  let name ← name closer groupName
  if !Text.isIdentifier name then fail (.badGroupName name) (name.length + 1)
  return name

/-- A reference by name, whose opening has been taken. -/
def namedReference : Read Tree := do
  let name ← checkedName ')'
  match ← numberOf? name with
  | none => fail (.unknownGroupName name) (name.length + 1)
  | some number =>
    if !(← isClosed number) then fail .openGroup (name.length + 1)
    checkLookBehind number
    return .again number

/-- The group that a condition asks for, by name or by number. -/
def conditionGroup : Read Nat := do
  let name ← name ')' groupName
  let number ←
    if Text.isIdentifier name then
      match ← numberOf? name with
      | none => fail (.unknownGroupName name) (name.length + 1)
      | some number => pure number
    else
      let long := Text.maxDigits < (name.filter Text.isDecimal).length
      match if long then none else Text.readInt? 10 name with
      | none => fail (.badGroupName name) (name.length + 1)
      | some (.negSucc _) => fail (.badGroupName name) (name.length + 1)
      | some (.ofNat 0) => fail .groupNumberZero (name.length + 1)
      | some (.ofNat number) =>
        if maxGroups ≤ number then fail (.unknownGroupNumber number) (name.length + 1)
        let place := (← position) - name.length - 1
        modify fun r =>
          if r.asked.any (·.1 == number) then r
          else { r with asked := r.asked ++ [(number, place)] }
        pure number
  checkLookBehind number
  return number

def close (start : Nat) : Read Unit := do
  if !(← accept ')') then failAt start .unterminatedGroup

mutual

/-- Reads a choice. `outermost` marks the one that no group encloses, `before` are the alternatives
read so far. -/
def alternatives : Nat → (verbose outermost : Bool) → (before : List (List Tree)) →
    Read (List Tree)
  | 0, _, _, _ => fail .endOfPattern
  | fuel + 1, verbose, outermost, before => do
    let item ← sequence fuel verbose (outermost && before.isEmpty) []
    if ← accept '|' then
      let r ← get
      let verbose := if outermost then r.flags.has .verbose else verbose
      alternatives fuel verbose outermost (before ++ [item])
    else return choice (before ++ [item])

/-- Reads a sequence onto `items`, which lie in reverse order. -/
def sequence : Nat → (verbose first : Bool) → (items : List Tree) → Read (List Tree)
  | 0, _, _, _ => fail .endOfPattern
  | fuel + 1, verbose, first, items => do
    match ← next with
    | none => return unwrap items.reverse
    | some (.plain c) =>
      if c = '|' || c = ')' then return unwrap items.reverse
      skip
      if verbose && isPatternBlank c then sequence fuel verbose first items
      else if verbose && c = '#' then
        lineComment fuel
        sequence fuel verbose first items
      else if c = '[' then sequence fuel verbose first ((← set) :: items)
      else if c = '*' || c = '+' || c = '?' || c = '\x7b' then
        sequence fuel verbose first (← repeatMark c items)
      else if c = '.' then sequence fuel verbose first (.any :: items)
      else if c = '^' then sequence fuel verbose first (.anchor .lineStart :: items)
      else if c = '$' then sequence fuel verbose first (.anchor .lineEnd :: items)
      else if c = '(' then
        let (item?, verbose) ← group fuel verbose (first && items.isEmpty)
        sequence fuel verbose first (item?.toList ++ items)
      else sequence fuel verbose first (.char c.toNat :: items)
    | some (.escaped c) =>
      skip
      sequence fuel verbose first ((← escape c) :: items)

/-- Reads what follows an opening parenthesis: an item, if any, and whether blanks count from there
on. `atStart` allows switches for the whole pattern. -/
def group : Nat → (verbose atStart : Bool) → Read (Option Tree × Bool)
  | 0, _, _ => fail .endOfPattern
  | fuel + 1, verbose, atStart => do
    let start := (← position) - 1
    if !(← accept '?') then
      return (some (← capture fuel verbose start none), verbose)
    match ← take with
    | none => fail .endOfPattern
    | some (.escaped c) => fail (.unknownExtension ['\\', c]) 3
    | some (.plain c) =>
      if c = 'P' then
        if ← accept '<' then
          let name ← checkedName '>'
          return (some (← capture fuel verbose start (some name)), verbose)
        else if ← accept '=' then return (some (← namedReference), verbose)
        else match ← take with
          | none => fail .endOfPattern
          | some l => fail (.unknownExtension ('P' :: l.text)) (l.text.length + 2)
      else if c = ':' then return (some (← enclosed fuel verbose start .none .none), verbose)
      else if c = '#' then
        groupComment start fuel
        return (none, verbose)
      else if c = '=' || c = '!' then
        let body ← alternatives fuel verbose false []
        close start
        return (some (.look false (c == '!') body), verbose)
      else if c = '<' then
        match ← take with
        | none => fail .endOfPattern
        | some l =>
          if !(l = .plain '=' || l = .plain '!') then
            fail (.unknownExtension ('<' :: l.text)) (l.text.length + 2)
          let outer := (← get).ownGroupsFrom
          if outer.isNone then
            let count ← groupCount
            modify fun r => { r with ownGroupsFrom := some count }
          let body ← alternatives fuel verbose false []
          if outer.isNone then modify fun r => { r with ownGroupsFrom := none }
          close start
          return (some (.look true (l = .plain '!') body), verbose)
      else if c = '(' then
        let number ← conditionGroup
        let yes ← sequence fuel verbose false []
        let no ←
          if ← accept '|' then
            let no ← sequence fuel verbose false []
            if (← next) = some (.plain '|') then fail .thirdBranch
            pure no
          else pure []
        close start
        return (some (.condition number yes no), verbose)
      else if c = '>' then
        let body ← alternatives fuel verbose false []
        close start
        return (some (.atomic body), verbose)
      else
        let flag? := Flag.ofChar? c
        if flag?.isSome || c = '-' then
          match ← switches flag? with
          | some (on, off) => return (some (← enclosed fuel verbose start on off), verbose)
          | none =>
            if !atStart then failAt start .lateGlobalFlags
            return (none, (← get).flags.has .verbose)
        else fail (.unknownExtension [c]) 2

/-- A group that is numbered and may be named. -/
def capture : Nat → Bool → Nat → Option Text → Read Tree
  | 0, _, _, _ => fail .endOfPattern
  | fuel + 1, verbose, start, name? => do
    let number ← openGroup name?
    let body ← alternatives fuel verbose false []
    close start
    closeGroup number body
    return .group (some number) .none .none body

/-- A group that is not numbered. -/
def enclosed : Nat → Bool → Nat → Flags → Flags → Read Tree
  | 0, _, _, _, _ => fail .endOfPattern
  | fuel + 1, verbose, start, on, off => do
    let verbose := (verbose || on.has .verbose) && !off.has .verbose
    let body ← alternatives fuel verbose false []
    close start
    return .group none on off body

end

end Read

/-- A pattern as written, with the widths of its groups and the switches set for all of it. -/
structure Written where
  items : List Tree
  groups : List (Option Width)
  flags : Flags

/-- Where a regular expression has several faults, the first one that is met counts. -/
def Written.read (regex : Text) : Except Error Written := do
  let source ← Source.load 0 regex
  let (items, r) ← (Read.alternatives (4 * regex.length + 8) false true []).run { source }
  if r.flags.has .ascii && r.flags.has .unicode then throw .clashingModes
  if r.source.next.isSome then
    throw (.fault ⟨.unbalancedParenthesis, some r.source.position⟩)
  match r.asked.find? fun a => r.groups.length < a.1 with
  | some (number, place) => throw (.fault ⟨.unknownGroupNumber number, some place⟩)
  | none =>
    let flags := if r.flags.has .ascii then r.flags else r.flags.insert .unicode
    return ⟨items, r.groups, flags⟩

end MaximalMunch.Pattern
