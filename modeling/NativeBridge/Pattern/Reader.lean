import NativeBridge.Pattern.Group

/-!
# Reading patterns

A pattern is read from left to right, with a stack of the groups that are open. Each group keeps the
branches that are finished and the parts of the branch at hand. The first fault from the left
decides.
-/

namespace NativeBridge.Pattern

/-- Branches under construction: those of one group, or of the whole pattern. -/
structure Branches where
  /-- Where the first branch begins. -/
  first : Place
  /-- The finished branches, last first. -/
  finished : List Node
  /-- Where the branch at hand begins. -/
  current : Place
  /-- The parts of the branch at hand, last first. -/
  parts : List Node

namespace Branches

def start (p : Place) : Branches := ⟨p, [], p, []⟩

/-- The branches with one more part in the branch at hand. -/
def add (b : Branches) (part : Node) : Branches := { b with parts := part :: b.parts }

def branch (b : Branches) (last : Place) : Node := .ofParts ⟨b.current, last⟩ b.parts.reverse

/-- The branches after the sign that divides them, which stands at a place. -/
def divide (b : Branches) (place : Place) : Branches :=
  ⟨b.first, b.branch place :: b.finished, place.after '|', []⟩

def close (b : Branches) (last : Place) : Node :=
  .ofBranches ⟨b.first, last⟩ (b.branch last :: b.finished).reverse

end Branches

/-- A group that is open. -/
structure OpenGroup where
  /-- The span of its parenthesis. -/
  span : Span
  settings : Option Settings
  /-- Whether blanks are skipped outside the group. -/
  spaced : Bool
  /-- The branches around the group. -/
  around : Branches

namespace OpenGroup

/-- The branches around a group that is closed at a place, with the group as a part. -/
def close (g : OpenGroup) (content : Node) (last : Place) : Branches :=
  g.around.add (.group ⟨g.span.first, last⟩ g.settings content)

end OpenGroup

/-- What has been read of a pattern. -/
structure Draft where
  names : GroupNames
  /-- The open groups, innermost first. -/
  groups : List OpenGroup
  branches : Branches

namespace Draft

def start : Draft := ⟨[], [], .start .start⟩

def add (d : Draft) (part : Node) : Draft := { d with branches := d.branches.add part }

def openGroup (d : Draft) (c : Cursor) : Reading Draft :=
  match c.readOpening d.names with
  | .error fault => .error fault
  | .ok ((.flags settings, names), behind) =>
    let part := Node.flags (behind.since c.place) settings
    let spaced := (settings.lookup .spaced).getD behind.spaced
    .ok ({ d with names, branches := d.branches.add part }, { behind with spaced })
  | .ok ((.group settings, names), behind) =>
    let spaced := ((settings.getD []).lookup .spaced).getD behind.spaced
    let group : OpenGroup := ⟨c.nextSpan, settings, c.spaced, d.branches⟩
    .ok (⟨names, group :: d.groups, .start behind.place⟩, { behind with spaced })

def closeGroup (d : Draft) (c : Cursor) : Reading Draft :=
  match d.groups with
  | [] => Cursor.fail .groupUnopened c.nextSpan
  | group :: outer =>
    let behind := { c.bump with spaced := group.spaced }
    .ok (⟨d.names, outer, group.close (d.branches.close c.place) behind.place⟩, behind)

/-- Reads a repetition of the part before it, given the repetition itself. -/
def repeatPart (d : Draft) (c : Cursor) (read : Reading Counts) : Reading Draft :=
  match d.branches.parts with
  | [] => Cursor.fail .operandMissing c.point
  | part :: before =>
    if !part.isOperand then Cursor.fail .operandMissing c.point
    else
      match read with
      | .error fault => .error fault
      | .ok ((least, most), behind) =>
        let repeated := Node.repetition (behind.since part.span.first) least most part
        .ok ({ d with branches := { d.branches with parts := repeated :: before } }, behind)

/-- Reads the next part, given its first character. -/
def step (d : Draft) (c : Cursor) (next : Char) : Reading Draft :=
  if next = '(' then d.openGroup c
  else if next = ')' then d.closeGroup c
  else if next = '|' then
    .ok ({ d with branches := d.branches.divide c.place }, c.bump)
  else if next = '[' then
    c.readBracketed.map fun (bracketed, behind) => (d.add (.charClass bracketed), behind)
  else
    match c.readRepetition? with
    | some read => d.repeatPart c read
    | none => c.readSign.map fun (sign, behind) => (d.add sign.node, behind)

def finish (d : Draft) (c : Cursor) : Except Fault Node :=
  match d.groups with
  | [] => .ok (d.branches.close c.place)
  | group :: _ => Cursor.fail .groupUnclosed group.span

/-- Reads parts up to the end of the text. At most `limit` parts are read. -/
def readAll : (limit : Nat) → Draft → Cursor → Except Fault Node
  | 0, d, c => d.finish c
  | limit + 1, d, c =>
    let c := c.skip
    match c.next? with
    | none => d.finish c
    | some next =>
      match d.step c next with
      | .ok (d, behind) => readAll limit d behind
      | .error fault => .error fault

end Draft

/-- How deeply the parts of a pattern may be nested. -/
def nestingLimit : Nat := 250

/-- The depth inside a part with a span, which is found at a depth. -/
def depthInside (depth : Nat) (span : Span) : Except Fault Nat :=
  if depth < nestingLimit then .ok (depth + 1)
  else .error (.single (.nestingTooDeep nestingLimit) span)

mutual

/-- Checks the nesting of a class that is found at a depth. -/
def CharClass.checkNesting (depth : Nat) : CharClass → Except Fault Unit
  | .union span parts => do checkNestingOfParts (← depthInside depth span) parts
  | .bracketed span _ content => do content.checkNesting (← depthInside depth span)
  | .operation span _ left right => do
    let inside ← depthInside depth span
    left.checkNesting inside
    right.checkNesting inside
  | _ => .ok ()

/-- Checks the nesting of classes that are found at a depth. -/
def CharClass.checkNestingOfParts (depth : Nat) : List CharClass → Except Fault Unit
  | [] => .ok ()
  | part :: rest => do
    part.checkNesting depth
    checkNestingOfParts depth rest

end

mutual

/-- Checks the nesting of a node that is found at a depth. -/
def Node.checkNesting (depth : Nat) : Node → Except Fault Unit
  | .charClass c => c.checkNesting depth
  | .repetition span _ _ node => do node.checkNesting (← depthInside depth span)
  | .group span _ node => do node.checkNesting (← depthInside depth span)
  | .alternation span branches => do checkNestingOfAll (← depthInside depth span) branches
  | .concat span parts => do checkNestingOfAll (← depthInside depth span) parts
  | _ => .ok ()

/-- Checks the nesting of nodes that are found at a depth. -/
def Node.checkNestingOfAll (depth : Nat) : List Node → Except Fault Unit
  | [] => .ok ()
  | node :: rest => do
    node.checkNesting depth
    checkNestingOfAll depth rest

end

def Node.read (text : List Char) : Except Fault Node := do
  let node ← Draft.start.readAll (text.length + 1) (.start text)
  node.checkNesting 0
  return node

end NativeBridge.Pattern
