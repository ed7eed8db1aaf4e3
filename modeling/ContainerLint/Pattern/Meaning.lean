import ContainerLint.Text.Blank
import ContainerLint.Text.CaseOrbit
import ContainerLint.Text.Digit
import ContainerLint.Text.Word
import ContainerLint.Pattern.Error
import ContainerLint.Pattern.Node
import ContainerLint.Pattern.Property

/-!
# From writing to meaning

`Ast.meaning` applies the flags to a written pattern. A change of flags holds to the end of the
group that it stands in, over the bars of alternatives too. Where Unicode is off, classes are
ASCII and nothing may match a part of a character.
-/

namespace ContainerLint.Pattern

/-- The flags in force at a place of a pattern. -/
structure Flags where
  caseless : Bool
  multiLine : Bool
  dotAll : Bool
  swapGreed : Bool
  unicode : Bool
  crlf : Bool
deriving DecidableEq, Repr

namespace Flags

/-- The flags at the start of every pattern: lines end at a line feed, a carriage return or both,
and are matched one by one. -/
def initial : Flags := ⟨false, true, false, false, true, true⟩

/-- The flags after one change. -/
def change (f : Flags) (c : FlagChange) : Flags :=
  match c.flag with
  | .caseless => { f with caseless := c.on }
  | .multiLine => { f with multiLine := c.on }
  | .dotAll => { f with dotAll := c.on }
  | .swapGreed => { f with swapGreed := c.on }
  | .unicode => { f with unicode := c.on }
  | .crlf => { f with crlf := c.on }
  | .ignoreBlank => f

/-- The flags after some changes. -/
def apply (f : Flags) (changes : List FlagChange) : Flags := changes.foldl change f

end Flags

/-- The set with letter case ignored, if it is. -/
def foldCase (f : Flags) (s : CharSet) : CharSet :=
  if f.caseless then if f.unicode then s.caseClosure else s.asciiCaseClosure else s

/-- The set with case ignored and then negated as asked. Without Unicode, what is left must be
ASCII. -/
def closeSet (f : Flags) (negated : Bool) (s : CharSet) : Except SyntaxFault CharSet :=
  let s := foldCase f s
  let s := if negated then s.complement else s
  if f.unicode || s.ranges.all (fun r => r.2 < 128) then .ok s else .error .invalidBytes

/-- The code points of the named ASCII classes. -/
def AsciiClass.ranges : AsciiClass → List (Nat × Nat)
  | .alnum => [(48, 57), (65, 90), (97, 122)]
  | .alpha => [(65, 90), (97, 122)]
  | .ascii => [(0, 127)]
  | .blank => [(9, 9), (32, 32)]
  | .cntrl => [(0, 31), (127, 127)]
  | .digit => [(48, 57)]
  | .graph => [(33, 126)]
  | .lower => [(97, 122)]
  | .print => [(32, 126)]
  | .punct => [(33, 47), (58, 64), (91, 96), (123, 126)]
  | .space => [(9, 13), (32, 32)]
  | .upper => [(65, 90)]
  | .word => [(48, 57), (65, 90), (95, 95), (97, 122)]
  | .xdigit => [(48, 57), (65, 70), (97, 102)]

/-- The members of the classes with a one letter escape. -/
def Shorthand.members (unicode : Bool) : Shorthand → CharSet
  | .digit => ⟨if unicode then Text.digitRanges else AsciiClass.digit.ranges⟩
  | .space => ⟨if unicode then Text.blankRanges else AsciiClass.space.ranges⟩
  | .word => ⟨if unicode then Text.wordRanges else AsciiClass.word.ranges⟩

/-- The set of a one letter escape. -/
def shorthandSet (f : Flags) (negated : Bool) (s : Shorthand) : Except SyntaxFault CharSet :=
  let members := s.members f.unicode
  if negated then
    if f.unicode then .ok members.complement else .error .invalidBytes
  else .ok members

/-- The set of a property. -/
def propertySet (f : Flags) (negated : Bool) (query : PropertyQuery) :
    Except SyntaxFault CharSet :=
  if f.unicode then
    match query.members with
    | some s => closeSet f negated s
    | none => .error .unknownProperty
  else .error .needsUnicode

/-- The character that is meant by one in a class. -/
def classChar (f : Flags) (c : Char) (raw : Bool) : Except SyntaxFault Char :=
  if f.unicode || c.toNat < 128 then .ok c
  else if raw then .error .invalidBytes
  else .error .needsUnicode

/-- The set that the inside of a class stands for, before case is ignored. -/
def SetExpr.meaning (f : Flags) : SetExpr → Except SyntaxFault CharSet
  | .empty => .ok .empty
  | .char c raw => do
    let c ← classChar f c raw
    .ok (.singleton c)
  | .span lo loRaw hi hiRaw => do
    let lo ← classChar f lo loRaw
    let hi ← classChar f hi hiRaw
    .ok (.ofRanges [(lo.toNat, hi.toNat)])
  | .ascii negated name => closeSet f negated (.ofRanges name.ranges)
  | .shorthand negated s => shorthandSet f negated s
  | .property negated query => propertySet f negated query
  | .bracket negated inner => do
    let s ← inner.meaning f
    closeSet f negated s
  | .join a b => do
    let s ← a.meaning f
    let t ← b.meaning f
    .ok (s.union t)
  | .op kind a b => do
    let s ← a.meaning f
    let t ← b.meaning f
    let s := foldCase f s
    let t := foldCase f t
    match kind with
    | .inter => .ok (s.inter t)
    | .diff => .ok (s.diff t)
    | .symmDiff => .ok (s.symmDiff t)

/-- The condition that an assertion stands for. -/
def Assertion.meaning (f : Flags) : Assertion → Look
  | .lineStart => if f.multiLine then .lineStart f.crlf else .textStart
  | .lineEnd => if f.multiLine then .lineEnd f.crlf else .textEnd
  | .textStart => .textStart
  | .textEnd => .textEnd
  | .word edge => .word (!f.unicode) edge

/-- The set of characters that the dot matches. -/
def dotSet (f : Flags) : CharSet :=
  if f.dotAll then .all
  else if f.crlf then ⟨[(0, 9), (11, 12), (14, CharSet.maxCode)]⟩
  else ⟨[(0, 9), (11, CharSet.maxCode)]⟩

/-- The node of a character. -/
def charNode (f : Flags) (c : Char) (raw : Bool) : Except SyntaxFault Node :=
  if !f.unicode && raw && 128 ≤ c.toNat then .error .invalidBytes
  else
    let s := foldCase f (.singleton c)
    .ok (if s = .singleton c then .literal [c] else Node.ofSet s)

/-- The node of a part without parts. -/
def Atom.meaning (f : Flags) : Atom → Except SyntaxFault Node
  | .char c raw => charNode f c raw
  | .dot => if f.unicode then .ok (.set (dotSet f)) else .error .invalidBytes
  | .assertion a => .ok (.look (a.meaning f))
  | .shorthand negated s => (shorthandSet f negated s).map Node.ofSet
  | .property negated query => (propertySet f negated query).map Node.ofSet

/-- The branches that a written pattern stands for, and the flags after it. -/
def Ast.branches (f : Flags) : Ast → Except SyntaxFault (List Node × Flags)
  | .empty => .ok ([.empty], f)
  | .flags changes => .ok ([.empty], f.apply changes)
  | .atom a => do
    let n ← a.meaning f
    .ok ([n], f)
  | .set negated inner => do
    let s ← inner.meaning f
    let s ← closeSet f negated s
    .ok ([Node.ofSet s], f)
  | .rep sub count greedy => do
    let (ns, g) ← sub.branches f
    .ok ([Node.repeated (.ofBranches ns) count (greedy != g.swapGreed)], g)
  | .capture index sub => do
    let (ns, _) ← sub.branches f
    .ok ([.capture index (.ofBranches ns)], f)
  | .group changes sub => do
    let (ns, _) ← sub.branches (f.apply changes)
    .ok ([.ofBranches ns], f)
  | .cat a b => do
    let (as, g) ← a.branches f
    let (bs, h) ← b.branches g
    .ok ([.sequence [.ofBranches as, .ofBranches bs]], h)
  | .alt a b => do
    let (as, g) ← a.branches f
    let (bs, h) ← b.branches g
    .ok (as ++ bs, h)

/-- The node that a written pattern stands for. -/
def Ast.meaning (a : Ast) : Except SyntaxFault Node := do
  let (ns, _) ← a.branches .initial
  .ok (.ofBranches ns)

end ContainerLint.Pattern
