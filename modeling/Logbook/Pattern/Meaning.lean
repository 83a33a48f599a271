import Logbook.Pattern.Node
import Logbook.Pattern.Property
import Logbook.Text.DigitRanges

/-!
From the written pattern to the one that is matched. Flags hold from where they stand to the
end of their group, over alternatives too. With the Unicode flag off a pattern speaks of ASCII
only, and it may not have parts that could match half a character.
-/

namespace Logbook.Pattern

structure Flags where
  caseless : Bool
  multiline : Bool
  dotAll : Bool
  swapGreed : Bool
  unicode : Bool
  crlf : Bool

namespace Flags

def initial : Flags := ⟨false, false, false, false, true, false⟩

def setOne (flags : Flags) (f : Flag) (on : Bool) : Flags :=
  match f with
  | .caseless => { flags with caseless := on }
  | .multiline => { flags with multiline := on }
  | .dotAll => { flags with dotAll := on }
  | .swapGreed => { flags with swapGreed := on }
  | .unicode => { flags with unicode := on }
  | .crlf => { flags with crlf := on }
  | .verbose => flags

def change (flags : Flags) (c : FlagChange) : Flags :=
  c.foldl (fun flags (f, on) => flags.setOne f on) flags

end Flags

abbrev Result (α : Type) := Except Fault α

def PosixClass.ranges : PosixClass → Text.Ranges
  | alnum => [(0x30, 0x39), (0x41, 0x5A), (0x61, 0x7A)]
  | alpha => [(0x41, 0x5A), (0x61, 0x7A)]
  | ascii => [(0, 0x7F)]
  | blank => [(0x09, 0x09), (0x20, 0x20)]
  | cntrl => [(0, 0x1F), (0x7F, 0x7F)]
  | digit => [(0x30, 0x39)]
  | graph => [(0x21, 0x7E)]
  | lower => [(0x61, 0x7A)]
  | print => [(0x20, 0x7E)]
  | punct => [(0x21, 0x2F), (0x3A, 0x40), (0x5B, 0x60), (0x7B, 0x7E)]
  | space => [(0x09, 0x0D), (0x20, 0x20)]
  | upper => [(0x41, 0x5A)]
  | word => [(0x30, 0x39), (0x41, 0x5A), (0x5F, 0x5F), (0x61, 0x7A)]
  | xdigit => [(0x30, 0x39), (0x41, 0x46), (0x61, 0x66)]

def Shorthand.posix : Shorthand → PosixClass
  | digit => .digit
  | space => .space
  | word => .word

def Shorthand.ranges : Shorthand → Text.Ranges
  | digit => Text.digitRanges
  | space => Text.blankRanges
  | word => Text.wordRanges

namespace Flags

/-- Closes a set under change of case if case is ignored. -/
def fold (flags : Flags) (s : CharSet) : CharSet :=
  if !flags.caseless then s
  else if flags.unicode then .folded s else .asciiFolded s

/-- A set is complete once case and negation are in; over bytes it must be ASCII. -/
def finish (flags : Flags) (span : Span) (s : CharSet) : Result CharSet :=
  if flags.unicode || s.avoidsHighBytes then .ok s else .error ⟨.invalidUtf8, span⟩

def foldAndNegate (flags : Flags) (span : Span) (negated : Bool) (s : CharSet) :
    Result CharSet :=
  flags.finish span ((flags.fold s).complementIf negated)

def shorthand (flags : Flags) (span : Span) (negated : Bool) (kind : Shorthand) :
    Result CharSet :=
  let r := if flags.unicode then kind.ranges else kind.posix.ranges
  flags.finish span ((CharSet.ranges r).complementIf negated)

def property (flags : Flags) (span : Span) (negated : Bool) (query : PropertyQuery) :
    Result CharSet :=
  if !flags.unicode then .error ⟨.unicodeNotAllowed, span⟩
  else
    match query.chars with
    | .error cause => .error ⟨cause, span⟩
    | .ok s => flags.foldAndNegate span negated s

/-- The character of a literal; one written as a byte must be ASCII where bytes are meant. -/
def literal (flags : Flags) (l : Literal) : Result Char :=
  if !flags.unicode && l.isByte && 0x7F < l.char.toNat then .error ⟨.invalidUtf8, l.span⟩
  else .ok l.char

/-- A literal inside a class, where bytes allow ASCII only. -/
def classLiteral (flags : Flags) (l : Literal) : Result Char := do
  let c ← flags.literal l
  if !flags.unicode && 0x7F < c.toNat then .error ⟨.unicodeNotAllowed, l.span⟩ else .ok c

def dot (flags : Flags) (span : Span) : Result CharSet :=
  if !flags.unicode then .error ⟨.invalidUtf8, span⟩
  else if flags.dotAll then .ok .all
  else if flags.crlf then .ok (.complement (.ranges [(0x0A, 0x0A), (0x0D, 0x0D)]))
  else .ok (.complement (.just '\n'))

def look (flags : Flags) : Look → Assertion
  | .lineStart => if flags.multiline then .lineStart flags.crlf else .textStart
  | .lineEnd => if flags.multiline then .lineEnd flags.crlf else .textEnd
  | .textStart => .textStart
  | .textEnd => .textEnd
  | kind => .boundary kind (!flags.unicode)

end Flags

mutual

def ClassItem.chars (flags : Flags) : ClassItem → Result CharSet
  | .empty _ => .ok .empty
  | .literal l => do return .just (← flags.classLiteral l)
  | .range _ lo hi => do
    return .ranges [((← flags.classLiteral lo).toNat, (← flags.classLiteral hi).toNat)]
  | .posix span negated kind => flags.foldAndNegate span negated (.ranges kind.ranges)
  | .property span negated query => flags.property span negated query
  | .shorthand span negated kind => flags.shorthand span negated kind
  | .bracketed span negated set => do flags.foldAndNegate span negated (← set.chars flags)
  | .union _ items => itemsChars flags items

def ClassSet.chars (flags : Flags) : ClassSet → Result CharSet
  | .item i => i.chars flags
  | .operation _ op lhs rhs => do
    let s := flags.fold (← lhs.chars flags)
    let t := flags.fold (← rhs.chars flags)
    match op with
    | .intersection => return .inter s t
    | .difference => return s.difference t
    | .symmetricDifference => return s.symmetricDifference t

def itemsChars (flags : Flags) : List ClassItem → Result CharSet
  | [] => .ok .empty
  | i :: rest => do return .union (← i.chars flags) (← itemsChars flags rest)

end

/-- A literal character, with its variants where case is ignored. -/
def Flags.character (flags : Flags) (c : Char) : CharSet :=
  if !flags.caseless then .just c
  else if flags.unicode then
    if (Text.variants c).isEmpty then .just c else .folded (.just c)
  else .asciiFolded (.just c)

mutual

/-- The node of a tree, and the flags in force behind it. -/
def Ast.node (flags : Flags) : Ast → Result (Node × Flags)
  | .empty => .ok (.empty, flags)
  | .flags c => .ok (.empty, flags.change c)
  | .literal l => do return (.chars (flags.character (← flags.literal l)), flags)
  | .dot span => do return (.chars (← flags.dot span), flags)
  | .look _ kind => .ok (.assertion (flags.look kind), flags)
  | .property span negated query => do
    return (.chars (← flags.property span negated query), flags)
  | .shorthand span negated kind => do
    return (.chars (← flags.shorthand span negated kind), flags)
  | .bracketed span negated set => do
    return (.chars (← flags.foldAndNegate span negated (← set.chars flags)), flags)
  | .repetition _ least most greedy body => do
    let (body, _) ← body.node flags
    if most = some 0 then return (.empty, flags)
    else return (.loop least most (greedy != flags.swapGreed) body, flags)
  | .group _ (.capture index _) body => do
    let (body, _) ← body.node flags
    return (.group index body, flags)
  | .group _ (.plain c) body => do
    let (body, _) ← body.node (flags.change c)
    return (body, flags)
  | .alternation _ branches => do
    let (nodes, flags) ← partsNodes flags branches
    return (.ofBranches nodes, flags)
  | .concat _ parts => do
    let (nodes, flags) ← partsNodes flags parts
    return (.ofList nodes, flags)

def partsNodes (flags : Flags) : List Ast → Result (List Node × Flags)
  | [] => .ok ([], flags)
  | a :: rest => do
    let (node, flags) ← a.node flags
    let (nodes, flags) ← partsNodes flags rest
    return (node :: nodes, flags)

end

mutual

/-- The names of the groups, with their numbers. -/
def Ast.groupNames : Ast → List (Nat × String)
  | .group _ (.capture i (some name)) body => (i, String.ofList name) :: body.groupNames
  | .group _ _ body | .repetition _ _ _ _ body => body.groupNames
  | .alternation _ parts | .concat _ parts => partsGroupNames parts
  | _ => []

def partsGroupNames : List Ast → List (Nat × String)
  | [] => []
  | a :: rest => a.groupNames ++ partsGroupNames rest

end

end Logbook.Pattern
