import Logbook.Proofs.Pattern.Room
import Logbook.Proofs.Pattern.Spelling
import Logbook.Rule.Access
import Logbook.Rule.Leveled
import Logbook.Rule.Syslog

/-! The patterns of the built-in rules that begin at the start of a line, as the nodes that they are
read as. None of them nests loops, so each is searched by backtracking. -/

namespace Logbook.Rule

open Pattern (Node CharSet)
open Pattern.Node (literal)

/-! ### Parts -/

def blank : CharSet := .ranges Text.blankRanges

def word : CharSet := .ranges Text.wordRanges

def decimal : CharSet := .ranges Text.digitRanges

/-- Characters other than white space. -/
def visible : CharSet := .complement blank

/-- Characters that do not end a line. -/
def inLine : CharSet := .complement (.just '\n')

def unquoted : CharSet := .complement (.just '"')

def sign : CharSet := .union (.just '+') (.union (.just '-') .empty)

/-- What stands in front of the offset of a time: characters of words, colons and slashes. -/
def stamp : CharSet := .union word (.union (.just ':') (.union (.just '/') .empty))

/-- One character or more, as many as there are. -/
def many (s : CharSet) : Node := .loop 1 none true (.chars s)

def exactly (n : Nat) (s : CharSet) : Node := .loop n (some n) true (.chars s)

def optional (body : Node) : Node := .loop 0 (some 1) true body

section Room

variable {s : CharSet} {body : Node}

theorem room_le : ∀ s ∈ [visible, sign,
    CharSet.folded (.union (.just '-') (.union (.just ':') .empty))],
      Pattern.rangesRoom s.toRanges ≤ Pattern.setRoom := by
  decide +kernel

/-- The slash and the colon join the digits between them. -/
theorem toRanges_stamp : stamp.toRanges = (0x2F, 0x3A) :: Text.wordRanges.tail := by
  decide +kernel

@[simp] instance fits_visible : visible.Fits := ⟨room_le _ (by simp)⟩

@[simp] instance fits_sign : sign.Fits := ⟨room_le _ (by simp)⟩

@[simp] instance fits_stamp : stamp.Fits := by
  constructor
  rw [toRanges_stamp]
  exact Pattern.room_cons_letters (by decide)

@[simp] instance fits_separator :
    (CharSet.folded (.union (.just '-') (.union (.just ':') .empty))).Fits := ⟨room_le _ (by simp)⟩

@[simp] theorem setsFit_many : (many s).SetsFit ↔ s.Fits := Iff.rfl

@[simp] theorem setsFit_exactly {n : Nat} : (exactly n s).SetsFit ↔ s.Fits := Iff.rfl

@[simp] theorem setsFit_optional : (optional body).SetsFit ↔ body.SetsFit := Iff.rfl

end Room

namespace Access

def timeNodes : List Node := [many stamp, .chars blank, .chars sign, exactly 4 decimal]

/-- From the client to the size, and what follows. -/
def requestNodes (more : List Node) : List Node :=
  .group 1 (many visible) :: (literal " " ++ (.group 2 (many visible) :: (literal " " ++
    (.group 3 (many visible) :: (literal " [" ++ (.group 4 (.ofList timeNodes) ::
    (literal "] \"" ++ (.group 5 (.loop 1 none false (.chars inLine)) :: (literal "\" " ++
    (.group 6 (exactly 3 decimal) :: (literal " " ++
    (.group 7 (.alt (many decimal) (.chars (.just '-'))) :: more))))))))))))

def agentNodes : List Node :=
  literal " \"" ++ (.group 8 (.loop 0 none true (.chars unquoted)) :: (literal "\" \"" ++
    (.group 9 (.loop 0 none true (.chars unquoted)) :: literal "\"")))

instance : nginx.pattern.AtStart (.ofList (.assertion .textStart :: requestNodes agentNodes)) where
  node_eq := by
    have hsets : (Node.ofList (.assertion .textStart :: requestNodes agentNodes)).SetsFit := by
      simp (disch := decide) [requestNodes, agentNodes, timeNodes, blank, decimal, inLine, unquoted,
        or_imp, forall_and]
    dsimp only [nginx]
    exact Pattern.node_ofText String.ofList_append.symm (by decide +kernel) hsets (by decide +kernel)
  isAnchored := Node.isAnchored_textStart _
  nests_eq := rfl

instance : apache.pattern.AtStart (.ofList (.assertion .textStart :: requestNodes [])) where
  node_eq := by
    have hsets : (Node.ofList (.assertion .textStart :: requestNodes [])).SetsFit := by
      simp (disch := decide) [requestNodes, timeNodes, blank, decimal, inLine, or_imp, forall_and]
    dsimp only [apache]
    exact Pattern.node_ofText rfl (by decide +kernel) hsets (by decide +kernel)
  isAnchored := Node.isAnchored_textStart _
  nests_eq := rfl

end Access

namespace Syslog

def priorityNode : Node := .ofList (literal "<" ++ (.group 1 (.loop 1 (some 3) true (.chars decimal)) ::
  literal ">"))

def timeNodes : List Node :=
  exactly 3 word :: many blank :: .loop 1 (some 2) true (.chars decimal) :: many blank ::
    exactly 2 decimal :: (literal ":" ++ (exactly 2 decimal :: (literal ":" ++ [exactly 2 decimal])))

def pidNode : Node := .ofList (literal "[" ++ (.group 5 (many decimal) :: literal "]"))

def nodes : List Node :=
  optional priorityNode :: .group 2 (.ofList timeNodes) :: many blank :: .group 3 (many visible) ::
    many blank :: .group 4 (many word) :: optional pidNode :: (literal ":" ++
    [many blank, .group 6 (many inLine)])

instance : rule.pattern.AtStart (.ofList (.assertion .textStart :: nodes)) where
  node_eq := by
    have hsets : (Node.ofList (.assertion .textStart :: nodes)).SetsFit := by
      simp (disch := decide) [nodes, priorityNode, timeNodes, pidNode, blank, decimal, inLine, word,
        or_imp, forall_and]
    dsimp only [rule]
    exact Pattern.node_ofText String.ofList_append.symm (by decide +kernel) hsets (by decide +kernel)
  isAnchored := Node.isAnchored_textStart _
  nests_eq := rfl

end Syslog

namespace Leveled

def timeNodes : List Node :=
  exactly 4 decimal :: (literal "-" ++ (exactly 2 decimal :: (literal "-" ++ (exactly 2 decimal ::
    many blank :: exactly 2 decimal :: (literal ":" ++ (exactly 2 decimal :: (literal ":" ++
    (exactly 2 decimal :: (literal "," ++ [exactly 3 decimal])))))))))

def log4jNodes : List Node :=
  .group 1 (.ofList timeNodes) :: many blank :: .group 2 (many word) :: many blank ::
    (literal "[" ++ (.group 3 (.loop 1 none false (.chars inLine)) :: (literal "]" ++
    [many blank, .group 4 (many inLine)])))

instance : log4j.pattern.AtStart (.ofList (.assertion .textStart :: log4jNodes)) where
  node_eq := by
    have hsets : (Node.ofList (.assertion .textStart :: log4jNodes)).SetsFit := by
      simp (disch := decide) [log4jNodes, timeNodes, blank, decimal, inLine, word, or_imp, forall_and]
    dsimp only [log4j]
    exact Pattern.node_ofText rfl (by decide +kernel) hsets (by decide +kernel)
  isAnchored := Node.isAnchored_textStart _
  nests_eq := rfl

/-- A word in any mixture of cases. -/
def caseless (s : String) : Node := .ofList (s.toList.map fun c => .chars (.folded (.just c)))

def levelNode : Node := .ofBranches (["ERROR", "WARN", "INFO", "DEBUG"].map caseless)

def simpleNodes : List Node :=
  [.group 1 (.ofList [optional (.chars (.just '[')), levelNode, optional (.chars (.just ']'))]),
    .loop 0 none true (.chars blank),
    .chars (.folded (.union (.just '-') (.union (.just ':') .empty))),
    .loop 0 none true (.chars blank), .group 2 (many inLine)]

instance : simple.pattern.AtStart (.ofList (.empty :: .assertion .textStart :: simpleNodes)) where
  node_eq := by
    have hsets : (Node.ofList (.empty :: .assertion .textStart :: simpleNodes)).SetsFit := by
      simp (disch := decide) [simpleNodes, levelNode, caseless, Node.ofBranches, blank, inLine, or_imp,
        forall_and]
    dsimp only [simple]
    exact Pattern.node_ofText rfl (by decide +kernel) hsets (by decide +kernel)
  isAnchored := Node.isAnchored_empty_cons (Node.isAnchored_textStart _)
  nests_eq := rfl

end Leveled

end Logbook.Rule
