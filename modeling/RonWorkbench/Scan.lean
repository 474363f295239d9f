import RonWorkbench.Lexeme.Progress

/-!
# Scanning a line

One step of the scan recognises a lexeme for the innermost open construct, takes its text from the
line as one or more pieces and opens or closes constructs; where nothing is recognised it takes
one character as plain text. The scan of a line repeats the step until nothing is left.

A delimiter belongs to its construct: an opener's piece stands inside the frame that it opens, a
closer's piece inside the frame that it closes. A piece without a leaf scope is plain, and
neighbouring plain pieces with the same scopes are one (`Piece.join`).

The rest of the line shrinks with every step (`consumed_scanStep_ne_nil`), for a recognised lexeme
takes at least one character.
-/

namespace RonWorkbench

/-- A stretch of text with the constructs it stands in and what it is. -/
structure Piece where
  text : List Char
  frames : Stack
  leaf : Option Scope
  deriving Repr, DecidableEq

namespace Piece

/-- The scopes of a piece, outermost first. -/
def scopes (p : Piece) : List Scope :=
  p.frames.scopes ++ p.leaf.toList

/-- A piece that nothing classifies. -/
def isPlain (p : Piece) : Bool :=
  p.leaf.isNone

/-- Make neighbouring plain pieces with equal scopes one piece. -/
def join : List Piece → List Piece
  | [] => []
  | p :: more =>
    match join more with
    | [] => [p]
    | q :: rest =>
      if p.isPlain && q.isPlain && p.frames.scopes == q.frames.scopes then
        { p with text := p.text ++ q.text } :: rest
      else
        p :: q :: rest

end Piece

/-- What a step takes from the line, and the stack it leaves. -/
structure Step where
  pieces : List Piece
  stack : Stack
  deriving Repr, DecidableEq

namespace Step

/-- One classified piece inside the given frames, which stay as they are. -/
def classify (s : Stack) (leaf : Scope) (text : List Char) : Step :=
  ⟨[⟨text, s, some leaf⟩], s⟩

/-- One plain piece inside the given frames, which stay as they are. -/
def plain (s : Stack) (text : List Char) : Step :=
  ⟨[⟨text, s, none⟩], s⟩

/-- Open a construct; its opener stands inside it. -/
def openFrame (s : Stack) (frame : Frame) (mark : Scope) (text : List Char) : Step :=
  classify (frame :: s) mark text

/-- Close the innermost construct; its closer stands inside it. -/
def closeFrame (s : Stack) (mark : Scope) (text : List Char) : Step :=
  ⟨[⟨text, s, some mark⟩], s.tail⟩

/-- The text that a step takes. -/
def consumed (t : Step) : List Char :=
  (t.pieces.map Piece.text).flatten

end Step

namespace Lexeme

/-- A name, the gap behind it if there is one, and the colon. -/
def memberPieces (s : Stack) (name gap : List Char) : List Piece :=
  ⟨name, s, some .memberName⟩
    :: ((if gap.isEmpty then [] else [⟨gap, s, none⟩]) ++ [⟨[':'], s, some .colon⟩])

/-- A closing bracket closes the innermost group of its kind and is invalid anywhere else. -/
def closeGroup (s : Stack) (kind : Bracket) : Step :=
  if s.head? = some (.group kind) then
    .closeFrame s kind.mark [kind.closer]
  else
    .classify s .invalid [kind.closer]

/-- An opener inside a block comment makes it one level deeper. -/
def nestComment (s : Stack) (text : List Char) : Step :=
  match s with
  | .blockComment depth :: below => .classify (.blockComment (depth + 1) :: below) .commentMark text
  | _ => .classify s .commentMark text

/-- A closer inside a block comment takes one level away and closes the comment with the last. -/
def unnestComment (s : Stack) (text : List Char) : Step :=
  match s with
  | .blockComment depth :: below =>
    ⟨[⟨text, s, some .commentMark⟩],
      if depth - 1 = 0 then below else .blockComment (depth - 1) :: below⟩
  | _ => .classify s .commentMark text

/-- A quote closes a raw string if just as many hashes follow as its opener had. -/
def rawQuoteStep (s : Stack) (hashes : Nat) (text : List Char) : Step :=
  match s with
  | .rawQuoted opened _ :: _ =>
    if opened = hashes then .closeFrame s .stringMark text else .plain s text
  | _ => .plain s text

/-- What a lexeme takes from the line where the given constructs are open. -/
def step (s : Stack) (x : Lexeme) : Step :=
  match x with
  | lineComment _ => .classify s .lineComment x.text
  | commentOpen => .openFrame s (.blockComment 1) .commentMark x.text
  | innerAttribute _ => .classify s .innerAttribute x.text
  | rawOpen byte hashes => .openFrame s (.rawQuoted hashes byte) .stringMark x.text
  | quoteOpen byte => .openFrame s (.quoted byte) .stringMark x.text
  | characterOpen byte => .openFrame s (.character byte) .characterMark x.text
  | number family _ => .classify s family.scope x.text
  | memberName name gap => ⟨memberPieces s name gap, s⟩
  | boolean _ => .classify s .constant x.text
  | typeName name => .classify s .typeName name
  | rawIdentifier _ | identifier _ => .classify s .identifier x.text
  | variantName _ => .classify s .variantName x.text
  | colon => .classify s .colon x.text
  | comma => .classify s .comma x.text
  | groupOpen kind => .openFrame s (.group kind) kind.mark x.text
  | groupClose kind => closeGroup s kind
  | commentNest => nestComment s x.text
  | commentUnnest => unnestComment s x.text
  | escape _ => .classify s .escape x.text
  | quoteClose => .closeFrame s .stringMark x.text
  | rawQuote hashes => rawQuoteStep s hashes x.text
  | characterClose => .closeFrame s .characterMark x.text
  | commentText _ | quoteText _ | rawText _ | characterText _ => .plain s x.text

/-- A step takes just the text that its lexeme consumes. -/
theorem consumed_step (s : Stack) (x : Lexeme) : (step s x).consumed = x.consumed := by
  cases x with
  | memberName name gap =>
    cases gap <;> simp [step, Step.consumed, memberPieces, Lexeme.consumed, text, parts]
  | groupClose kind =>
    simp only [step, closeGroup]
    split <;> simp [Step.consumed, Step.closeFrame, Step.classify, Lexeme.consumed, text, parts]
  | commentNest =>
    simp only [step, nestComment]
    split <;> simp [Step.consumed, Step.classify, Lexeme.consumed]
  | commentUnnest =>
    simp only [step, unnestComment]
    split <;> simp [Step.consumed, Step.classify, Lexeme.consumed]
  | rawQuote hashes =>
    simp only [step, rawQuoteStep]
    split
    · split <;> simp [Step.consumed, Step.closeFrame, Step.plain, Lexeme.consumed]
    · simp [Step.consumed, Step.plain, Lexeme.consumed]
  | _ =>
    simp [step, Step.consumed, Step.classify, Step.openFrame, Step.closeFrame, Step.plain,
      Lexeme.consumed]

end Lexeme

/-! ### Steps along a line -/

/-- One step on a line that is not at its end. -/
def scanStep (s : Stack) (c : Char) (rest : List Char) : Step :=
  match Lexeme.recognise? s.head? (c :: rest) with
  | some x => x.step s
  | none => .plain s [c]

/-- A step takes at least one character. -/
theorem consumed_scanStep_ne_nil (s : Stack) (c : Char) (rest : List Char) :
    (scanStep s c rest).consumed ≠ [] := by
  unfold scanStep
  split
  · next x h =>
    rw [Lexeme.consumed_step]
    exact Lexeme.consumed_ne_nil_of_recognise? h
  · simp [Step.plain, Step.consumed]

/-- The pieces of a line and the stack at its end, character literals not yet dropped. -/
def scan (s : Stack) : List Char → List Piece × Stack
  | [] => ([], s)
  | c :: rest =>
    let t := scanStep s c rest
    let more := scan t.stack ((c :: rest).drop t.consumed.length)
    (t.pieces ++ more.1, more.2)
termination_by line => line.length
decreasing_by
  have h := List.length_pos_iff.2 (consumed_scanStep_ne_nil s c rest)
  simp only [List.length_drop, List.length_cons]
  omega

end RonWorkbench
