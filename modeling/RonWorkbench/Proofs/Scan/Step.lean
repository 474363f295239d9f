import RonWorkbench.Proofs.Lexeme.Reading
import RonWorkbench.Scan

/-!
# What one step of a scan does

All that a step can do to the stack and to the line is said once, in `Step.Acts`: it leaves the
stack alone, opens a construct in value position, closes the innermost construct, or moves the
depth of a comment by one. `acts_scanStep` shows that there is nothing else, and every invariant of
a scan is a case analysis over these constructors; no proof behind this module opens a recogniser.

A construct is opened and closed by texts that are computed from its frame (`Frame.opening`,
`Frame.closing`), and the frame also fixes the scope of these texts (`Frame.mark`). So a
constructor of `Step.Acts` names the frame and nothing more.
-/

namespace RonWorkbench

/-- A scope that says what one token is: neither the root nor the scope of an open construct. -/
def Scope.isLeaf (s : Scope) : Bool :=
  s != .source && !s.isFrame

namespace Frame

/-- The scope of the delimiters. -/
def mark : Frame → Scope
  | blockComment _ => .commentMark
  | quoted _ => .stringMark
  | rawQuoted _ _ => .stringMark
  | character _ => .characterMark
  | group kind => kind.mark

/-- The text that opens the construct. -/
def opening : Frame → List Char
  | blockComment _ => ['/', '*']
  | quoted byte => Lexeme.byteMark byte ++ ['"']
  | rawQuoted hashes byte => Lexeme.byteMark byte ++ 'r' :: (Lexeme.hashRun hashes ++ ['"'])
  | character byte => Lexeme.byteMark byte ++ ['\'']
  | group kind => [kind.opener]

/-- The text that closes the construct; of a comment, the text that closes one level. -/
def closing : Frame → List Char
  | blockComment _ => ['*', '/']
  | quoted _ => ['"']
  | rawQuoted hashes _ => '"' :: Lexeme.hashRun hashes
  | character _ => ['\'']
  | group kind => [kind.closer]

/-- The construct as it is when it has just been opened: a comment is one level deep. -/
def IsFresh (f : Frame) : Prop :=
  ∀ depth, f = blockComment depth → depth = 1

/-- The construct knows escapes: a quoted string or a character literal. -/
def hasEscapes : Frame → Bool
  | quoted _ | character _ => true
  | _ => false

theorem isLeaf_mark (f : Frame) : f.mark.isLeaf := by
  cases f with
  | group kind => cases kind <;> rfl
  | _ => rfl

end Frame

/-- Values are read here: no construct is open, or the innermost one is a group. -/
def Stack.InValue (s : Stack) : Prop :=
  ∀ f ∈ s.head?, f.isLiteral = false

/-- All that a step can do where the given constructs are open. -/
inductive Step.Acts : Stack → Step → Prop
  /-- In value position a stretch of text is classified. -/
  | classify {s : Stack} {leaf : Scope} {text : List Char} (hs : s.InValue) (hleaf : leaf.isLeaf) :
      Acts s (.classify s leaf text)
  /-- Inside a string or a character literal an escape is classified. -/
  | escape {f : Frame} {below : Stack} {text : List Char} (hf : f.hasEscapes) :
      Acts (f :: below) (.classify (f :: below) .escape text)
  /-- A stretch of text that nothing classifies. -/
  | plain {s : Stack} {text : List Char} : Acts s (.plain s text)
  /-- A name with its gap and its colon. -/
  | member {s : Stack} {name gap : List Char} (hs : s.InValue) (hname : name ≠ []) :
      Acts s ⟨Lexeme.memberPieces s name gap, s⟩
  /-- A construct is opened. -/
  | opens {s : Stack} {f : Frame} (hs : s.InValue) (hf : f.IsFresh) :
      Acts s (.openFrame s f f.mark f.opening)
  /-- The innermost construct, not a comment, is closed. -/
  | closes {f : Frame} {below : Stack} (hf : ∀ depth, f ≠ .blockComment depth) :
      Acts (f :: below) (.closeFrame (f :: below) f.mark f.closing)
  /-- The innermost comment gets one level deeper. -/
  | nests {depth : UInt64} {below : Stack} :
      Acts (.blockComment depth :: below)
        (.classify (.blockComment (depth + 1) :: below) .commentMark ['/', '*'])
  /-- The innermost comment loses one level, and is closed with the last. -/
  | unnests {depth : UInt64} {below : Stack} :
      Acts (.blockComment depth :: below)
        ⟨[⟨['*', '/'], .blockComment depth :: below, some .commentMark⟩],
          if depth - 1 = 0 then below else .blockComment (depth - 1) :: below⟩

namespace Lexeme

theorem isLeaf_family (family : NumberFamily) : family.scope.isLeaf := by
  cases family <;> rfl

/-- A closing bracket closes the innermost group if that is of its kind, and is invalid if not. -/
theorem acts_closeGroup {s : Stack} (hs : s.InValue) (kind : Bracket) :
    Step.Acts s (closeGroup s kind) := by
  unfold closeGroup
  split
  · next hhead =>
    obtain ⟨below, rfl⟩ := List.head?_eq_some_iff.1 hhead
    exact .closes (f := .group kind) (by simp)
  · exact .classify hs rfl

theorem acts_step_of_isValue {s : Stack} (hs : s.InValue) {x : Lexeme} (hx : x.isValue) :
    Step.Acts s (x.step s) := by
  cases x with
  | commentOpen => exact .opens (f := .blockComment 1) hs (by simp [Frame.IsFresh])
  | rawOpen byte hashes =>
    have h := Step.Acts.opens (f := .rawQuoted hashes byte) hs (by simp [Frame.IsFresh])
    simpa [step, text, parts, Frame.opening, Frame.mark] using h
  | quoteOpen byte =>
    have h := Step.Acts.opens (f := .quoted byte) hs (by simp [Frame.IsFresh])
    simpa [step, text, parts, Frame.opening, Frame.mark] using h
  | characterOpen byte =>
    have h := Step.Acts.opens (f := .character byte) hs (by simp [Frame.IsFresh])
    simpa [step, text, parts, Frame.opening, Frame.mark] using h
  | groupOpen kind => exact .opens (f := .group kind) hs (by simp [Frame.IsFresh])
  | groupClose kind => exact acts_closeGroup hs kind
  | number family digits => exact .classify hs (isLeaf_family family)
  | memberName name gap => exact .member hs (by simpa [isValue] using hx)
  | commentNest | commentUnnest | commentText _ | escape _ | quoteClose | quoteText _ | rawQuote _
  | rawText _ | characterClose | characterText _ => simp [isValue] at hx
  | _ => exact .classify hs rfl

/-- What a lexeme does where the innermost construct knows it. -/
theorem acts_step {s : Stack} {x : Lexeme} (h : x.belongs s.head?) : Step.Acts s (x.step s) := by
  -- by the innermost construct, and in each by the lexemes that it knows
  cases s with
  | nil => exact acts_step_of_isValue (by simp [Stack.InValue]) h
  | cons f below =>
    cases f with
    | group kind => exact acts_step_of_isValue (by simp [Stack.InValue, Frame.isLiteral]) h
    | blockComment depth =>
      cases x <;> simp [belongs] at h
      · exact .nests
      · exact .unnests
      · exact .plain
    | quoted byte =>
      cases x <;> simp [belongs] at h
      · exact .escape rfl
      · exact .closes (f := .quoted byte) (by simp)
      · exact .plain
    | rawQuoted opened byte =>
      cases x <;> simp [belongs] at h
      · next hashes =>
        simp only [step, rawQuoteStep]
        split
        · next heq =>
          subst heq
          have h : Step.Acts (.rawQuoted opened byte :: below) _ :=
            .closes (f := .rawQuoted opened byte) (by simp)
          simpa [text, parts, Frame.closing, Frame.mark] using h
        · exact .plain
      · exact .plain
    | character byte =>
      cases x <;> simp [belongs] at h
      · exact .escape rfl
      · exact .closes (f := .character byte) (by simp)
      · exact .plain

end Lexeme

/-- **Nothing but the actions of `Step.Acts` happens in a scan.** -/
theorem acts_scanStep (s : Stack) (c : Char) (rest : List Char) :
    Step.Acts s (scanStep s c rest) := by
  unfold scanStep
  split
  · next x h => exact Lexeme.acts_step (Lexeme.reads_of_recognise? h).belongs
  · exact .plain

/-- **A step takes what stands at the scan position.** -/
theorem consumed_scanStep_isPrefix (s : Stack) (c : Char) (rest : List Char) :
    (scanStep s c rest).consumed <+: c :: rest := by
  unfold scanStep
  split
  · next x h =>
    rw [Lexeme.consumed_step]
    exact Lexeme.consumed_isPrefix_of_recognise? h
  · simp [Step.plain, Step.consumed]

end RonWorkbench
