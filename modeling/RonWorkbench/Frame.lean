import RonWorkbench.Scope

/-!
# Open constructs

A scan has a stack of the constructs that are open where it stands, and the innermost of them
decides how the text is read. Each frame holds just what its construct needs to be closed: the
depth of a nested comment, the number of hashes of a raw string, the kind of a bracket. The stack
is handed from line to line; only a character literal cannot outlive its line.

A stack is a list with the innermost frame first, so opening a construct is `cons` and the frames
around an inner stack stand behind it.
-/

namespace RonWorkbench

/-- The three kinds of bracket. -/
inductive Bracket
  | parens
  | brackets
  | braces
  deriving Repr, DecidableEq

namespace Bracket

/-- The kind that a character opens. -/
def ofOpen? : Char → Option Bracket
  | '(' => some parens
  | '[' => some brackets
  | '{' => some braces
  | _ => none

/-- The kind that a character closes. -/
def ofClose? : Char → Option Bracket
  | ')' => some parens
  | ']' => some brackets
  | '}' => some braces
  | _ => none

/-- The opening character. -/
def opener : Bracket → Char
  | parens => '('
  | brackets => '['
  | braces => '{'

/-- The closing character. -/
def closer : Bracket → Char
  | parens => ')'
  | brackets => ']'
  | braces => '}'

/-- The scope of what stands between the brackets. -/
def inside : Bracket → Scope
  | parens => .struct
  | brackets => .list
  | braces => .map

/-- The scope of the brackets themselves. -/
def mark : Bracket → Scope
  | parens => .parens
  | brackets => .brackets
  | braces => .braces

/-- A bracket is found by its opener and by no other character. -/
theorem ofOpen?_eq_some_iff {c : Char} {b : Bracket} : ofOpen? c = some b ↔ c = b.opener := by
  constructor
  · intro h
    unfold ofOpen? at h
    split at h <;> simp at h <;> subst h <;> rfl
  · rintro rfl
    cases b <;> rfl

theorem ofClose?_eq_some_iff {c : Char} {b : Bracket} : ofClose? c = some b ↔ c = b.closer := by
  constructor
  · intro h
    unfold ofClose? at h
    split at h <;> simp at h <;> subst h <;> rfl
  · rintro rfl
    cases b <;> rfl

end Bracket

/-- One open construct. -/
inductive Frame
  /-- A block comment with its number of unmatched openers, a 64-bit count. -/
  | blockComment (depth : UInt64)
  /-- A quoted string, plain or of bytes. -/
  | quoted (byte : Bool)
  /-- A raw string, closed by a quote and exactly this many hashes. -/
  | rawQuoted (hashes : Nat) (byte : Bool)
  /-- A character literal, dropped at the end of its line. -/
  | character (byte : Bool)
  /-- A bracket group. -/
  | group (kind : Bracket)
  deriving Repr, DecidableEq

namespace Frame

/-- The scope of everything inside the construct, its delimiters included. -/
def scope : Frame → Scope
  | blockComment _ => .blockComment
  | quoted _ => .quoted
  | rawQuoted _ _ => .rawQuoted
  | character _ => .character
  | group kind => kind.inside

/-- Literals and comments; a group is structure. -/
def isLiteral : Frame → Bool
  | group _ => false
  | _ => true

/-- A construct that ends with its line. -/
def isLineLocal : Frame → Bool
  | character _ => true
  | _ => false

/-- What a reader is told is still open. -/
def describe : Frame → String
  | blockComment depth => s!"block comment (depth {depth.toNat})"
  | quoted false => "string"
  | quoted true => "byte string"
  | rawQuoted hashes byte =>
    let opener := if byte then "br" else "r"
    let run := String.ofList (List.replicate hashes '#')
    s!"raw string {opener}{run}\""
  | character _ => "character literal"
  | group .parens => "parentheses"
  | group .brackets => "brackets"
  | group .braces => "braces"

/-- The scope of a frame is one of those that frames have. -/
theorem isFrame_scope (f : Frame) : f.scope.isFrame := by
  cases f with
  | group kind => cases kind <;> rfl
  | _ => rfl

end Frame

/-- The open constructs, innermost first. -/
abbrev Stack := List Frame

namespace Stack

/-- The scopes of a position: the root, then those of the frames, outermost first. -/
def scopes (s : Stack) : List Scope :=
  .source :: (s.map Frame.scope).reverse

/-- The innermost literal or comment that is open, whatever groups are open inside it. -/
def openLiteral? (s : Stack) : Option Frame :=
  s.find? Frame.isLiteral

/-- Drop the innermost frames that cannot outlive their line. -/
def endLine (s : Stack) : Stack :=
  s.dropWhile Frame.isLineLocal

@[simp]
theorem scopes_nil : scopes [] = [.source] :=
  rfl

@[simp]
theorem scopes_cons (f : Frame) (s : Stack) : scopes (f :: s) = scopes s ++ [f.scope] := by
  simp [scopes]

/-- There is one scope for each frame, and that of the source. -/
@[simp]
theorem length_scopes (s : Stack) : (scopes s).length = s.length + 1 := by
  simp [scopes]

end Stack

end RonWorkbench
