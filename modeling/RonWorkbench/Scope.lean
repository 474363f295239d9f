/-!
# Scopes

Every token carries a stack of scopes, outermost first. The names follow the conventions of
editor themes. A scope is either the scope of an open construct, carried by all tokens inside it,
or a leaf scope, which one token carries for what it is; `Scope.isFrame` tells the two apart.
-/

namespace RonWorkbench

/-- What a stretch of text is, or is inside of. -/
inductive Scope
  | source
  | lineComment
  | blockComment
  | commentMark
  | character
  | escape
  | characterMark
  | quoted
  | rawQuoted
  | stringMark
  | hexNumber
  | binaryNumber
  | octalNumber
  | number
  | constant
  | typeName
  | variantName
  | memberName
  | identifier
  | colon
  | comma
  | struct
  | list
  | map
  | parens
  | brackets
  | braces
  | innerAttribute
  | invalid
  deriving Repr, DecidableEq

namespace Scope

/-- Every scope, in the order of declaration. -/
def all : List Scope :=
  [source, lineComment, blockComment, commentMark, character, escape, characterMark, quoted,
    rawQuoted, stringMark, hexNumber, binaryNumber, octalNumber, number, constant, typeName,
    variantName, memberName, identifier, colon, comma, struct, list, map, parens, brackets, braces,
    innerAttribute, invalid]

/-- The name by which editors and listings know the scope. -/
def name : Scope → String
  | source => "source.ron"
  | lineComment => "comment.line.double-slash.ron"
  | blockComment => "comment.block.ron"
  | commentMark => "punctuation.definition.comment.ron"
  | character => "constant.character.ron"
  | escape => "constant.character.escape.ron"
  | characterMark => "punctuation.definition.char.ron"
  | quoted => "string.quoted.double.ron"
  | rawQuoted => "string.quoted.other.raw.ron"
  | stringMark => "punctuation.definition.string.ron"
  | hexNumber => "constant.numeric.hex.ron"
  | binaryNumber => "constant.numeric.binary.ron"
  | octalNumber => "constant.numeric.octal.ron"
  | number => "constant.numeric.ron"
  | constant => "constant.language.ron"
  | typeName => "entity.name.type.ron"
  | variantName => "entity.name.type.variant.ron"
  | memberName => "variable.other.member.ron"
  | identifier => "variable.other.ron"
  | colon => "punctuation.separator.key-value.ron"
  | comma => "punctuation.separator.comma.ron"
  | struct => "meta.struct.ron"
  | list => "meta.list.ron"
  | map => "meta.map.ron"
  | parens => "punctuation.section.parens.ron"
  | brackets => "punctuation.section.brackets.ron"
  | braces => "punctuation.section.braces.ron"
  | innerAttribute => "meta.attribute.ron"
  | invalid => "invalid.illegal.ron"

/-- The scope of a name, if it is the name of one. -/
def ofName? (n : String) : Option Scope :=
  all.find? fun s ↦ s.name == n

/-- Reading a name gives the scope that has it. -/
@[simp]
theorem ofName?_name (s : Scope) : ofName? s.name = some s := by
  cases s <;> rfl

/-- One of the four families of numbers. -/
def isNumeric : Scope → Bool
  | hexNumber | binaryNumber | octalNumber | number => true
  | _ => false

/-- A scope that an open construct gives to all that stands inside it. -/
def isFrame : Scope → Bool
  | blockComment | quoted | rawQuoted | character | struct | list | map => true
  | _ => false

end Scope

end RonWorkbench
