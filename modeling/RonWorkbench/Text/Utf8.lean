/-!
# Byte lengths of text

Text is a list of characters throughout the library, while every offset that leaves it counts
the bytes of the UTF-8 encoding. This module holds the bridge: the number of bytes of a text, its
number of UTF-16 units, and the cut of a text at a byte offset, which is defined only where the
offset stands between two characters (`splitAtByte?`).

Bytes that come from outside (a file, the output of a program) are decoded in two ways: strictly
(`decode?`), and with a replacement character for every ill-formed sequence (`decodeLossy`).
-/

namespace RonWorkbench.Text

/-- Number of bytes of the UTF-8 encoding. -/
def byteLength (text : List Char) : Nat :=
  text.foldr (fun c n ↦ c.utf8Size + n) 0

@[simp]
theorem byteLength_nil : byteLength [] = 0 :=
  rfl

@[simp]
theorem byteLength_cons (c : Char) (text : List Char) :
    byteLength (c :: text) = c.utf8Size + byteLength text :=
  rfl

@[simp]
theorem byteLength_append (a b : List Char) :
    byteLength (a ++ b) = byteLength a + byteLength b := by
  induction a with
  | nil => simp
  | cons c a ih => simp only [List.cons_append, byteLength_cons, ih, Nat.add_assoc]

/-- A text without bytes has no characters, for each character takes at least one. -/
theorem byteLength_eq_zero_iff {text : List Char} : byteLength text = 0 ↔ text = [] := by
  cases text with
  | nil => simp
  | cons c text => simp [Nat.ne_of_gt c.utf8Size_pos]

/-- Number of UTF-16 units of one character: two beyond the basic plane. -/
def units16 (c : Char) : Nat :=
  if c.toNat < 0x10000 then 1 else 2

/-- Number of UTF-16 units of a text. -/
def utf16Length (text : List Char) : Nat :=
  text.foldr (fun c n ↦ units16 c + n) 0

@[simp]
theorem utf16Length_nil : utf16Length [] = 0 :=
  rfl

@[simp]
theorem utf16Length_cons (c : Char) (text : List Char) :
    utf16Length (c :: text) = units16 c + utf16Length text :=
  rfl

/-- Cut a text at a byte offset: `none` if the offset is inside a character or past the end. -/
def splitAtByte? : Nat → List Char → Option (List Char × List Char)
  | 0, text => some ([], text)
  | _ + 1, [] => none
  | n + 1, c :: text =>
    if c.utf8Size ≤ n + 1 then
      (splitAtByte? (n + 1 - c.utf8Size) text).map fun cut ↦ (c :: cut.1, cut.2)
    else
      none

/-- The text between two byte offsets, where both are character boundaries in order. -/
def slice? (start stop : Nat) (text : List Char) : Option (List Char) :=
  if start ≤ stop then do
    let (_, rest) ← splitAtByte? start text
    let (inside, _) ← splitAtByte? (stop - start) rest
    return inside
  else
    none

/-- The bytes of a text. -/
def encode (text : List Char) : List UInt8 :=
  (String.ofList text).toUTF8.toList

/-- The text whose encoding the bytes are, if they are well formed. -/
def decode? (bytes : List UInt8) : Option (List Char) :=
  (String.fromUTF8? (ByteArray.mk bytes.toArray)).map String.toList

/-- Is this a continuation byte, within the narrower bounds that may follow some first bytes? -/
def isContinuation (low high : Nat) (b : UInt8) : Bool :=
  decide (low ≤ b.toNat) && decide (b.toNat ≤ high)

/-- The bounds of the bytes that must follow a first byte, or `none` if no sequence starts so. -/
def continuationBounds (first : UInt8) : Option (List (Nat × Nat)) :=
  let b := first.toNat
  if b < 0x80 then some []
  else if b < 0xC2 then none
  else if b < 0xE0 then some [(0x80, 0xBF)]
  else if b = 0xE0 then some [(0xA0, 0xBF), (0x80, 0xBF)]
  else if b = 0xED then some [(0x80, 0x9F), (0x80, 0xBF)]
  else if b < 0xF0 then some [(0x80, 0xBF), (0x80, 0xBF)]
  else if b = 0xF0 then some [(0x90, 0xBF), (0x80, 0xBF), (0x80, 0xBF)]
  else if b < 0xF4 then some [(0x80, 0xBF), (0x80, 0xBF), (0x80, 0xBF)]
  else if b = 0xF4 then some [(0x80, 0x8F), (0x80, 0xBF), (0x80, 0xBF)]
  else none

/-- The longest run of bytes that meet the bounds one after another. -/
def takeContinuation : List (Nat × Nat) → List UInt8 → List UInt8
  | (low, high) :: bounds, b :: rest =>
    if isContinuation low high b then b :: takeContinuation bounds rest else []
  | _, _ => []

/-- The character that a first byte and its complete continuation encode. -/
def joinBytes (first : UInt8) (more : List UInt8) : Char :=
  let lead :=
    match more.length with
    | 0 => first.toNat
    | 1 => first.toNat % 32
    | 2 => first.toNat % 16
    | _ => first.toNat % 8
  Char.ofNat (more.foldl (fun code b ↦ code * 64 + b.toNat % 64) lead)

/--
Decode bytes, putting U+FFFD for every maximal stretch that begins a sequence and does not
complete it, and for every byte that begins none.
-/
def decodeLossy : List UInt8 → List Char
  | [] => []
  | first :: rest =>
    match continuationBounds first with
    | none => '\uFFFD' :: decodeLossy rest
    | some bounds =>
      let more := takeContinuation bounds rest
      have : (rest.drop more.length).length < (first :: rest).length := by
        simp only [List.length_drop, List.length_cons]
        omega
      (if more.length = bounds.length then joinBytes first more else '\uFFFD')
        :: decodeLossy (rest.drop more.length)
termination_by bytes => bytes.length

end RonWorkbench.Text
