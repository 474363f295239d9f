import RonWorkbench.Proofs.Listing.Json

/-!
# The simple listing holds the tokens

A line of the simple listing has a token's text in brackets, and the text may be anything that a
line may hold, the brackets and the arrow included. Behind the arrow are names of scopes, which have
no closing bracket, so the last arrow of the line is the one of the listing
(`Text.cutAtLast?_append`). No token has a newline in it, so the lines of the listing are its
tokens, and the listing is read back token by token (`readListing?_simpleListing`).
-/

namespace RonWorkbench

/-! ### The last occurrence of a separator -/

namespace Text

/-- The two sides of the last occurrence of a separator. -/
def cutAtLast? (sep : List Char) : List Char → Option (List Char × List Char)
  | [] => if sep = [] then some ([], []) else none
  | c :: text =>
    match cutAtLast? sep text with
    | some (before, behind) => some (c :: before, behind)
    | none => (sep.isPrefixOf? (c :: text)).map fun behind ↦ ([], behind)

variable {sep text before behind : List Char}

theorem eq_append_of_cutAtLast? (h : cutAtLast? sep text = some (before, behind)) :
    text = before ++ (sep ++ behind) := by
  induction text generalizing before with
  | nil =>
    rw [cutAtLast?] at h
    split at h
    · next hsep => simp_all
    · simp at h
  | cons c text ih =>
    rw [cutAtLast?] at h
    split at h
    · next before' behind' hmore =>
      obtain ⟨rfl, rfl⟩ := Prod.mk.inj (Option.some.inj h)
      rw [ih hmore, List.cons_append]
    · obtain ⟨rest, hrest, hcut⟩ := Option.map_eq_some_iff.1 h
      obtain ⟨rfl, rfl⟩ := Prod.mk.inj hcut
      exact (List.isPrefixOf?_eq_some_iff_append_eq.1 hrest).symm

/-- What is cut is not in front of an occurrence. -/
theorem exists_cutAtLast?_append (sep before behind : List Char) :
    ∃ a b, cutAtLast? sep (before ++ (sep ++ behind)) = some (a, b) ∧
      before.length ≤ a.length := by
  induction before with
  | nil =>
    cases htext : sep ++ behind with
    | nil =>
      obtain ⟨rfl, rfl⟩ := List.append_eq_nil_iff.1 htext
      exact ⟨[], [], rfl, Nat.le_refl _⟩
    | cons c text =>
      rw [List.nil_append, cutAtLast?]
      split
      · exact ⟨_, _, rfl, Nat.zero_le _⟩
      · rw [List.isPrefixOf?_eq_some_iff_append_eq.2 htext]
        exact ⟨_, _, rfl, Nat.zero_le _⟩
  | cons c before ih =>
    obtain ⟨a, b, hcut, hle⟩ := ih
    refine ⟨c :: a, b, ?_, Nat.succ_le_succ hle⟩
    rw [List.cons_append, cutAtLast?, hcut]

/-- **The cut is at the last occurrence.** -/
theorem cutAtLast?_eq_some_iff :
    cutAtLast? sep text = some (before, behind) ↔
      text = before ++ (sep ++ behind) ∧
        ∀ a b, text = a ++ (sep ++ b) → a.length ≤ before.length := by
  refine ⟨fun h ↦ ⟨eq_append_of_cutAtLast? h, fun a b htext ↦ ?_⟩, fun ⟨htext, hlast⟩ ↦ ?_⟩
  · obtain ⟨a', b', hcut, hle⟩ := exists_cutAtLast?_append sep a b
    rw [← htext, h] at hcut
    obtain ⟨rfl, rfl⟩ := Prod.mk.inj (Option.some.inj hcut)
    exact hle
  · obtain ⟨a, b, hcut, hle⟩ := exists_cutAtLast?_append sep before behind
    rw [← htext] at hcut
    have htext' := eq_append_of_cutAtLast? hcut
    have hlength := Nat.le_antisymm (hlast a b htext') hle
    rw [htext] at htext'
    obtain ⟨rfl, hbehind⟩ := List.append_inj htext' hlength.symm
    rw [hcut, List.append_cancel_left hbehind]

/-- An occurrence is the last one if its first character does not come again. -/
theorem cutAtLast?_append {c : Char} (hc : c ∉ sep ++ behind) :
    cutAtLast? (c :: sep) (before ++ (c :: sep ++ behind)) = some (before, behind) := by
  refine cutAtLast?_eq_some_iff.2 ⟨rfl, fun a b htext ↦ ?_⟩
  rcases List.append_eq_append_iff.1 htext with ⟨m, rfl, hm⟩ | ⟨m, rfl, -⟩
  · cases m with
    | nil => simp
    | cons d m =>
      rw [List.cons_append, List.cons_append] at hm
      refine absurd ?_ hc
      rw [(List.cons.inj hm).2]
      simp
  · simp

end Text

/-! ### Reading the simple listing -/

/-- What a listing says of a token: its text and the names of its scopes. -/
structure Listed where
  text : List Char
  names : List String
  deriving Repr, DecidableEq

namespace Listed

/-- What stands between a token and its scopes. -/
def separator : List Char := [']', ' ', '→', ' ']

/-- Names with a comma and a blank between them. -/
def readNames (names : List Char) : List String :=
  (names.splitOn ',').map fun name ↦ String.ofList (name.dropWhile (· == ' '))

/-- A line of the listing: a bracket, and the two sides of the last separator. -/
def readLine? : List Char → Option Listed
  | '[' :: rest => (Text.cutAtLast? separator rest).map fun cut ↦ ⟨cut.1, readNames cut.2⟩
  | _ => none

/-- The tokens of a simple listing, a line for each; nothing is listed by an empty one. -/
def readListing? (listing : List Char) : Option (List Listed) :=
  if listing = [] then some [] else (listing.splitOn '\n').mapM readLine?

/-- No name has a character that the listing sets between names, tokens and lines. -/
theorem notMem_name (s : Scope) :
    ']' ∉ s.name.toList ∧ ',' ∉ s.name.toList ∧ ' ' ∉ s.name.toList ∧ '\n' ∉ s.name.toList := by
  cases s <;> decide +kernel

/-- The blank behind a comma may be counted to the name that follows. -/
theorem intercalate_comma_blank (first : List Char) (names : List (List Char)) :
    [',', ' '].intercalate (first :: names) =
      [','].intercalate (first :: names.map fun name ↦ ' ' :: name) := by
  induction names generalizing first with
  | nil => rw [List.map_nil, List.intercalate_singleton, List.intercalate_singleton]
  | cons name names ih =>
    rw [List.intercalate_cons_cons, ih name, List.map_cons, List.intercalate_cons_cons]
    cases names with
    | nil => simp
    | cons next names => simp [List.intercalate_cons_cons]

/-- A name is read back, with a blank in front of it or without. -/
theorem ofList_dropWhile_name (s : Scope) :
    String.ofList (s.name.toList.dropWhile (· == ' ')) = s.name ∧
      String.ofList ((' ' :: s.name.toList).dropWhile (· == ' ')) = s.name := by
  have hname : s.name.toList.dropWhile (· == ' ') = s.name.toList := by
    refine List.dropWhile_eq_self_iff.2 fun hpos hblank ↦ ?_
    have hmem := List.getElem_mem hpos
    rw [beq_iff_eq.1 hblank] at hmem
    exact (notMem_name s).2.2.1 hmem
  rw [List.dropWhile_cons_of_pos (by rfl), hname, String.ofList_toList]
  exact ⟨rfl, rfl⟩

/-- **The names of scopes are read back.** -/
theorem readNames_intercalate {scopes : List Scope} (h : scopes ≠ []) :
    readNames (", ".intercalate (scopes.map Scope.name)).toList = scopes.map Scope.name := by
  obtain ⟨first, scopes, rfl⟩ := List.exists_cons_of_ne_nil h
  have hsep : ", ".toList = [',', ' '] := rfl
  rw [readNames, String.toList_intercalate, hsep, List.map_map, List.map_cons,
    intercalate_comma_blank, List.splitOn_intercalate ',' ?_ (List.cons_ne_nil _ _)]
  · rw [List.map_cons, List.map_cons, List.map_map, List.map_map]
    refine congrArg₂ List.cons (ofList_dropWhile_name first).1 (List.map_congr_left fun s _ ↦ ?_)
    exact (ofList_dropWhile_name s).2
  · rw [List.forall_mem_cons, List.map_map]
    refine ⟨(notMem_name first).2.1, fun name hname ↦ ?_⟩
    obtain ⟨s, -, rfl⟩ := List.mem_map.1 hname
    exact List.not_mem_cons_of_ne_of_not_mem (by decide) (notMem_name s).2.1

/-- No character of the list is in the names of scopes with commas and blanks between them. -/
theorem notMem_intercalate_names {c : Char} (hcomma : c ≠ ',') (hblank : c ≠ ' ')
    (hname : ∀ s : Scope, c ∉ s.name.toList) (scopes : List Scope) :
    c ∉ (", ".intercalate (scopes.map Scope.name)).toList := by
  have hsep : ", ".toList = [',', ' '] := rfl
  rw [String.toList_intercalate, hsep, List.map_map]
  induction scopes with
  | nil => simp
  | cons s scopes ih =>
    cases scopes with
    | nil => simpa using hname s
    | cons next scopes =>
      rw [List.map_cons, List.map_cons, List.intercalate_cons_cons]
      simp_all

end Listed

/-! ### The tokens of a document, listed -/

/-- What a listing is to say of a token. -/
def Token.listed? (t : Token) (line : List Char) : Option Listed :=
  (t.text? line).map fun text ↦ ⟨text, t.scopes.map Scope.name⟩

/-- What a listing is to say of the tokens of a line, in their order. -/
def Document.Line.listed? (line : Document.Line) : Option (List Listed) :=
  line.tokens.mapM fun t ↦ t.listed? line.text

/-- What a listing is to say of the tokens of a document, line by line. -/
def Document.listed? (d : Document) : Option (List (List Listed)) :=
  d.lines.mapM Document.Line.listed?

namespace Token

/-- **A line of the simple listing is read back.** -/
theorem readLine?_render {t : Token} {line inside : List Char} (htext : t.text? line = some inside)
    (hscopes : t.scopes ≠ []) : Listed.readLine? (t.render line) = t.listed? line := by
  have hbracket : ']' ∉ [' ', '→', ' '] ++ (", ".intercalate (t.scopes.map Scope.name)).toList := by
    refine List.not_mem_append (by decide) (Listed.notMem_intercalate_names (by decide)
      (by decide) (fun s ↦ (Listed.notMem_name s).1) _)
  have hsep : "] → ".toList = Listed.separator := rfl
  have hcut : Text.cutAtLast? Listed.separator (inside ++ (Listed.separator ++ _)) =
      some (inside, _) := Text.cutAtLast?_append hbracket
  rw [render, htext, Option.getD_some, List.append_assoc, hsep, Listed.readLine?, listed?, htext,
    hcut, Option.map_some, Option.map_some, Listed.readNames_intercalate hscopes]

/-- The slice of a line without newlines is listed without newlines. -/
theorem newline_notMem_render {t : Token} {line : List Char} (hline : '\n' ∉ line) :
    '\n' ∉ t.render line := by
  have htext : '\n' ∉ (t.text? line).getD [] := by
    cases htext : t.text? line with
    | none => simp
    | some inside =>
      obtain ⟨before, after, rfl, -, -⟩ := Text.slice?_eq_some_iff.1 htext
      simp_all
  rw [render]
  refine List.not_mem_cons_of_ne_of_not_mem (by decide) (List.not_mem_append
    (List.not_mem_append htext (by decide)) ?_)
  exact Listed.notMem_intercalate_names (by decide) (by decide)
    (fun s ↦ (Listed.notMem_name s).2.2.2) _

end Token

theorem scopes_ne_nil_of_mem_tokenizeLine {line : List Char} {s : Stack} {t : Token}
    (ht : t ∈ (tokenizeLine line s).tokens) : t.scopes ≠ [] := by
  obtain ⟨p, -, hscopes⟩ := exists_mem_scan_of_mem_tokenizeLine ht
  simp [hscopes, Piece.scopes, Stack.scopes]

namespace Document

/-- What holds of each item in turn holds of the list of what is got. -/
theorem exists_mapM_eq_some {α β γ : Type} {f : α → Option β} {g : β → γ} {k : α → γ} {l : List α}
    (h : ∀ a ∈ l, ∃ b, f a = some b ∧ g b = k a) :
    ∃ got, l.mapM f = some got ∧ got.map g = l.map k := by
  induction l with
  | nil => exact ⟨[], rfl, rfl⟩
  | cons a l ih =>
    rw [List.forall_mem_cons] at h
    obtain ⟨b, hb, hg⟩ := h.1
    obtain ⟨got, hgot, hmap⟩ := ih h.2
    refine ⟨b :: got, ?_, by rw [List.map_cons, List.map_cons, hg, hmap]⟩
    rw [List.mapM_cons, hb, hgot]
    rfl

/-- **The listed texts of a line make up the line.** -/
theorem Line.exists_listed? {text : List Char} {line : Line}
    (hline : line ∈ (ofText text).lines) :
    ∃ listed, line.listed? = some listed ∧ listed.flatMap Listed.text = line.text := by
  obtain ⟨front, back, -, htokens⟩ := Line.exists_front_of_mem_classify hline
  obtain ⟨texts, htexts, hflatten⟩ :=
    (covers_tokenizeLine line.text (Stack.afterLines [] (front.map Text.Line.text))).texts
  rw [← htokens] at htexts
  have hget : line.tokens.map (fun t ↦ (t.text? line.text).getD []) = texts := by
    have hmap := congrArg (List.map fun text ↦ text.getD []) htexts
    simpa [Function.comp_def] using hmap
  obtain ⟨listed, hlisted, hmap⟩ : ∃ listed, line.listed? = some listed ∧
      listed.map Listed.text = line.tokens.map fun t ↦ (t.text? line.text).getD [] := by
    refine exists_mapM_eq_some fun t ht ↦ ?_
    obtain ⟨inside, hinside, -⟩ := exists_text?_of_mem_tokens hline ht
    exact ⟨⟨inside, t.scopes.map Scope.name⟩, by rw [Token.listed?, hinside, Option.map_some],
      by rw [hinside, Option.getD_some]⟩
  exact ⟨listed, hlisted, by rw [List.flatMap_def, hmap, hget, hflatten]⟩

/-- Parts that are not empty, cut at a separator that is in none of their lines. -/
theorem splitOn_intercalate_intercalate {c : Char} {parts : List (List (List Char))}
    (hne : parts ≠ []) (h : ∀ part ∈ parts, part ≠ [] ∧ ∀ line ∈ part, c ∉ line) :
    ([c].intercalate (parts.map [c].intercalate)).splitOn c = parts.flatten := by
  induction parts with
  | nil => exact absurd rfl hne
  | cons part parts ih =>
    rw [List.forall_mem_cons] at h
    have hpart := List.splitOn_intercalate c h.1.2 h.1.1
    cases parts with
    | nil => simpa using hpart
    | cons next parts =>
      have hmore := ih (List.cons_ne_nil _ _) h.2
      have hcut (a b : List Char) : (a ++ c :: b).splitOn c = a.splitOn c ++ b.splitOn c :=
        List.splitOnP_append_cons a b (beq_self_eq_true c)
      rw [List.map_cons, List.map_cons, List.intercalate_cons_cons, List.append_assoc,
        List.singleton_append, hcut, hpart, ← List.map_cons, hmore]
      rfl

/-- **The lines of the simple listing are the tokens of the document.** -/
theorem splitOn_simpleListing {d : Document} (hne : ∃ line ∈ d.lines, line.tokens ≠ [])
    (hlines : ∀ line ∈ d.lines, '\n' ∉ line.text) :
    d.simpleListing.splitOn '\n' =
      d.lines.flatMap fun line ↦ line.tokens.map fun t ↦ t.render line.text := by
  let rendered (line : Line) : List (List Char) := line.tokens.map fun t ↦ t.render line.text
  -- Lines without tokens are left out of the listing, and give nothing to the list of tokens
  -- either.
  have hparts : (d.lines.filter fun line ↦ !line.tokens.isEmpty).map rendered =
      (d.lines.map rendered).filter fun part ↦ !part.isEmpty := by
    rw [List.filter_map]
    congr 2
    funext line
    simp [rendered]
  have hlisting : d.simpleListing =
      ['\n'].intercalate (((d.lines.map rendered).filter fun part ↦ !part.isEmpty).map
        ['\n'].intercalate) := by
    rw [← hparts, List.map_map]
    rfl
  rw [hlisting, splitOn_intercalate_intercalate, List.flatten_filter_not_isEmpty,
    List.flatMap_def]
  · obtain ⟨line, hline, htokens⟩ := hne
    have hshown : (!(rendered line).isEmpty) = true := by simpa [rendered] using htokens
    exact List.ne_nil_of_mem (List.mem_filter.2 ⟨List.mem_map_of_mem hline, hshown⟩)
  · intro part hpart
    obtain ⟨hpart, hempty⟩ := List.mem_filter.1 hpart
    obtain ⟨line, hline, rfl⟩ := List.mem_map.1 hpart
    refine ⟨by simpa using hempty, fun shown hshown ↦ ?_⟩
    obtain ⟨t, -, rfl⟩ := List.mem_map.1 hshown
    exact Token.newline_notMem_render (hlines line hline)

theorem mapM_readLine?_render {lines : List Line}
    (h : ∀ line ∈ lines, ∀ t ∈ line.tokens,
      Listed.readLine? (t.render line.text) = t.listed? line.text) :
    (lines.flatMap fun line ↦ line.tokens.map fun t ↦ t.render line.text).mapM Listed.readLine? =
      (lines.mapM Line.listed?).map List.flatten := by
  induction lines with
  | nil => rfl
  | cons line lines ih =>
    rw [List.forall_mem_cons] at h
    have hline : (line.tokens.map fun t ↦ t.render line.text).mapM Listed.readLine? =
        line.listed? := mapM_map_congr h.1
    rw [List.flatMap_cons, List.mapM_append, ih h.2, hline, List.mapM_cons]
    cases line.listed? <;> cases lines.mapM Line.listed? <;> rfl

section OfText

variable {text : List Char} {line : Line} (hline : line ∈ (ofText text).lines)
include hline

theorem newline_notMem_of_mem_lines : '\n' ∉ line.text := by
  obtain ⟨before, after, -, -, hnewline⟩ := Text.exists_append_of_mem_lines (bare_mem_lines hline)
  exact hnewline

theorem readLine?_render_of_mem_tokens {t : Token} (ht : t ∈ line.tokens) :
    Listed.readLine? (t.render line.text) = t.listed? line.text := by
  obtain ⟨inside, hinside, -⟩ := exists_text?_of_mem_tokens hline ht
  obtain ⟨front, back, -, htokens⟩ := Line.exists_front_of_mem_classify hline
  rw [htokens] at ht
  exact Token.readLine?_render hinside (scopes_ne_nil_of_mem_tokenizeLine ht)

end OfText

/-- **The simple listing is read back.** -/
theorem readListing?_simpleListing (text : List Char) :
    Listed.readListing? (ofText text).simpleListing =
      (ofText text).listed?.map List.flatten := by
  have hread := mapM_readLine?_render fun line (hline : line ∈ (ofText text).lines) t ht ↦
    readLine?_render_of_mem_tokens hline ht
  rw [listed?, ← hread]
  by_cases hne : ∃ line ∈ (ofText text).lines, line.tokens ≠ []
  · have hsplit := splitOn_simpleListing hne fun line ↦ newline_notMem_of_mem_lines
    have hlisting : (ofText text).simpleListing ≠ [] := by
      -- an empty text has a single line, and that is not the line of a token
      intro hempty
      rw [hempty, List.splitOn_nil] at hsplit
      have hmem : [] ∈ (ofText text).lines.flatMap fun line ↦
          line.tokens.map fun t ↦ t.render line.text := hsplit ▸ List.mem_singleton_self []
      simp [Token.render] at hmem
    rw [Listed.readListing?, if_neg hlisting, hsplit]
  · have hnone : ∀ line ∈ (ofText text).lines, line.tokens = [] := by simpa using hne
    have hlisting : (ofText text).simpleListing = [] := by
      have hfilter : (ofText text).lines.filter (fun line ↦ !line.tokens.isEmpty) = [] :=
        List.filter_eq_nil_iff.2 fun line hline ↦ by simp [hnone line hline]
      rw [simpleListing, hfilter]
      rfl
    have hshown : ((ofText text).lines.flatMap fun line ↦
        line.tokens.map fun t ↦ t.render line.text) = [] :=
      List.flatMap_eq_nil_iff.2 fun line hline ↦ by simp [hnone line hline]
    rw [hlisting, hshown]
    rfl

/-- **The listed texts of a document make up its lines.** -/
theorem exists_listed? (text : List Char) :
    ∃ perLine, (ofText text).listed? = some perLine ∧
      perLine.map (fun listed ↦ listed.flatMap Listed.text) =
        (Text.lines text).map Text.Line.text := by
  rw [← map_bare_lines, List.map_map]
  exact exists_mapM_eq_some fun line hline ↦ Line.exists_listed? hline

/--
**The two listings list the same tokens.** For each line of the text there is a list of texts and
names, one for each token. The simple listing reads as these lists one behind the other, the JSON
listing as these lists, by the ranges of the tokens in their lines; and the texts of each list make
up the line.

The bound for the JSON listing is that of a text in memory.
-/
theorem listings_list_same_tokens (text : List Char) :
    ∃ perLine : List (List Listed),
      (ofText text).listed? = some perLine ∧
      Listed.readListing? ((ofText text).listing .simple) = some perLine.flatten ∧
      (Text.byteLength text < 2 ^ 64 →
        ((Json.parse? ((ofText text).listing .json)).bind ofJson?).bind listed? = some perLine) ∧
      perLine.map (fun listed ↦ listed.flatMap Listed.text) =
        (Text.lines text).map Text.Line.text := by
  obtain ⟨perLine, hlisted, htexts⟩ := exists_listed? text
  refine ⟨perLine, hlisted, ?_, fun h ↦ ?_, htexts⟩
  · show Listed.readListing? (ofText text).simpleListing = _
    rw [readListing?_simpleListing, hlisted, Option.map_some]
  · rw [parse?_listing_json h, Option.bind_some, hlisted]

/-- A comment with a bracket, an arrow and blanks in it, an empty line, and a bracket. -/
theorem listings_list_same_tokens_separator_in_comment :
    let text := ['/', '/', ' ', 'a', ']', ' ', '→', ' ', '\n', '\n', '[']
    let comment : Listed :=
      ⟨['/', '/', ' ', 'a', ']', ' ', '→', ' '], ["source.ron", "comment.line.double-slash.ron"]⟩
    let bracket : Listed :=
      ⟨['['], ["source.ron", "meta.list.ron", "punctuation.section.brackets.ron"]⟩
    Listed.readListing? ((ofText text).listing .simple) = some [comment, bracket] ∧
      ((Json.parse? ((ofText text).listing .json)).bind ofJson?).bind listed? =
        some [[comment], [], [bracket]] := by
  intro text comment bracket
  have hlisted : (ofText text).listed? = some [[comment], [], [bracket]] := by decide +kernel
  obtain ⟨perLine, hperLine, hsimple, hjson, -⟩ := listings_list_same_tokens text
  obtain rfl := Option.some.inj (hperLine.symm.trans hlisted)
  exact ⟨hsimple, hjson (by decide)⟩

end Document

end RonWorkbench
