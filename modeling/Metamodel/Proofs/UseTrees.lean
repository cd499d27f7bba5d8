import Metamodel.Proofs.Lexing
import Metamodel.Proofs.Transient
import Metamodel.Unit.Accessor

/-!
The text of a recorded import, read back.

A unit writes each import it carries as the text of a `use` tree, `a::b::c`, `a::b as d` or
`a::b::*`, and reads that text again. The text gives the import back, in any module of the crate
that recorded it, when its segments are identifiers that a path takes as written (no keyword but
`self`, `super`, `crate` and `try`), its alias is an identifier or `_`, and a named import does
not end in `self` (`a::self` reads as `a`). The scanner makes every import absolute against its
module: none starts with `self` or `super`, and one starts with `crate` only in a crate whose
root segment is `crate`, so reading it again in that crate leaves it as it is. The glob `m::*`
of a module path written with such segments reads as a glob below them.
-/

namespace Metamodel.Text

/-- A code point below `bound` in a table lies in one of its first `k` ranges when every later
range starts at `bound` or above. -/
theorem inRanges_take {ranges : Array (Nat × Nat)} {code bound : Nat} (k : Nat)
    (inside : inRanges ranges code = true) (below : code < bound)
    (above : ∀ r ∈ ranges.toList.drop k, bound ≤ r.1) :
    ∃ r ∈ ranges.toList.take k, r.1 ≤ code ∧ code < r.2 := by
  rw [inRanges, ← Array.any_toList, ← List.take_append_drop k ranges.toList] at inside
  simp only [List.any_append, Bool.or_eq_true, List.any_eq_true, Bool.and_eq_true,
    decide_eq_true_eq] at inside
  rcases inside with found | ⟨r, later, low, _⟩
  · exact found
  · have := above r later
    omega

/-- An identifier start is `_`, an ASCII letter or no ASCII character. -/
theorem isIdentStart_code {c : Char} (start : isIdentStart c = true) :
    c.toNat = 95 ∨ (65 ≤ c.toNat ∧ c.toNat < 91) ∨ (97 ≤ c.toNat ∧ c.toNat < 123) ∨
      128 ≤ c.toNat := by
  unfold isIdentStart at start
  rcases Bool.or_eq_true_iff.mp start with underscore | listed
  · exact Or.inl (by rw [beq_iff_eq.mp underscore]; rfl)
  · by_cases ascii : c.toNat < 128
    · have above : ∀ r ∈ IdentTable.xidStart.toList.drop 2, 128 ≤ r.1 := by decide +kernel
      obtain ⟨r, first, low, high⟩ := inRanges_take 2 listed ascii above
      have firstTwo : IdentTable.xidStart.toList.take 2 = [(65, 91), (97, 123)] := by decide +kernel
      rw [firstTwo] at first
      simp only [List.mem_cons, List.not_mem_nil, or_false] at first
      rcases first with rfl | rfl <;> omega
    · omega

/-- An identifier start is none of the ASCII characters other than `_` and the letters. -/
theorem ne_of_isIdentStart {c d : Char} (start : isIdentStart c = true)
    (other : d.toNat < 65 ∨ (91 ≤ d.toNat ∧ d.toNat < 95) ∨ d.toNat = 96 ∨
      (123 ≤ d.toNat ∧ d.toNat < 128)) : c ≠ d := by
  rintro rfl
  have := isIdentStart_code start
  omega

/-- An identifier continue character is an ASCII digit or letter, `_`, or no ASCII character. -/
theorem isIdentContinue_code {c : Char} (cont : isIdentContinue c = true) :
    (48 ≤ c.toNat ∧ c.toNat < 58) ∨ (65 ≤ c.toNat ∧ c.toNat < 91) ∨ c.toNat = 95 ∨
      (97 ≤ c.toNat ∧ c.toNat < 123) ∨ 128 ≤ c.toNat := by
  unfold isIdentContinue at cont
  by_cases ascii : c.toNat < 128
  · have above : ∀ r ∈ IdentTable.xidContinue.toList.drop 4, 128 ≤ r.1 := by decide +kernel
    obtain ⟨r, first, low, high⟩ := inRanges_take 4 cont ascii above
    have firstFour :
        IdentTable.xidContinue.toList.take 4 = [(48, 58), (65, 91), (95, 96), (97, 123)] := by
      decide +kernel
    rw [firstFour] at first
    simp only [List.mem_cons, List.not_mem_nil, or_false] at first
    rcases first with rfl | rfl | rfl | rfl <;> omega
  · omega

/-- Whether every range of one list lies wholly before or after every range of another. -/
def rangesApart (as bs : List (Nat × Nat)) : Bool :=
  as.all fun a => bs.all fun b => a.2 ≤ b.1 || b.2 ≤ a.1

/-- A code point in a range of one list lies in no range of a list apart from it. -/
theorem outside_of_rangesApart {as bs : List (Nat × Nat)} (apart : rangesApart as bs = true)
    {code : Nat} (inside : as.any (fun r => r.1 ≤ code && code < r.2) = true) :
    ∀ b ∈ bs, ¬(b.1 ≤ code ∧ code < b.2) := by
  obtain ⟨a, listed, within⟩ := List.any_eq_true.mp inside
  intro b other within'
  simp only [rangesApart, List.all_eq_true] at apart
  have := apart a listed b other
  simp only [Bool.and_eq_true, decide_eq_true_eq, Bool.or_eq_true] at within this
  omega

/-- No identifier start is blank: XID_Start meets neither White_Space nor the direction marks. -/
theorem isBlank_of_isIdentStart {c : Char} (start : isIdentStart c = true) : isBlank c = false := by
  unfold isIdentStart at start
  rcases Bool.or_eq_true_iff.mp start with underscore | listed
  · rw [beq_iff_eq.mp underscore, isBlank, inRanges_eq_any_toList]
    decide +kernel
  · rw [inRanges, ← Array.any_toList] at listed
    have apart :
        rangesApart IdentTable.xidStart.toList (IdentTable.whiteSpace.toList ++ [(0x200E, 0x2010)]) = true := by
      decide +kernel
    have outside := outside_of_rangesApart apart listed
    have marks := outside (0x200E, 0x2010) (by simp)
    rw [isBlank, inRanges, ← Array.any_toList]
    simp only [Bool.or_eq_false_iff, List.any_eq_false, beq_eq_false_iff_ne]
    refine ⟨⟨fun b white => ?_, ?_⟩, ?_⟩
    · simpa using outside b (List.mem_append_left _ white)
    · omega
    · omega

end Metamodel.Text

namespace Metamodel.Code

/-- Text that is an identifier is an identifier start followed by identifier continue
characters. -/
theorem identChars_of_identFailure? {text : String} (fit : identFailure? text = none) :
    ∃ c more, text.toList = c :: more ∧ Text.isIdentStart c = true ∧
      ∀ x ∈ more, Text.isIdentContinue x = true := by
  unfold identFailure? at fit
  cases listed : text.toList with
  | nil =>
    rw [listed] at fit
    cases fit
  | cons first more =>
    rw [listed] at fit
    dsimp only at fit
    split_ifs at fit with digits chars
    simp only [Bool.and_eq_true, List.all_eq_true] at chars
    exact ⟨first, more, rfl, chars.1, chars.2⟩

end Metamodel.Code

namespace Metamodel.Source

open Text

/-! ### Lexing the text of a path -/

/-- What follows the first character of an identifier in a written use tree: continue
characters, then `::`, a blank or the end. -/
def IdentRest (cs : List Char) : Prop :=
  ∃ more tail, cs = more ++ tail ∧ (∀ x ∈ more, isIdentContinue x = true) ∧
    ∀ c ∈ tail.head?, c = ':' ∨ c = ' '

namespace IdentRest

theorem head_cases {y : Char} {rest : List Char} (ident : IdentRest (y :: rest)) :
    isIdentContinue y = true ∨ y = ':' ∨ y = ' ' := by
  obtain ⟨more, tail, split, cont, ends⟩ := ident
  cases more with
  | nil =>
    rw [List.nil_append] at split
    exact Or.inr (ends y (by rw [← split]; rfl))
  | cons x more =>
    obtain ⟨rfl, -⟩ := List.cons.inj split
    exact Or.inl (cont y List.mem_cons_self)

/-- The character after an identifier's first opens no literal. -/
theorem head_plain {y : Char} {rest : List Char} (ident : IdentRest (y :: rest)) :
    y ≠ '"' ∧ y ≠ '#' ∧ y ≠ '\'' := by
  rcases ident.head_cases with cont | rfl | rfl
  · have code := isIdentContinue_code cont
    refine ⟨?_, ?_, ?_⟩ <;> rintro rfl <;> simp at code
  · decide
  · decide

theorem next {y : Char} {rest : List Char} (ident : IdentRest (y :: rest)) (colon : y ≠ ':')
    (blank : y ≠ ' ') : IdentRest rest := by
  obtain ⟨more, tail, split, cont, ends⟩ := ident
  cases more with
  | nil =>
    rw [List.nil_append] at split
    rcases ends y (by rw [← split]; rfl) with same | same
    · exact absurd same colon
    · exact absurd same blank
  | cons x more =>
    obtain ⟨rfl, rfl⟩ := List.cons.inj split
    exact ⟨more, tail, rfl, fun z inside => cont z (List.mem_cons_of_mem _ inside), ends⟩

end IdentRest

theorem skipBlanks_identStart {c : Char} (start : isIdentStart c = true) (fuel : Nat)
    (rest : List Char) : skipBlanks (fuel + 1) (c :: rest) = c :: rest := by
  have code := isIdentStart_code start
  have slash := ne_of_isIdentStart start (d := '/') (by decide)
  have space : ¬(c = ' ' ∨ (9 ≤ c.toNat ∧ c.toNat ≤ 13)) := by
    rintro (same | control)
    · exact ne_of_isIdentStart start (by decide) same
    · omega
  unfold skipBlanks
  simp only [beq_iff_eq, slash, if_false, Bool.or_eq_true, Bool.and_eq_true, decide_eq_true_eq,
    space, ge_iff_le]
  split_ifs with ascii blank
  · rfl
  · rw [isBlank_of_isIdentStart start] at blank
    cases blank
  · rfl

theorem docComment_of_ne {c : Char} (other : c ≠ '/') (rest : List Char) :
    docComment (c :: rest) = none := by
  simp [docComment, startsWith, Ne.symm other]

/-- A raw string needs a hash or a quote after its `r`. -/
theorem rawBody_of_head {bytes : Bool} {cs : List Char} (plain : ∀ y ∈ cs.head?, y ≠ '#' ∧ y ≠ '"') :
    rawBody bytes cs = none := by
  cases cs with
  | nil => simp [rawBody]
  | cons y rest =>
    have ⟨hash, quote⟩ := plain y rfl
    simp [rawBody, hash, quote]

/-- An identifier that goes on after `r` (as in `br` or `cr`) opens no raw string. -/
theorem rawBody_after_r {bytes : Bool} {rest : List Char} (ident : IdentRest ('r' :: rest)) :
    rawBody bytes rest = none := by
  have after := ident.next (by decide) (by decide)
  refine rawBody_of_head fun y first => ?_
  cases rest with
  | nil => cases first
  | cons z more =>
    cases first
    exact ⟨after.head_plain.2.1, after.head_plain.1⟩

/-- No literal starts at an identifier. -/
theorem literalEnd_ident {c : Char} {cs : List Char} (start : isIdentStart c = true)
    (ident : IdentRest cs) : literalEnd (c :: cs) = none := by
  have code := isIdentStart_code start
  have notQuote : c ≠ '"' ∧ c ≠ '\'' :=
    ⟨ne_of_isIdentStart start (by decide), ne_of_isIdentStart start (by decide)⟩
  unfold literalEnd
  split
  next _ _ same =>
    exact absurd (List.cons.inj same).1 notQuote.1
  next _ rest same =>
    -- `r` then a hash or a quote opens a raw string.
    obtain ⟨-, rfl⟩ := List.cons.inj same
    split
    next _ after => exact absurd rfl ident.head_plain.1
    next _ after => exact absurd rfl ident.head_plain.2.1
    next => rfl
  next _ rest same =>
    obtain ⟨-, rfl⟩ := List.cons.inj same
    exact absurd rfl ident.head_plain.1
  next _ rest same =>
    obtain ⟨-, rfl⟩ := List.cons.inj same
    rw [rawBody_after_r ident, Option.map_none]
  next _ rest same =>
    obtain ⟨-, rfl⟩ := List.cons.inj same
    exact absurd rfl ident.head_plain.1
  next _ rest same =>
    obtain ⟨-, rfl⟩ := List.cons.inj same
    rw [rawBody_after_r ident, Option.map_none]
  next _ rest same =>
    obtain ⟨-, rfl⟩ := List.cons.inj same
    exact absurd rfl ident.head_plain.2.2
  next _ rest same =>
    exact absurd (List.cons.inj same).1 notQuote.2
  next _ _ _ _ _ _ _ _ _ _ same =>
    -- No identifier starts with a digit.
    obtain ⟨rfl, -⟩ := List.cons.inj same
    rw [if_neg]
    simp only [Bool.and_eq_true, decide_eq_true_eq, Char.le_def, UInt32.le_iff_toNat_le,
      Char.toNat_val]
    have zero : '0'.toNat = 48 := rfl
    have nine : '9'.toNat = 57 := rfl
    omega
  next => rfl

/-- No identifier start is a punctuation character. -/
theorem isPunctChar_of_isIdentStart {c : Char} (start : isIdentStart c = true) :
    isPunctChar c = false := by
  have chars : "~!@#$%^&*-=+|;:,<.>/?'".toList =
      ['~', '!', '@', '#', '$', '%', '^', '&', '*', '-', '=', '+', '|', ';', ':', ',', '<', '.', '>',
        '/', '?', '\''] := rfl
  rw [Bool.eq_false_iff]
  intro punct
  simp only [isPunctChar, List.contains_iff_mem, chars, List.mem_cons, List.not_mem_nil,
    or_false] at punct
  -- Every punctuation character is ASCII and neither `_` nor a letter.
  rcases punct with rfl | rfl | rfl | rfl | rfl | rfl | rfl | rfl | rfl | rfl | rfl | rfl | rfl | rfl |
    rfl | rfl | rfl | rfl | rfl | rfl | rfl | rfl <;>
    exact ne_of_isIdentStart start (by decide) rfl

theorem punctChar_identStart {c : Char} (start : isIdentStart c = true) (rest : List Char) :
    punctChar (c :: rest) = none := by
  have slash := ne_of_isIdentStart start (d := '/') (by decide)
  simp [punctChar, startsWith, Ne.symm slash, isPunctChar_of_isIdentStart start]

theorem punctToken_identStart {c : Char} (start : isIdentStart c = true) (rest : List Char) :
    punctToken (c :: rest) = none := by
  rw [punctToken, punctChar_identStart start]

/-- No literal prefix starts an identifier: each has a quote, a hash or an apostrophe among
its first three characters. -/
theorem literalPrefixes_ident {c : Char} {cs : List Char} (ident : IdentRest cs) :
    literalPrefixes.any (startsWith (c :: cs)) = false := by
  cases cs with
  | nil => simp [literalPrefixes, startsWith, List.isPrefixOf]
  | cons y rest =>
    obtain ⟨quote, hash, apostrophe⟩ := ident.head_plain
    by_cases r : y = 'r'
    · -- After `br` and `cr` a raw string needs a quote or a hash.
      subst r
      have after := ident.next (by decide) (by decide)
      cases rest with
      | nil => simp [literalPrefixes, startsWith, List.isPrefixOf]
      | cons z more =>
        obtain ⟨quote', hash', -⟩ := after.head_plain
        simp [literalPrefixes, startsWith, List.isPrefixOf, Ne.symm quote', Ne.symm hash']
    · simp [literalPrefixes, startsWith, List.isPrefixOf, Ne.symm quote, Ne.symm hash,
        Ne.symm apostrophe, Ne.symm r]

/-- An identifier followed by `::`, a blank or the end is read whole, as a plain one. -/
theorem identAny_ident {c : Char} {more tail : List Char} (start : isIdentStart c = true)
    (cont : ∀ x ∈ more, isIdentContinue x = true) (ends : ∀ y ∈ tail.head?, y = ':' ∨ y = ' ') :
    identAny (c :: (more ++ tail)) = some (String.ofList (c :: more), false, tail) := by
  have stops : tail.takeWhile isIdentContinue = [] := by
    cases tail with
    | nil => rfl
    | cons y rest =>
      have outside : isIdentContinue y = false := by
        rw [Bool.eq_false_iff]
        intro cont
        have code := isIdentContinue_code cont
        rcases ends y rfl with rfl | rfl <;> simp at code
      simp [outside]
  have plain : startsWith (c :: (more ++ tail)) "r#" = false := by
    have rest : IdentRest (more ++ tail) := ⟨more, tail, rfl, cont, ends⟩
    cases after : more ++ tail with
    | nil => simp [startsWith, List.isPrefixOf]
    | cons y others =>
      rw [after] at rest
      simp [startsWith, List.isPrefixOf, Ne.symm rest.head_plain.2.1]
  simp [identAny, plain, identBody, start, List.takeWhile_append_of_pos cont, stops]

/-! ### Steps of the lexer -/

/-- A blank is skipped with no step of its own. -/
theorem go_space (fuel : Nat) (stack : List OpenGroup) (current : List Token) (cs : List Char) :
    tokenize.go (fuel + 1) stack current (' ' :: cs) = tokenize.go (fuel + 1) stack current cs := by
  conv => lhs; unfold tokenize.go
  conv => rhs; unfold tokenize.go
  rfl

theorem go_nil (fuel : Nat) (current : List Token) :
    tokenize.go (fuel + 1) [] current [] = some current.reverse := by
  unfold tokenize.go
  rfl

/-- A `:` or a `*` is a punctuation token, joint when punctuation follows it. -/
theorem go_punct (fuel : Nat) (stack : List OpenGroup) (current : List Token) {c : Char}
    (glued : c = ':' ∨ c = '*') (cs : List Char) :
    tokenize.go (fuel + 1) stack current (c :: cs) =
      tokenize.go fuel stack
        (.punct c (if (punctChar cs).isSome then .joint else .alone) :: current) cs := by
  rcases glued with rfl | rfl
  all_goals
    conv => lhs; unfold tokenize.go
    simp [skipBlanks, docComment, startsWith, literalEnd, punctToken, punctChar, isPunctChar]

/-- An identifier followed by `::`, a blank or the end is one plain identifier token. -/
theorem go_ident (fuel : Nat) (stack : List OpenGroup) (current : List Token) {s : String}
    (fit : Code.identFailure? s = none) {tail : List Char}
    (ends : ∀ y ∈ tail.head?, y = ':' ∨ y = ' ') :
    tokenize.go (fuel + 1) stack current (s.toList ++ tail) =
      tokenize.go fuel stack (.ident s false :: current) tail := by
  obtain ⟨c, more, chars, start, cont⟩ := Code.identChars_of_identFailure? fit
  have rest : IdentRest (more ++ tail) := ⟨more, tail, rfl, cont, ends⟩
  have named : String.ofList (c :: more) = s := by rw [← chars, String.ofList_toList]
  have slash := ne_of_isIdentStart start (d := '/') (by decide)
  have paren := ne_of_isIdentStart start (d := '(') (by decide)
  have bracket := ne_of_isIdentStart start (d := '[') (by decide)
  have brace := ne_of_isIdentStart start (d := '\x7b') (by decide)
  have paren' := ne_of_isIdentStart start (d := ')') (by decide)
  have bracket' := ne_of_isIdentStart start (d := ']') (by decide)
  have brace' := ne_of_isIdentStart start (d := '\x7d') (by decide)
  rw [chars, List.cons_append]
  conv => lhs; unfold tokenize.go
  simp only [List.length_cons, skipBlanks_identStart start, docComment_of_ne slash,
    literalEnd_ident start rest, punctToken_identStart start, literalPrefixes_ident rest,
    identAny_ident start cont ends, named, beq_iff_eq, paren, bracket, brace, paren', bracket',
    brace', if_false, Bool.false_eq_true]

/-! ### The text of a path -/

/-- The characters of `s₁::…::sₙ::`. -/
def prefixChars (segs : List String) : List Char :=
  segs.flatMap fun s => s.toList ++ [':', ':']

/-- The tokens of `s₁::…::sₙ::` when an identifier follows. -/
def prefixTokens (segs : List String) : List Token :=
  segs.flatMap fun s => [.ident s false, .punct ':' .joint, .punct ':' .alone]

theorem length_prefixChars {segs : List String} (fit : ∀ s ∈ segs, Code.identFailure? s = none) :
    3 * segs.length ≤ (prefixChars segs).length := by
  induction segs with
  | nil => simp [prefixChars]
  | cons s segs ih =>
    obtain ⟨c, more, chars, -, -⟩ := Code.identChars_of_identFailure? (fit s List.mem_cons_self)
    have rest := ih fun s' inside => fit s' (List.mem_cons_of_mem _ inside)
    simp only [prefixChars, List.flatMap_cons, List.length_append, chars, List.length_cons,
      List.length_nil] at rest ⊢
    omega

/-- No punctuation starts an identifier. -/
theorem punctChar_ident {s : String} (fit : Code.identFailure? s = none) (tail : List Char) :
    punctChar (s.toList ++ tail) = none := by
  obtain ⟨c, more, chars, start, -⟩ := Code.identChars_of_identFailure? fit
  rw [chars, List.cons_append]
  exact punctChar_identStart start _

/-- `s₁::…::sₙ::` before text that starts with no punctuation is cut into an identifier and two
colons per segment, the second colon alone. -/
theorem go_prefix (stack : List OpenGroup) :
    ∀ (segs : List String), (∀ s ∈ segs, Code.identFailure? s = none) →
    ∀ (fuel : Nat) (current : List Token) (tail : List Char), punctChar tail = none →
      tokenize.go (fuel + 3 * segs.length) stack current (prefixChars segs ++ tail) =
        tokenize.go fuel stack ((prefixTokens segs).reverse ++ current) tail
  | [], _, fuel, current, tail, _ => by simp [prefixChars, prefixTokens]
  | s :: segs, fit, fuel, current, tail, plain => by
    -- The second colon is followed by the next segment, or by the text after the path.
    have next : punctChar (prefixChars segs ++ tail) = none := by
      cases segs with
      | nil => exact plain
      | cons s' more =>
        simp only [prefixChars, List.flatMap_cons, List.append_assoc]
        exact punctChar_ident (fit s' (by simp)) _
    have split : prefixChars (s :: segs) ++ tail = s.toList ++ ':' :: ':' :: (prefixChars segs ++ tail) := by
      simp [prefixChars]
    rw [show fuel + 3 * (s :: segs).length = fuel + 3 * segs.length + 1 + 1 + 1 by simp; omega,
      split, go_ident _ _ _ (fit s List.mem_cons_self) (by simp), go_punct _ _ _ (Or.inl rfl),
      go_punct _ _ _ (Or.inl rfl), next,
      go_prefix stack segs (fun s' inside => fit s' (List.mem_cons_of_mem _ inside)) fuel _ tail plain]
    simp [prefixTokens, punctChar, startsWith, isPunctChar]

/-- The text of `s₁::…::sₙ::last` is the characters of the segments before the last, then the
last. -/
theorem intercalate_concat_toList (segs : List String) (last : String) :
    ("::".intercalate (segs ++ [last])).toList = prefixChars segs ++ last.toList := by
  induction segs with
  | nil => simp [prefixChars]
  | cons s segs ih =>
    rw [List.cons_append, String.intercalate_cons_of_ne_nil (by simp)]
    simp [ih, prefixChars]

/-- The lexer gives the tokens its steps over a whole text leave, when there are no more steps
than characters. -/
theorem tokenize_of_steps {text : String} {tokens : List Token} {k : Nat} (short : k ≤ text.length)
    (steps : ∀ fuel, tokenize.go (fuel + k) [] [] text.toList = tokenize.go fuel [] tokens.reverse []) :
    tokenize text = some tokens := by
  unfold tokenize
  rw [show text.length + 1 = text.length - k + 1 + k by omega, steps, go_nil, List.reverse_reverse]

theorem identFailure?_as : Code.identFailure? "as" = none := by
  unfold Code.identFailure? isIdentStart isIdentContinue
  rw [inRanges_eq_any_toList]
  decide +kernel

/-- The tokens of ` as a` after a named import. -/
def aliasTokens : Option String → List Token
  | none => []
  | some a => [.ident "as" false, .ident a false]

/-- The text of a named import is cut into the tokens of its path, its name and its alias. -/
theorem tokenize_named {segs : List String} {last : String} {aliasName : Option String}
    (fit : ∀ s ∈ segs, Code.identFailure? s = none) (fitLast : Code.identFailure? last = none)
    (fitAlias : ∀ a ∈ aliasName, Code.identFailure? a = none) :
    tokenize (Import.useTree ⟨segs ++ [last], aliasName⟩) =
      some (prefixTokens segs ++ .ident last false :: aliasTokens aliasName) := by
  have path := length_prefixChars fit
  obtain ⟨c, more, chars, -, -⟩ := Code.identChars_of_identFailure? fitLast
  cases aliasName with
  | none =>
    have text :
        (Import.useTree ⟨segs ++ [last], none⟩).toList = prefixChars segs ++ (last.toList ++ []) := by
      rw [List.append_nil, ← intercalate_concat_toList]
      rfl
    refine tokenize_of_steps (k := 3 * segs.length + 1) ?_ fun fuel => ?_
    · rw [← String.length_toList, text, List.append_nil, List.length_append, chars, List.length_cons]
      omega
    · rw [text, Nat.add_comm _ 1, ← Nat.add_assoc, go_prefix _ segs fit _ _ _ (punctChar_ident fitLast _),
        go_ident _ _ _ fitLast (by simp)]
      simp [aliasTokens]
  | some a =>
    obtain ⟨a', more', chars', -, -⟩ := Code.identChars_of_identFailure? (fitAlias a rfl)
    have text : (Import.useTree ⟨segs ++ [last], some a⟩).toList =
        prefixChars segs ++ (last.toList ++ ' ' :: ("as".toList ++ ' ' :: (a.toList ++ []))) := by
      have spaced : " as ".toList = ' ' :: ("as".toList ++ [' ']) := rfl
      show ("::".intercalate (segs ++ [last]) ++ " as " ++ a).toList = _
      simp only [String.toList_append, intercalate_concat_toList, spaced]
      simp
    refine tokenize_of_steps (k := 3 * segs.length + 3) ?_ fun fuel => ?_
    · rw [← String.length_toList, text]
      simp only [List.append_nil, List.length_append, chars, chars', List.length_cons]
      omega
    · rw [text, show fuel + (3 * segs.length + 3) = fuel + 2 + 1 + 3 * segs.length by omega,
        go_prefix _ segs fit _ _ _ (punctChar_ident fitLast _), go_ident _ _ _ fitLast (by simp),
        go_space, go_ident _ _ _ identFailure?_as (by simp), go_space,
        go_ident _ _ _ (fitAlias a rfl) (by simp)]
      simp [aliasTokens]

/-- The text `*` is one punctuation token. -/
theorem tokenize_star : tokenize "*" = some [.punct '*' .alone] := by
  refine tokenize_of_steps (k := 1) (by decide) fun fuel => ?_
  rw [show "*".toList = ['*'] from rfl, go_punct _ _ _ (Or.inr rfl)]
  simp [punctChar, startsWith]

/-- The text of a glob below a path is cut into the tokens of the path, the last segment, two
joint colons and the star. -/
theorem tokenize_glob_below {init : List String} {s : String}
    (fit : ∀ x ∈ init, Code.identFailure? x = none) (fitLast : Code.identFailure? s = none) :
    tokenize ("::".intercalate (init ++ [s, "*"])) =
      some (prefixTokens init ++
        [.ident s false, .punct ':' .joint, .punct ':' .joint, .punct '*' .alone]) := by
  have path := length_prefixChars fit
  obtain ⟨c, more, chars, -, -⟩ := Code.identChars_of_identFailure? fitLast
  have text : ("::".intercalate (init ++ [s, "*"])).toList =
      prefixChars init ++ (s.toList ++ ':' :: ':' :: '*' :: []) := by
    rw [show init ++ [s, "*"] = (init ++ [s]) ++ ["*"] by simp, intercalate_concat_toList]
    simp [prefixChars]
  refine tokenize_of_steps (k := 3 * init.length + 4) ?_ fun fuel => ?_
  · rw [← String.length_toList, text]
    simp only [List.length_append, chars, List.length_cons, List.length_nil]
    omega
  · rw [text, show fuel + (3 * init.length + 4) = fuel + 1 + 1 + 1 + 1 + 3 * init.length by omega,
      go_prefix _ init fit _ _ _ (punctChar_ident fitLast _), go_ident _ _ _ fitLast (by simp),
      go_punct _ _ _ (Or.inl rfl), go_punct _ _ _ (Or.inl rfl), go_punct _ _ _ (Or.inr rfl)]
    simp [punctChar, startsWith, isPunctChar]

/-! ### Reading the tokens of a path -/

open Read

/-- A segment that a `use` path takes as written: an identifier that is no keyword, or one of
the keywords `self`, `super`, `crate` and `try`. -/
def UseSegment (s : String) : Prop :=
  Code.identFailure? s = none ∧ (acceptsAsIdent s false = true ∨ s ∈ ["self", "super", "crate", "try"])

/-- A name that a `use` tree takes after `as`: an identifier that is no keyword, or `_`. -/
def UseAlias (a : String) : Prop :=
  Code.identFailure? a = none ∧ (acceptsAsIdent a false = true ∨ a = "_")

/-- The tree `s₁::…::sₙ::tree`. -/
def UseTree.under : List String → UseTree → UseTree
  | [], tree => tree
  | s :: segs, tree => .path ⟨s, false⟩ (UseTree.under segs tree)

/-- The last node of a named import's tree: its name, renamed or not. -/
def UseTree.leaf (last : String) : Option String → UseTree
  | none => .name ⟨last, false⟩
  | some a => .rename ⟨last, false⟩ ⟨a, false⟩

theorem UseTree.under_append (segs more : List String) (tree : UseTree) :
    UseTree.under (segs ++ more) tree = UseTree.under segs (UseTree.under more tree) := by
  induction segs with
  | nil => rfl
  | cons s segs ih => simp [UseTree.under, ih]

/-- The reader's test at the start of a tree, written out for a segment. -/
theorem UseSegment.peeked {s : String} (segment : UseSegment s) :
    (((acceptsAsIdent s false = true ∨ s = "self") ∨ s = "super") ∨ s = "crate") ∨ s = "try" := by
  simpa [or_assoc] using segment.2

/-- A segment followed by `::` is a path node over the tree that follows. -/
theorem readUseTree_path {s : String} (segment : UseSegment s) {fuel : Nat} {allowRoot : Bool}
    {sp : Spacing} {more : List Token} {lo : Option Delimiter} {t : UseTree} {st : ReadState}
    (after : (readUseTree fuel false).run ⟨more, lo⟩ = .ok (some t, st)) :
    (readUseTree (fuel + 1) allowRoot).run
        ⟨.ident s false :: .punct ':' .joint :: .punct ':' sp :: more, lo⟩ =
      .ok (some (.path ⟨s, false⟩ t), st) := by
  rw [readUseTree]
  simp only [peekIdent, peekIdentAt, dropTrees, tokenIsIdent, peekKeyword, peekKeywordAt, tokenIsKeyword,
    Bool.or_eq_true, anyIdent, skip, List.drop_one, bind_pure_comp, peekPunct, tokensStartPunct,
    String.reduceToList, Char.isValue, skipN, map_bind, bind_assoc, bind_map_left, StateT.run_bind,
    StateT.run_get, pure_bind, StateT.run_pure, beq_iff_eq, segment.peeked, reduceIte, StateT.run_map,
    StateT.run_modify, List.tail_cons, map_pure, tokensStartPunct.go, BEq.rfl, Bool.and_self,
    List.drop_succ_cons, List.drop_zero, after]
  rfl

/-- A last segment is a name. -/
theorem readUseTree_name {s : String} (segment : UseSegment s) (fuel : Nat) (lo : Option Delimiter) :
    (readUseTree (fuel + 1) false).run ⟨[.ident s false], lo⟩ =
      .ok (some (.name ⟨s, false⟩), ⟨[], lo⟩) := by
  rw [readUseTree]
  simp only [peekIdent, peekIdentAt, dropTrees, tokenIsIdent, peekKeyword, peekKeywordAt, tokenIsKeyword,
    Bool.or_eq_true, anyIdent, skip, List.drop_one, bind_pure_comp, peekPunct, tokensStartPunct,
    String.reduceToList, Char.isValue, skipN, map_bind, bind_assoc, bind_map_left, StateT.run_bind,
    StateT.run_get, pure_bind, StateT.run_pure, beq_iff_eq, segment.peeked, reduceIte, StateT.run_map,
    StateT.run_modify, List.tail_cons, map_pure, tokensStartPunct.go, optKeyword, Bool.false_eq_true]
  rfl

/-- A last segment with `as` and a name is a rename. -/
theorem readUseTree_rename {s a : String} (segment : UseSegment s) (renamed : UseAlias a) (fuel : Nat)
    (lo : Option Delimiter) :
    (readUseTree (fuel + 1) false).run ⟨[.ident s false, .ident "as" false, .ident a false], lo⟩ =
      .ok (some (.rename ⟨s, false⟩ ⟨a, false⟩), ⟨[], lo⟩) := by
  rw [readUseTree]
  rcases renamed.2 with plain | rfl
  · simp only [peekIdent, peekIdentAt, dropTrees, tokenIsIdent, peekKeyword, peekKeywordAt,
      tokenIsKeyword, Bool.or_eq_true, anyIdent, skip, List.drop_one, bind_pure_comp, peekPunct,
      tokensStartPunct, String.reduceToList, Char.isValue, skipN, optKeyword, bind_assoc, map_bind,
      bind_map_left, StateT.run_bind, StateT.run_get, pure_bind, StateT.run_pure, beq_iff_eq,
      segment.peeked, reduceIte, StateT.run_map, StateT.run_modify, List.tail_cons, map_pure,
      tokensStartPunct.go, Bool.false_eq_true, BEq.rfl, ident, plain]
    rfl
  · have keyword : acceptsAsIdent "_" false = false := by decide
    simp only [peekIdent, peekIdentAt, dropTrees, tokenIsIdent, peekKeyword, peekKeywordAt,
      tokenIsKeyword, Bool.or_eq_true, anyIdent, skip, List.drop_one, bind_pure_comp, peekPunct,
      tokensStartPunct, String.reduceToList, Char.isValue, skipN, optKeyword, bind_assoc, map_bind,
      bind_map_left, StateT.run_bind, StateT.run_get, pure_bind, StateT.run_pure, beq_iff_eq,
      segment.peeked, reduceIte, StateT.run_map, StateT.run_modify, List.tail_cons, map_pure,
      tokensStartPunct.go, Bool.false_eq_true, BEq.rfl, keyword]
    rfl

/-- A star is a glob. -/
theorem readUseTree_glob (fuel : Nat) (allowRoot : Bool) (lo : Option Delimiter) :
    (readUseTree (fuel + 1) allowRoot).run ⟨[.punct '*' .alone], lo⟩ = .ok (some .glob, ⟨[], lo⟩) := by
  rw [readUseTree]
  simp only [peekIdent, peekIdentAt, dropTrees, tokenIsIdent, peekKeyword, peekKeywordAt,
    tokenIsKeyword, Bool.or_eq_true, skipN, bind_pure_comp, bind_assoc, optPunct, tokensStartPunct,
    String.reduceToList, Char.isValue, StateT.run_bind, StateT.run_get, pure_bind, StateT.run_pure,
    Bool.false_eq_true, false_or, reduceIte, tokensStartPunct.go, BEq.rfl, StateT.run_map,
    StateT.run_modify, map_pure]
  rfl

/-- `s₁::…::sₙ::` before the tokens of a tree reads as that tree below the segments. -/
theorem readUseTree_under {lo : Option Delimiter} :
    ∀ (segs : List String), (∀ s ∈ segs, UseSegment s) →
    ∀ (fuel : Nat) (more : List Token) (t : UseTree) (st : ReadState),
      (readUseTree fuel false).run ⟨more, lo⟩ = .ok (some t, st) →
      (readUseTree (fuel + segs.length) false).run ⟨prefixTokens segs ++ more, lo⟩ =
        .ok (some (UseTree.under segs t), st)
  | [], _, fuel, more, t, st, leaf => by simpa [prefixTokens, UseTree.under] using leaf
  | s :: segs, path, fuel, more, t, st, leaf => by
    have below := readUseTree_under segs (fun x inside => path x (List.mem_cons_of_mem _ inside))
      fuel more t st leaf
    have split : prefixTokens (s :: segs) ++ more =
        .ident s false :: .punct ':' .joint :: .punct ':' .alone :: (prefixTokens segs ++ more) := by
      simp [prefixTokens]
    rw [show fuel + (s :: segs).length = fuel + segs.length + 1 by simp; omega, split]
    exact readUseTree_path (path s List.mem_cons_self) below

theorem length_prefixTokens (segs : List String) : (prefixTokens segs).length = 3 * segs.length := by
  induction segs with
  | nil => rfl
  | cons s segs ih =>
    simp only [prefixTokens, List.flatMap_cons, List.length_append] at ih ⊢
    simp [ih]
    omega

theorem length_le_tokenCount : ∀ tokens : List Token, tokens.length ≤ tokenCount tokens
  | [] => by simp [tokenCount]
  | t :: more => by
    have := length_le_tokenCount more
    cases t <;> simp [tokenCount] <;> omega

/-- A text whose tokens read as one tree, given a little fuel, reads as that tree. -/
theorem ofText?_of_read {text : String} {tokens : List Token} {tree : UseTree} {n : Nat}
    (lexed : tokenize text = some tokens) (few : n ≤ tokens.length + 1)
    (read : ∀ fuel, (readUseTree (fuel + n) false).run ⟨tokens, none⟩ = .ok (some tree, ⟨[], none⟩)) :
    UseTree.ofText? text = some tree := by
  have fuel : readingFuel tokens = readingFuel tokens - n + n := by
    have := length_le_tokenCount tokens
    unfold readingFuel
    omega
  rw [UseTree.ofText?, lexed]
  simp only [runAll]
  rw [fuel, read]
  rfl

/-- The text of a named import reads as its segments over its name, renamed or not. -/
theorem ofText?_named {segs : List String} {last : String} {aliasName : Option String}
    (path : ∀ s ∈ segs, UseSegment s) (named : UseSegment last)
    (renamed : ∀ a ∈ aliasName, UseAlias a) :
    UseTree.ofText? (Import.useTree ⟨segs ++ [last], aliasName⟩) =
      some (UseTree.under segs (UseTree.leaf last aliasName)) := by
  have lexed := tokenize_named (fun s inside => (path s inside).1) named.1
    (fun a inside => (renamed a inside).1)
  refine ofText?_of_read lexed (n := segs.length + 1) (by simp [length_prefixTokens]; omega)
    fun fuel => ?_
  rw [show fuel + (segs.length + 1) = fuel + 1 + segs.length by omega]
  refine readUseTree_under segs path (fuel + 1) _ _ _ ?_
  cases aliasName with
  | none => exact readUseTree_name named fuel none
  | some a => exact readUseTree_rename named (renamed a rfl) fuel none

/-- The text `s₁::…::sₙ::*` reads as a glob below the segments. -/
theorem ofText?_glob {segs : List String} (path : ∀ s ∈ segs, UseSegment s) :
    UseTree.ofText? ("::".intercalate (segs ++ ["*"])) = some (UseTree.under segs .glob) := by
  rcases List.eq_nil_or_concat segs with rfl | ⟨init, s, rfl⟩
  · exact ofText?_of_read tokenize_star (n := 1) (by simp) fun fuel => readUseTree_glob fuel false none
  · have below : ∀ x ∈ init, UseSegment x := fun x inside => path x (by simp [inside])
    have last : UseSegment s := path s (by simp)
    have lexed := tokenize_glob_below (fun x inside => (below x inside).1) last.1
    rw [List.concat_eq_append, List.append_assoc, List.singleton_append]
    refine ofText?_of_read lexed (n := init.length + 2) (by simp [length_prefixTokens]; omega)
      fun fuel => ?_
    rw [UseTree.under_append, show fuel + (init.length + 2) = fuel + 1 + 1 + init.length by omega]
    exact readUseTree_under init below (fuel + 1 + 1) _ _ _
      (readUseTree_path last (readUseTree_glob fuel false none))

end Metamodel.Source

namespace Metamodel

open Source

/-! ### Paths made absolute -/

/-- A path that starts at the crate's root segment, or at a segment from which no path is read
relative to its module (`self`, `super`, `crate`). -/
def RootedAt (root : String) (path : List String) : Prop :=
  ∀ first ∈ path.head?, first = root ∨ (first ≠ "self" ∧ first ≠ "super" ∧ first ≠ "crate")

theorem RootedAt.of_append {root : String} {path more : List String}
    (rooted : RootedAt root (path ++ more)) : RootedAt root path := by
  intro first head
  cases path with
  | nil => cases head
  | cons x rest => exact rooted first head

theorem RootedAt.append_star {root : String} {path : List String} (rooted : RootedAt root path) :
    RootedAt root (path ++ ["*"]) := by
  intro first head
  cases path with
  | nil =>
    cases head
    exact Or.inr (by decide)
  | cons x rest => exact rooted first head

/-- Leading `super` segments never take the base's first segment. -/
theorem climbSuper_head (base rest : List String) {root : String} (rooted : base.head? = some root) :
    (climbSuper base rest).1.head? = some root := by
  fun_induction climbSuper base rest with
  | case1 base rest ih =>
    apply ih
    split_ifs with longer
    · rcases base with _ | ⟨a, _ | ⟨b, more⟩⟩
      · cases rooted
      · simp at longer
      · simpa using rooted
    · exact rooted
  | case2 base rest _ => exact rooted

/-- A path made absolute against a module starts at the module's root segment, or at a segment
from which no path is read relative to its module. -/
theorem rootedAt_absolutizePath {modulePath root : String}
    (crate : (Text.pieces "::" modulePath).head? = some root) (segments : List String) :
    RootedAt root (absolutizePath segments modulePath) := by
  unfold absolutizePath
  split
  · simp [RootedAt, List.head?_append, crate]
  · simp [RootedAt, List.head?_append, climbSuper_head _ _ crate]
  · cases pieces : Text.pieces "::" modulePath with
    | nil => rw [pieces] at crate; cases crate
    | cons r more =>
      rw [pieces] at crate
      cases crate
      simp [RootedAt]
  · next notSelf notSuper notCrate =>
    intro first head
    cases segments with
    | nil => cases head
    | cons x rest =>
      cases head
      exact Or.inr ⟨fun same => notSelf rest (by rw [same]), fun same => notSuper rest (by rw [same]),
        fun same => notCrate rest (by rw [same])⟩

/-- A path that starts at no `self`, `super` or `crate` is absolute already. -/
theorem absolutizePath_other {x : String} (rest : List String) (modulePath : String)
    (notSelf : x ≠ "self") (notSuper : x ≠ "super") (notCrate : x ≠ "crate") :
    absolutizePath (x :: rest) modulePath = x :: rest := by
  unfold absolutizePath
  split <;> simp_all

/-- A path rooted at a crate's root segment is absolute in every module of that crate. -/
theorem absolutizePath_of_rootedAt {here root : String} {path : List String}
    (absolute : root ≠ "self" ∧ root ≠ "super") (crate : (Text.pieces "::" here).head? = some root)
    (rooted : RootedAt root path) : absolutizePath path here = path := by
  cases path with
  | nil => rfl
  | cons first rest =>
    rcases rooted first rfl with rfl | ⟨notSelf, notSuper, notCrate⟩
    · by_cases atCrate : first = "crate"
      · -- A path from `crate` goes back to the root segment of `here`, which is `crate`.
        subst atCrate
        cases pieces : Text.pieces "::" here with
        | nil => rw [pieces] at crate; cases crate
        | cons r more =>
          rw [pieces] at crate
          cases crate
          simp [absolutizePath, pieces]
      · exact absolutizePath_other rest here absolute.1 absolute.2 atCrate
    · exact absolutizePath_other rest here notSelf notSuper notCrate

end Metamodel

namespace Metamodel.Scan

open Source

/-! ### Imports a use tree binds -/

theorem useImports_under (modulePath : String) (pre segs : List String) (t : UseTree) :
    useImports modulePath pre (UseTree.under segs t) = useImports modulePath (pre ++ segs) t := by
  induction segs generalizing pre with
  | nil => simp [UseTree.under]
  | cons s segs ih =>
    rw [UseTree.under, useImports, ih]
    simp

theorem joinedPath_of_ne_self (pre : List String) {s : String} (notSelf : s ≠ "self") :
    joinedPath pre ⟨s, false⟩ = pre ++ [s] := by
  simp [joinedPath, Ident.text, Token.identText, notSelf]

variable {modulePath root : String}

mutual

/-- Every import a use tree binds is made absolute against the module, so it starts at the
module's root segment or at a segment from which no path is read relative to its module. -/
theorem useImports_rootedAt (crate : (Text.pieces "::" modulePath).head? = some root) :
    ∀ (t : UseTree) (pre : List String), ∀ i ∈ useImports modulePath pre t, RootedAt root i.path
  | .path _ t, pre => by
    rw [useImports]
    exact useImports_rootedAt crate t _
  | .name _, pre => by
    simp only [useImports, List.mem_singleton]
    rintro i rfl
    exact rootedAt_absolutizePath crate _
  | .rename _ _, pre => by
    simp only [useImports, List.mem_singleton]
    rintro i rfl
    exact rootedAt_absolutizePath crate _
  | .glob, pre => by
    simp only [useImports, List.mem_singleton]
    rintro i rfl
    exact (rootedAt_absolutizePath crate _).append_star
  | .group items, pre => by
    rw [useImports]
    exact useImportsList_rootedAt crate items pre

theorem useImportsList_rootedAt (crate : (Text.pieces "::" modulePath).head? = some root) :
    ∀ (items : List UseTree) (pre : List String), ∀ i ∈ useImportsList modulePath pre items,
      RootedAt root i.path
  | [], _ => by simp [useImportsList]
  | t :: more, pre => by
    rw [useImportsList]
    intro i inside
    rcases List.mem_append.mp inside with first | later
    · exact useImports_rootedAt crate t pre i first
    · exact useImportsList_rootedAt crate more pre i later

end

theorem importsOf_rootedAt (crate : (Text.pieces "::" modulePath).head? = some root) (items : List Item) :
    ∀ i ∈ importsOf modulePath items, RootedAt root i.path := by
  intro i inside
  obtain ⟨item, -, found⟩ := List.mem_flatMap.mp inside
  cases item with
  | use tree => exact useImports_rootedAt crate tree [] i found
  | _ => cases found

end Metamodel.Scan

namespace Metamodel.Text

/-- Cutting at `::` text that starts with a piece free of `:` followed by `::` or the end gives
that piece first. -/
theorem cutChars_head (tail : List Char) (ends : tail = [] ∨ ∃ more, tail = ':' :: ':' :: more) :
    ∀ (piece current : List Char), ':' ∉ piece →
      (cutChars ':' [':'] current (piece ++ tail)).head? = some (current.reverse ++ piece)
  | [], current, _ => by
    rcases ends with rfl | ⟨more, rfl⟩
    · simp [cutChars]
    · rw [List.nil_append, cutChars]
      simp
  | c :: piece, current, free => by
    have other : c ≠ ':' := fun same => free (same ▸ List.mem_cons_self)
    rw [List.cons_append, cutChars, if_neg (by simp [Ne.symm other])]
    rw [cutChars_head tail ends piece (c :: current) (fun inside => free (List.mem_cons_of_mem _ inside))]
    simp

end Metamodel.Text

namespace Metamodel.Scan

open Source

/-- A module path whose text up to its first `::` is `root`, free of `:`. -/
def ModuleRoot (root modulePath : String) : Prop :=
  ':' ∉ root.toList ∧
    ∃ tail, modulePath.toList = root.toList ++ tail ∧ (tail = [] ∨ ∃ more, tail = ':' :: ':' :: more)

theorem ModuleRoot.nested {root modulePath : String} (rooted : ModuleRoot root modulePath)
    (name : String) : ModuleRoot root (modulePath ++ "::" ++ name) := by
  obtain ⟨free, tail, split, ends⟩ := rooted
  refine ⟨free, tail ++ ':' :: ':' :: name.toList, by simp [split], Or.inr ?_⟩
  rcases ends with rfl | ⟨more, rfl⟩
  · exact ⟨name.toList, rfl⟩
  · exact ⟨more ++ ':' :: ':' :: name.toList, rfl⟩

theorem ModuleRoot.head_pieces {root modulePath : String} (rooted : ModuleRoot root modulePath) :
    (Text.pieces "::" modulePath).head? = some root := by
  obtain ⟨free, tail, split, ends⟩ := rooted
  have cut := Text.cutChars_head tail ends root.toList [] free
  rw [← split] at cut
  simp only [Text.pieces, show "::".toList = [':', ':'] from rfl, List.head?_map, cut]
  simp

/-- A module path written with a first segment that is an identifier has that segment as its
root. -/
theorem moduleRoot_of_intercalate {root : String} (inner : List String)
    (named : Code.identFailure? root = none) : ModuleRoot root ("::".intercalate (root :: inner)) := by
  obtain ⟨c, more, chars, start, cont⟩ := Code.identChars_of_identFailure? named
  have free : ':' ∉ root.toList := by
    rw [chars]
    rintro (_ | ⟨_, inside⟩)
    · have code := Text.isIdentStart_code start
      simp at code
    · have code := Text.isIdentContinue_code (cont ':' inside)
      simp at code
  cases inner with
  | nil => exact ⟨free, [], by simp, Or.inl rfl⟩
  | cons s more =>
    refine ⟨free, ':' :: ':' :: ("::".intercalate (s :: more)).toList, ?_, Or.inr ⟨_, rfl⟩⟩
    rw [String.intercalate_cons_cons]
    simp

theorem classOf_imports {kind : ClassKind} {modulePath sourceFile : String} {imports : List Import}
    {attrs : List Attribute} {ident : Ident} {generics : Generics} {fields : Fields} {c : ClassDecl}
    (made : (classOf kind modulePath sourceFile imports attrs ident generics fields).1 = some c) :
    c.imports = imports := by
  unfold classOf at made
  split at made
  · cases made
    rfl
  · cases made

/-- Every import of a class starts at `root`, or at a segment from which no path is read relative
to its module. -/
def ImportsRootedAt (root : String) (c : ClassDecl) : Prop := ∀ i ∈ c.imports, RootedAt root i.path

mutual

/-- Collecting the items of a module level below a module path with root segment `root` records
only imports rooted at `root`. -/
theorem rootedAt_collectEach (root sourceFile : String) :
    ∀ (modulePath : String) (imports : List Import) (items : List Item) (out : ScanOutput),
      ModuleRoot root modulePath → (∀ i ∈ imports, RootedAt root i.path) →
      out.All (ImportsRootedAt root) →
      (collectEach sourceFile modulePath imports items out).All (ImportsRootedAt root)
  | _, _, [], _, _, _, all => all
  | modulePath, imports, item :: more, out, named, rooted, all =>
    rootedAt_collectEach root sourceFile modulePath imports more _ named rooted
      (rootedAt_collectOne root sourceFile modulePath imports item out named rooted all)

/-- Collecting one item keeps every recorded import rooted: a struct's class gets the imports of
its level, an inline module's items get the imports of theirs, made absolute against a module path
with the same root. -/
theorem rootedAt_collectOne (root sourceFile : String) :
    ∀ (modulePath : String) (imports : List Import) (item : Item) (out : ScanOutput),
      ModuleRoot root modulePath → (∀ i ∈ imports, RootedAt root i.path) →
      out.All (ImportsRootedAt root) →
      (collectOne sourceFile modulePath imports item out).All (ImportsRootedAt root)
  | _, _, .struct attrs ident generics fields, out, _, rooted, all => by
    unfold collectOne
    split
    · exact all.add fun c made i inside => rooted i (classOf_imports made ▸ inside)
    · exact all
  | modulePath, _, .mod attrs ident (some items), out, named, _, all => by
    unfold collectOne
    split
    · exact all
    · have nested := named.nested ident.name
      exact rootedAt_collectEach root sourceFile _ _ items out nested
        (importsOf_rootedAt nested.head_pieces items) all
  | _, _, .mod _ _ none, _, _, _, all => all
  | _, _, .use _, _, _, _, all => all
  | _, _, .other, _, _, _, all => all

end

/-- Every import the scanner records, for a module path with root segment `root`, is rooted at
`root`. -/
theorem rootedAt_scanSource {root modulePath : String} (named : ModuleRoot root modulePath)
    (content sourceFile : String) :
    (scanSource content modulePath sourceFile {}).All (ImportsRootedAt root) := by
  have none : ({} : ScanOutput).All (ImportsRootedAt root) := fun c inside => by cases inside
  unfold scanSource
  split
  · exact none
  split
  · exact fun c inside => by cases inside
  · exact rootedAt_collectEach root sourceFile _ _ _ _ named (importsOf_rootedAt named.head_pieces _) none

end Metamodel.Scan

namespace Metamodel

open Source

/-! ### Imports spelled back -/

/-- An import that its `use` text can spell: a path of segments a `use` path takes as written,
ending in a name other than `self` (with an alias that `as` takes, or none), or in a glob. -/
inductive Import.Spelled : Import → Prop
  | named {segs : List String} {last : String} {aliasName : Option String}
      (path : ∀ s ∈ segs, UseSegment s) (named : UseSegment last) (notSelf : last ≠ "self")
      (renamed : ∀ a ∈ aliasName, UseAlias a) : Import.Spelled ⟨segs ++ [last], aliasName⟩
  | glob {segs : List String} (path : ∀ s ∈ segs, UseSegment s) : Import.Spelled ⟨segs ++ ["*"], none⟩

/-- A spelled import rooted at a crate's root segment reads back from its text as itself in
every module of that crate. -/
theorem Import.Spelled.reads_back {i : Import} (spelled : i.Spelled) {root here : String}
    (absolute : root ≠ "self" ∧ root ≠ "super") (crate : (Text.pieces "::" here).head? = some root)
    (rooted : RootedAt root i.path) :
    ∃ tree, UseTree.ofText? i.useTree = some tree ∧ Scan.useImports here [] tree = [i] := by
  cases spelled with
  | @named segs last aliasName path named notSelf renamed =>
    refine ⟨_, ofText?_named path named renamed, ?_⟩
    rw [Scan.useImports_under, List.nil_append]
    cases aliasName <;>
      simp [UseTree.leaf, Scan.useImports, Scan.joinedPath_of_ne_self _ notSelf,
        absolutizePath_of_rootedAt absolute crate rooted]
  | glob path =>
    refine ⟨_, ofText?_glob path, ?_⟩
    rw [Scan.useImports_under, List.nil_append]
    simp [Scan.useImports, absolutizePath_of_rootedAt absolute crate rooted.of_append]

/-- The glob of a module path written with segments a `use` path takes reads as a glob below
them. -/
theorem ofText?_module_glob {segs : List String} (nonempty : segs ≠ [])
    (path : ∀ s ∈ segs, UseSegment s) :
    UseTree.ofText? ("::".intercalate segs ++ "::*") = some (UseTree.under segs .glob) := by
  have joined : "::".intercalate segs ++ "::*" = "::".intercalate (segs ++ ["*"]) := by
    rw [String.intercalate_append_of_ne_nil nonempty (by simp), String.intercalate_singleton,
      String.append_assoc]
    rfl
  rw [joined]
  exact ofText?_glob path

/-- The imports the scanner records read back from the `use` text a unit writes for them.

For a module path whose first segment is an identifier other than `self` and `super`, each
recorded import of a scanned class that its text can spell reads back from that text as
itself, in every module of the same crate (the same first segment); and the glob `m::*` of a
class's module path `m`, written with segments a `use` path takes, reads as a glob below those
segments. -/
theorem recorded_imports_read_back {content modulePath sourceFile root : String}
    {inner : List String} (written : modulePath = "::".intercalate (root :: inner))
    (named : Code.identFailure? root = none) (absolute : root ≠ "self" ∧ root ≠ "super")
    {c : ClassDecl} (scanned : c ∈ (Scan.scanSource content modulePath sourceFile {}).classes) :
    (∀ i ∈ c.imports, i.Spelled → ∀ here, (Text.pieces "::" here).head? = some root →
      ∃ tree, UseTree.ofText? i.useTree = some tree ∧ Scan.useImports here [] tree = [i]) ∧
    ∀ segs, c.qualifiedName.modulePath = "::".intercalate segs → segs ≠ [] →
      (∀ s ∈ segs, UseSegment s) →
      UseTree.ofText? (c.qualifiedName.modulePath ++ "::*") = some (UseTree.under segs .glob) := by
  have rootedModule : Scan.ModuleRoot root modulePath := written ▸ Scan.moduleRoot_of_intercalate inner named
  refine ⟨fun i recorded spelled here crate => ?_, fun segs module nonempty path => ?_⟩
  · have rooted := Scan.rootedAt_scanSource rootedModule content sourceFile c scanned i recorded
    exact spelled.reads_back absolute crate rooted
  · rw [module]
    exact ofText?_module_glob nonempty path

/-- An entity in an inner module that imports a type of another module of its crate. -/
def billingSource : String :=
  "use crate::money::Money;\n\n#[derive(Entity)]\npub struct Invoice \x7b\n    #[fluent(id)]\n" ++
    "    pub id: i64,\n    pub total: Money,\n\x7d\n"

theorem billing_import_reads_back :
    ∃ c ∈ (Scan.scanSource billingSource "crate::billing" "billing.rs" {}).classes,
      ∃ i ∈ c.imports, i.Spelled ∧
        ∃ tree, UseTree.ofText? i.useTree = some tree ∧ Scan.useImports "crate::report" [] tree = [i] := by
  have scanned : (Scan.scanSource billingSource "crate::billing" "billing.rs" {}).classes.map (·.imports) =
      [[⟨["crate", "money", "Money"], none⟩]] := by
    rw [Scan.scanSource, Source.readSourceFile, Source.tokensOf, ← Source.tokenizeByLists.2]
    decide +kernel
  obtain ⟨c, listed, recorded⟩ :
      ∃ c ∈ (Scan.scanSource billingSource "crate::billing" "billing.rs" {}).classes,
        c.imports = [⟨["crate", "money", "Money"], none⟩] := by
    cases classes : (Scan.scanSource billingSource "crate::billing" "billing.rs" {}).classes with
    | nil =>
      rw [classes] at scanned
      cases scanned
    | cons c more =>
      rw [classes, List.map_cons] at scanned
      exact ⟨c, List.mem_cons_self, (List.cons.inj scanned).1⟩
  have fit : ∀ s ∈ ["crate", "money", "Money"], Code.identFailure? s = none := by
    unfold Code.identFailure? Text.isIdentStart Text.isIdentContinue
    rw [Text.inRanges_eq_any_toList]
    decide +kernel
  have path : ∀ s ∈ ["crate", "money"], UseSegment s := by
    intro s inside
    simp only [List.mem_cons, List.not_mem_nil, or_false] at inside
    rcases inside with rfl | rfl
    · exact ⟨fit "crate" (by simp), by decide⟩
    · exact ⟨fit "money" (by simp), by decide⟩
  have spelled : Import.Spelled ⟨["crate", "money", "Money"], none⟩ :=
    @Import.Spelled.named ["crate", "money"] "Money" none path ⟨fit "Money" (by simp), by decide⟩
      (by decide)
      (fun a inside => by cases inside)
  have report : (Text.pieces "::" "crate::report").head? = some "crate" := by
    have := (Scan.moduleRoot_of_intercalate ["report"] (fit "crate" (by simp))).head_pieces
    rwa [show "::".intercalate ["crate", "report"] = "crate::report" by decide] at this
  have mem : (⟨["crate", "money", "Money"], none⟩ : Import) ∈ c.imports := by
    rw [recorded]
    exact List.mem_singleton_self _
  obtain ⟨tree, read, flat⟩ := (recorded_imports_read_back
    (show "crate::billing" = "::".intercalate ["crate", "billing"] by decide)
    (fit "crate" (by simp)) (by decide) listed).1 _ mem spelled "crate::report" report
  exact ⟨c, listed, _, mem, spelled, tree, read, flat⟩

end Metamodel
