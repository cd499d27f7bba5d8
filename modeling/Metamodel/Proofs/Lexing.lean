import Mathlib.Tactic.SplitIfs
import Metamodel.Source.File
import Metamodel.Text.Split

/-!
What the tokens of a source file are made of.

Every reading step of the lexer gives back a suffix of what it was given: identifiers,
literals, punctuation, blanks, comments, doc comments and the preamble are all cut from the
front of the text. So every identifier in the token tree of a file is written in the file,
except the `doc` of the attribute that a doc comment becomes. A file that mentions one of its
identifiers in an attribute thus contains that identifier's name as text.
-/

namespace Metamodel.Source

theorem identBody_parts {cs name rest : List Char} (found : identBody cs = some (name, rest)) :
    name <+: cs ∧ rest <:+ cs := by
  unfold identBody at found
  split at found
  · next c more =>
    split at found
    · cases found
      exact ⟨List.cons_prefix_cons.mpr ⟨rfl, List.takeWhile_prefix _⟩,
        (List.drop_suffix _ _).trans (List.suffix_cons c more)⟩
    · cases found
  · cases found

theorem literalSuffix_suffix (cs : List Char) : literalSuffix cs <:+ cs := by
  unfold literalSuffix
  split
  · next name rest found => exact (identBody_parts found).2
  · exact List.suffix_refl cs

theorem hexEscape_suffix {bytes : Bool} {cs r : List Char} (found : hexEscape bytes cs = some r) :
    r <:+ cs := by
  unfold hexEscape at found
  split at found
  · split_ifs at found <;> cases found <;> exact List.suffix_append [_, _] _
  · cases found

theorem unicodeEscape_suffix {cs r : List Char} (found : unicodeEscape cs = some r) : r <:+ cs := by
  unfold unicodeEscape at found
  split at found
  · next rest =>
    dsimp only at found
    split at found
    · next b body more after closing =>
      have : r <:+ rest := by
        split_ifs at found
        cases found
        exact (List.suffix_cons _ _).trans (closing ▸ List.drop_suffix _ rest)
      exact this.trans (List.suffix_cons _ _)
    · cases found
  · cases found

theorem quotedBody_suffix {bytes cstr : Bool} {fuel : Nat} {cs r : List Char}
    (found : quotedBody bytes cstr fuel cs = some r) : r <:+ cs := by
  fun_induction quotedBody bytes cstr fuel cs
  case case3 rest =>
    cases found
    exact List.suffix_cons _ _
  case case4 rest ih => exact (ih found).trans (List.suffix_append [_, _] _)
  case case6 rest after escaped ih =>
    exact (ih found).trans ((hexEscape_suffix escaped).trans (List.suffix_append [_, _] _))
  case case9 rest _ after escaped ih =>
    exact (ih found).trans ((unicodeEscape_suffix escaped).trans (List.suffix_append [_, _] _))
  case case11 rest ih => exact (ih found).trans ((List.dropWhile_suffix _).trans (List.suffix_append [_, _] _))
  case case12 rest ih =>
    exact (ih found).trans ((List.dropWhile_suffix _).trans (List.suffix_append [_, _, _] _))
  case case13 c rest _ _ _ _ _ ih => exact (ih found).trans (List.suffix_append [_, _] _)
  case case18 c rest _ _ _ _ _ ih => exact (ih found).trans (List.suffix_cons _ _)
  all_goals cases found


theorem rawBody_scan_suffix {bytes : Bool} {closing : List Char} {fuel : Nat} {rest r : List Char}
    (found : rawBody.scan bytes closing fuel rest = some r) : r <:+ rest := by
  fun_induction rawBody.scan bytes closing fuel rest
  case case3 c more _ =>
    cases found
    exact List.drop_suffix _ _
  case case6 c more _ _ _ ih => exact (ih found).trans (List.suffix_cons c more)
  all_goals cases found

theorem rawBody_suffix {bytes : Bool} {cs r : List Char} (found : rawBody bytes cs = some r) : r <:+ cs := by
  unfold rawBody at found
  dsimp only at found
  split at found
  · next body opened =>
    split_ifs at found
    exact (rawBody_scan_suffix found).trans ((List.suffix_cons _ _).trans (opened ▸ List.drop_suffix _ cs))
  · cases found

theorem charBody_suffix {bytes : Bool} {cs r : List Char} (found : charBody bytes cs = some r) :
    r <:+ cs := by
  unfold charBody at found
  dsimp only at found
  split at found
  · next _ rest quoted =>
    obtain rfl : rest = r := Option.some.inj found
    have : '\'' :: rest <:+ cs := by
      split at quoted
      · next more =>
        split at quoted
        · exact (hexEscape_suffix quoted).trans (List.suffix_append [_, _] _)
        · split_ifs at quoted
          exact (unicodeEscape_suffix quoted).trans (List.suffix_append [_, _] _)
        · split_ifs at quoted
          cases quoted
          exact List.suffix_append [_, _] _
        · cases quoted
      · split_ifs at quoted
        cases quoted
        exact List.suffix_cons _ _
      · cases quoted
    exact (List.suffix_cons _ _).trans this
  · cases found

theorem intDigits_go_suffix {base : Nat} {empty : Bool} {cs rest : List Char} {e : Bool}
    (found : intDigits.go base empty cs = some (rest, e)) : rest <:+ cs := by
  fun_induction intDigits.go base empty cs <;> simp_all [List.suffix_cons_iff]

theorem intDigits_suffix {cs r : List Char} (found : intDigits cs = some r) : r <:+ cs := by
  unfold intDigits at found
  -- The digits are read after a base prefix, or from the start.
  have digits : ∀ {base : Nat} {body : List Char}, intDigits.go base true body = some (r, false) →
      body <:+ cs → r <:+ cs := fun read inside => (intDigits_go_suffix read).trans inside
  split_ifs at found <;> dsimp only at found <;> split at found <;> cases found
  · exact digits ‹_› (List.drop_suffix 2 cs)
  · exact digits ‹_› (List.drop_suffix 2 cs)
  · exact digits ‹_› (List.drop_suffix 2 cs)
  · exact digits ‹_› (List.suffix_refl cs)


theorem floatMantissa_suffix {fuel : Nat} {hasDot : Bool} {cs : List Char} {rest : List Char} {dotted : Bool}
    {mark : Option (List Char × List Char)} (found : floatMantissa fuel hasDot cs = some (rest, dotted, mark)) :
    rest <:+ cs ∧ ∀ atMark afterMark, mark = some (atMark, afterMark) → atMark <:+ cs ∧ afterMark <:+ cs := by
  fun_induction floatMantissa fuel hasDot cs <;> grind [List.suffix_cons, List.IsSuffix.trans, List.suffix_refl]

theorem floatExponent_suffix {fallback : Option (List Char)} {fuel : Nat} {hasSign hasValue : Bool}
    {cs r : List Char} (found : floatExponent fallback fuel hasSign hasValue cs = some r) :
    r <:+ cs ∨ fallback = some r := by
  fun_induction floatExponent fallback fuel hasSign hasValue cs <;> grind [List.suffix_cons, List.IsSuffix.trans, List.suffix_refl]


theorem floatDigits_suffix {cs r : List Char} (found : floatDigits cs = some r) : r <:+ cs := by
  unfold floatDigits at found
  split at found
  · next first more =>
    split_ifs at found
    split at found
    · cases found
    · next rest dotted mark mantissa =>
      obtain ⟨restInside, markInside⟩ := floatMantissa_suffix mantissa
      have inside : r <:+ more := by
        split at found
        · split_ifs at found
          exact Option.some.inj found ▸ restInside
        · next _ atMark afterMark =>
          obtain ⟨atInside, afterInside⟩ := markInside atMark afterMark rfl
          rcases floatExponent_suffix found with exponent | fallback
          · exact exponent.trans afterInside
          · split_ifs at fallback
            exact Option.some.inj fallback ▸ atInside
      exact inside.trans (List.suffix_cons first more)
  · cases found

theorem wordBreak_eq {cs r : List Char} (found : wordBreak cs = some r) : r = cs := by
  unfold wordBreak at found
  split at found
  · split_ifs at found
    exact (Option.some.inj found).symm
  · exact (Option.some.inj found).symm

theorem map_literalSuffix {body : Option (List Char)} {after : List Char}
    (found : body.map literalSuffix = some after) : ∃ bodyEnd, body = some bodyEnd ∧ after <:+ bodyEnd := by
  obtain ⟨bodyEnd, rfl, rfl⟩ := Option.map_eq_some_iff.mp found
  exact ⟨bodyEnd, rfl, literalSuffix_suffix bodyEnd⟩

/-- After the digits of a number, a suffix written as an identifier, which nothing may follow
directly. -/
theorem numberEnd_suffix {digits after : List Char}
    (found : (match digits with
      | d :: _ =>
        if Text.isIdentStart d then
          match identBody digits with
          | some (_, r) => wordBreak r
          | none => none
        else wordBreak digits
      | [] => some []) = some after) : after <:+ digits := by
  split at found
  · split_ifs at found
    · split at found
      · next _ r suffixed => exact wordBreak_eq found ▸ (identBody_parts suffixed).2
      · cases found
    · exact wordBreak_eq found ▸ List.suffix_refl _
  · cases found
    exact List.nil_suffix

theorem literalEnd_suffix {cs after : List Char} (found : literalEnd cs = some after) : after <:+ cs := by
  unfold literalEnd at found
  split at found
  · obtain ⟨_, body, inside⟩ := map_literalSuffix found
    exact inside.trans ((quotedBody_suffix body).trans (List.suffix_cons _ _))
  · split at found
    case h_3 => cases found
    all_goals
      obtain ⟨_, body, inside⟩ := map_literalSuffix found
      exact inside.trans ((rawBody_suffix body).trans (List.suffix_cons _ _))
  · obtain ⟨_, body, inside⟩ := map_literalSuffix found
    exact inside.trans ((quotedBody_suffix body).trans (List.suffix_append [_, _] _))
  · obtain ⟨_, body, inside⟩ := map_literalSuffix found
    exact inside.trans ((rawBody_suffix body).trans (List.suffix_append [_, _] _))
  · obtain ⟨_, body, inside⟩ := map_literalSuffix found
    exact inside.trans ((quotedBody_suffix body).trans (List.suffix_append [_, _] _))
  · obtain ⟨_, body, inside⟩ := map_literalSuffix found
    exact inside.trans ((rawBody_suffix body).trans (List.suffix_append [_, _] _))
  · obtain ⟨_, body, inside⟩ := map_literalSuffix found
    exact inside.trans ((charBody_suffix body).trans (List.suffix_append [_, _] _))
  · obtain ⟨_, body, inside⟩ := map_literalSuffix found
    exact inside.trans ((charBody_suffix body).trans (List.suffix_cons _ _))
  · split_ifs at found
    dsimp only at found
    split at found
    · exact (numberEnd_suffix found).trans (floatDigits_suffix ‹_›)
    · split at found
      · exact (numberEnd_suffix found).trans (intDigits_suffix ‹_›)
      · cases found
  · cases found


theorem punctChar_eq {cs : List Char} {c : Char} {rest : List Char} (found : punctChar cs = some (c, rest)) :
    cs = c :: rest := by
  unfold punctChar at found
  split_ifs at found
  split at found
  · split_ifs at found
    cases found
    rfl
  · cases found

theorem punctToken_parts {cs : List Char} {t : Token} {after : List Char}
    (found : punctToken cs = some (t, after)) : (∃ c spacing, t = .punct c spacing) ∧ after <:+ cs := by
  unfold punctToken at found
  split at found
  · cases found
  · next c rest punct =>
    have made : (∃ c spacing, t = .punct c spacing) ∧ after = rest := by
      split_ifs at found
      · split at found
        · split_ifs at found
          cases found
          exact ⟨⟨_, _, rfl⟩, rfl⟩
        · cases found
      all_goals
        cases found
        exact ⟨⟨_, _, rfl⟩, rfl⟩
    rw [made.2, punctChar_eq punct]
    exact ⟨made.1, List.suffix_cons c rest⟩

theorem untilLineEnd_go_suffix (seen cs : List Char) : (untilLineEnd.go seen cs).2 <:+ cs := by
  fun_induction untilLineEnd.go seen cs <;> grind [List.suffix_cons, List.IsSuffix.trans, List.suffix_refl]

theorem untilLineEnd_suffix (cs : List Char) : (untilLineEnd cs).2 <:+ cs := untilLineEnd_go_suffix [] cs

theorem blockComment_go_suffix {fuel depth : Nat} {seen cs comment rest : List Char}
    (found : blockComment.go fuel depth seen cs = some (comment, rest)) : rest <:+ cs := by
  fun_induction blockComment.go fuel depth seen cs <;> grind [List.suffix_cons, List.IsSuffix.trans, List.suffix_refl]

theorem blockComment_suffix {cs comment rest : List Char} (found : blockComment cs = some (comment, rest)) :
    rest <:+ cs := by
  unfold blockComment at found
  split_ifs at found
  exact blockComment_go_suffix found

theorem skipBlanks_suffix (fuel : Nat) (cs : List Char) : skipBlanks fuel cs <:+ cs := by
  fun_induction skipBlanks fuel cs <;>
    grind [untilLineEnd_suffix, blockComment_suffix, List.drop_suffix, List.suffix_cons, List.IsSuffix.trans,
      List.suffix_refl]

theorem docComment_suffix {cs body : List Char} {inner : Bool} {rest : List Char}
    (found : docComment cs = some (body, inner, rest)) : rest <:+ cs := by
  unfold docComment at found
  -- A line comment runs to the line end, a block comment to its closing.
  split_ifs at found <;> split at found
  · next lineEnd _ read =>
    cases found
    have ended := untilLineEnd_suffix (List.drop 3 cs)
    rw [read] at ended
    exact ended.trans (List.drop_suffix 3 cs)
  · next closed =>
    cases found
    exact blockComment_suffix closed
  · cases found
  · next lineEnd _ read =>
    cases found
    have ended := untilLineEnd_suffix (List.drop 3 cs)
    rw [read] at ended
    exact ended.trans (List.drop_suffix 3 cs)
  · next closed =>
    cases found
    exact blockComment_suffix closed
  · cases found

theorem identAny_parts {cs : List Char} {name : String} {raw : Bool} {rest : List Char}
    (found : identAny cs = some (name, raw, rest)) : name.toList <:+: cs ∧ rest <:+ cs := by
  unfold identAny at found
  dsimp only at found
  -- The body is read after the `r#` of a raw identifier.
  have body : (if startsWith cs "r#" = true then List.drop 2 cs else cs) <:+ cs := by
    split_ifs
    · exact List.drop_suffix 2 cs
    · exact List.suffix_refl cs
  split at found
  · cases found
  · next chars after read =>
    split_ifs at found
    cases found
    obtain ⟨start, rest⟩ := identBody_parts read
    rw [String.toList_ofList]
    exact ⟨start.isInfix.trans body.isInfix, rest.trans body⟩

theorem withoutPreamble_suffix (text : String) : withoutPreamble text <:+ text.toList := by
  unfold withoutPreamble
  generalize text.toList = chars
  lift_lets
  intro cs
  -- Without the byte order mark, then without the shebang line.
  have unmarked : cs <:+ chars := by
    simp only [cs]
    split
    · split_ifs
      · exact List.suffix_cons _ _
      · exact List.suffix_refl _
    · exact List.suffix_refl _
  clear_value cs
  split
  · split
    · exact unmarked
    · exact (List.dropWhile_suffix _).trans unmarked
  · exact unmarked


/-- An identifier of a name stands in a token tree, nested groups included. -/
inductive Token.Names (name : String) : Token → Prop
  | ident (raw : Bool) : Token.Names name (.ident name raw)
  | group {delimiter : Delimiter} {stream : List Token} {t : Token} :
      t ∈ stream → Token.Names name t → Token.Names name (.group delimiter stream)

/-- Every identifier of the token tree, but the `doc` of an attribute made from a doc comment,
is written in the text. -/
def Token.WrittenIn (text : List Char) (t : Token) : Prop :=
  ∀ name, t.Names name → name = "doc" ∨ name.toList <:+: text

theorem Token.writtenIn_group {text : List Char} {delimiter : Delimiter} {stream : List Token}
    (written : ∀ t ∈ stream, t.WrittenIn text) : (Token.group delimiter stream).WrittenIn text := by
  intro name named
  cases named with
  | group inside named => exact written _ inside name named

theorem Token.writtenIn_punct (text : List Char) (c : Char) (spacing : Spacing) :
    (Token.punct c spacing).WrittenIn text := by
  intro name named
  cases named

theorem Token.writtenIn_literal (text : List Char) (lit : String) : (Token.literal lit).WrittenIn text := by
  intro name named
  cases named

/-- A doc comment's attribute names only `doc`. -/
theorem docTokens_writtenIn (text body : List Char) (inner : Bool) :
    ∀ t ∈ docTokens body inner, t.WrittenIn text := by
  have bracket : (Token.group .bracket [.ident "doc" false, .punct '=' .alone,
      .literal (stringLiteralText body)]).WrittenIn text := by
    refine Token.writtenIn_group fun t inside => ?_
    simp only [List.mem_cons, List.not_mem_nil, or_false] at inside
    rcases inside with rfl | rfl | rfl
    · intro name named
      cases named
      exact .inl rfl
    · exact Token.writtenIn_punct text _ _
    · exact Token.writtenIn_literal text _
  intro t inside
  cases inner <;> simp only [docTokens, Bool.false_eq_true, if_true, if_false, List.mem_cons, List.not_mem_nil,
    or_false] at inside
  all_goals rcases inside with rfl | rfl | rfl
  all_goals first | exact bracket | exact Token.writtenIn_punct text _ _

theorem tokenize_go_writtenIn {text : List Char} {fuel : Nat} {stack : List OpenGroup} {current : List Token}
    {cs : List Char} {tokens : List Token} (inside : cs <:+ text) (written : ∀ t ∈ current, t.WrittenIn text)
    (pending : ∀ g ∈ stack, ∀ t ∈ g.before, t.WrittenIn text)
    (found : tokenize.go fuel stack current cs = some tokens) : ∀ t ∈ tokens, t.WrittenIn text := by
  -- Each token pushed comes from the blank-free rest of the input, a suffix of the text.
  fun_induction tokenize.go fuel stack current cs
  case case3 _ current cs _ skipped body inner rest doc _ ih =>
    have blank : skipped <:+ text := (skipBlanks_suffix _ cs).trans inside
    refine ih ((docComment_suffix doc).trans blank) (fun t pushed => ?_) pending found
    rcases List.mem_append.mp pushed with pushed | pushed
    · exact docTokens_writtenIn text body inner t (List.mem_reverse.mp pushed)
    · exact written t pushed
  case case4 =>
    cases found
    exact fun t pushed => written t (List.mem_reverse.mp pushed)
  case case6 _ _ cs _ skipped _ c rest split _ _ _ ih =>
    have blank : skipped <:+ text := (skipBlanks_suffix _ cs).trans inside
    rw [split] at blank
    exact ih ((List.suffix_cons c rest).trans blank) (by simp) (List.forall_mem_cons.mpr ⟨written, pending⟩) found
  case case8 current cs _ skipped _ c rest split _ _ d _ _ _ _ _ ih =>
    have blank : skipped <:+ text := (skipBlanks_suffix _ cs).trans inside
    rw [split] at blank
    have closed : (Token.group d current.reverse).WrittenIn text :=
      Token.writtenIn_group fun t inside => written t (List.mem_reverse.mp inside)
    refine ih ((List.suffix_cons c rest).trans blank) (List.forall_mem_cons.mpr ⟨closed, ?_⟩)
      (List.forall_mem_cons.mp pending).2 found
    exact (List.forall_mem_cons.mp pending).1
  case case10 _ _ cs _ skipped _ _ _ _ _ _ _ _ _ literal _ ih =>
    have blank : skipped <:+ text := (skipBlanks_suffix _ cs).trans inside
    exact ih ((literalEnd_suffix literal).trans blank)
      (List.forall_mem_cons.mpr ⟨Token.writtenIn_literal text _, written⟩) pending found
  case case11 _ _ cs _ skipped _ _ _ _ _ _ _ _ _ _ _ punct ih =>
    have blank : skipped <:+ text := (skipBlanks_suffix _ cs).trans inside
    obtain ⟨⟨c, spacing, rfl⟩, after⟩ := punctToken_parts punct
    exact ih (after.trans blank) (List.forall_mem_cons.mpr ⟨Token.writtenIn_punct text c spacing, written⟩)
      pending found
  case case13 _ _ cs _ skipped _ _ _ _ _ _ _ _ _ _ _ word raw _ ident ih =>
    have blank : skipped <:+ text := (skipBlanks_suffix _ cs).trans inside
    obtain ⟨named, after⟩ := identAny_parts ident
    have read : (Token.ident word raw).WrittenIn text := by
      intro name pushed
      cases pushed
      exact .inr (named.trans blank.isInfix)
    exact ih (after.trans blank) (List.forall_mem_cons.mpr ⟨read, written⟩) pending found
  all_goals cases found

/-- The tokens of a text name only identifiers written in it. -/
theorem tokenize_writtenIn {text : String} {tokens : List Token} (found : tokenize text = some tokens) :
    ∀ t ∈ tokens, t.WrittenIn text.toList := by
  unfold tokenize at found
  exact tokenize_go_writtenIn (List.suffix_refl _) (by simp) (by simp) found

end Metamodel.Source

namespace Metamodel.Text

theorem occursIn_of_infix {part : List Char} : ∀ {text : List Char}, part <:+: text → occursIn part text = true
  | [], inside => by simp [occursIn, List.infix_nil.mp inside]
  | c :: rest, inside => by
    rcases List.infix_cons_iff.mp inside with start | later
    · simp [occursIn, List.isPrefixOf_iff_prefix.mpr start]
    · simp [occursIn, occursIn_of_infix later]

end Metamodel.Text

namespace Metamodel.Source

/-- A file that reads names, in its token tree, only identifiers its text contains. -/
theorem readSourceFile_names {text : String} {result : List Attribute × List Item}
    (read : readSourceFile text = .ok result) :
    ∃ tokens, readFileItems tokens = .ok result ∧
      ∀ t ∈ tokens, ∀ name, t.Names name → name ≠ "doc" → Text.contains text name = true := by
  unfold readSourceFile tokensOf at read
  split at read
  · next tokens found =>
    refine ⟨tokens, read, fun t inside name named other => ?_⟩
    rcases tokenize_writtenIn found t inside name named with doc | written
    · exact absurd doc other
    · rw [String.toList_ofList] at written
      exact Text.occursIn_of_infix (written.trans (withoutPreamble_suffix text).isInfix)
  · cases read

end Metamodel.Source

namespace Metamodel.Text

/-- A table lookup is a scan of the table's ranges as a list. -/
theorem inRanges_eq_any_toList :
    inRanges = fun ranges code => ranges.toList.any fun range => range.1 ≤ code && code < range.2 := by
  funext ranges code
  rw [inRanges, Array.any_toList]

end Metamodel.Text

namespace Metamodel.Source

/-- The lexer with its identifier tests unfolded and their tables read as lists: the same
function as `tokenize`, as its second component says. Facts about the tokens of a fixed text are
decided in the kernel on this form. Read as arrays, the tables are scanned by the well-founded
loop of `Array.any`, and one character outside every range (the `(` after an identifier) costs
the kernel tens of seconds and gigabytes; read as lists, a scan is a structural recursion. -/
noncomputable def tokenizeByLists : {lex : String → Option (List Token) // lex = tokenize} := by
  refine ⟨?lex, ?same⟩
  case same =>
    -- Each layer of the lexer is unfolded once its caller is, down to the identifier tests; the
    -- comparison with `tokenize` stays symbolic, so the kernel checks it without running it.
    delta tokenize
    delta tokenize.go
    delta tokenize.go._f
    delta literalEnd punctToken
    delta identAny literalSuffix floatDigits wordBreak
    delta floatMantissa
    delta floatMantissa._f
    delta identBody
    delta Text.isIdentStart Text.isIdentContinue
    rw [Text.inRanges_eq_any_toList]

end Metamodel.Source
