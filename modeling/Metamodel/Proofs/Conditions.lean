import Mathlib.Data.List.Infix
import Metamodel.Query.Condition

/-!
Conditions made through the attribute methods, and how they combine.

A `like` pattern is read as a list of elements: `%` stands for any run of characters, `_` for
exactly one character, a backslash makes the next character stand for itself, and every other
character stands for itself. An escaped text reads as its own characters, so the patterns that
`starts_with`, `ends_with` and `contains` build match exactly the texts that start with, end
with or contain the given text, and an escaped text alone matches only itself.

Negation wraps a condition, except that it undoes a negation and turns a null test around. A
predicate built from attribute conditions by conjunction, disjunction, `andAlso`, `orElse` and
negation never has a negation around a negation or a null test, so on such predicates negating
twice changes nothing. Negation keeps the paths a predicate mentions, and `andAlso` and `orElse`
mention the paths of their parts in order.
-/

namespace Metamodel.Query

open Navigation

/-! ### Text patterns -/

/-- One element of a `like` pattern. -/
inductive LikeItem where
  /-- `%`: any run of characters, the empty run included. -/
  | anyRun
  /-- `_`: exactly one character. -/
  | anyChar
  /-- A character that stands for itself, escaped or not. -/
  | literal (c : Char)
deriving DecidableEq, Repr

/-- The elements of a pattern; none when it ends in a backslash that escapes nothing. -/
def likeItems : List Char → Option (List LikeItem)
  | [] => some []
  | '%' :: rest => (likeItems rest).map (.anyRun :: ·)
  | '_' :: rest => (likeItems rest).map (.anyChar :: ·)
  | ['\\'] => none
  | '\\' :: c :: rest => (likeItems rest).map (.literal c :: ·)
  | c :: rest => (likeItems rest).map (.literal c :: ·)

/-- Whether the elements of a pattern match a whole text. -/
def LikeItem.matchAll : List LikeItem → List Char → Bool
  | [], text => text.isEmpty
  | .anyRun :: items, text => text.tails.any (matchAll items)
  | .anyChar :: _, [] => false
  | .anyChar :: items, _ :: text => matchAll items text
  | .literal _ :: _, [] => false
  | .literal c :: items, d :: text => c == d && matchAll items text

/-- Whether a `like` pattern matches a whole text. -/
def likeMatches (pattern text : String) : Bool :=
  match likeItems pattern.toList with
  | some items => LikeItem.matchAll items text.toList
  | none => false

example : likeMatches "50\\%\\_off%" "50%_off today" := by decide

/-- The characters of `escapeLike`, on lists. -/
def escapedChars (text : List Char) : List Char :=
  text.flatMap fun c => if c == '%' || c == '_' || c == '\\' then ['\\', c] else [c]

theorem escapeLike_toList (text : String) : (escapeLike text).toList = escapedChars text.toList := by
  simp [escapeLike, escapedChars]

theorem likeItems_plain {c : Char} (percent : c ≠ '%') (underscore : c ≠ '_') (backslash : c ≠ '\\')
    (rest : List Char) : likeItems (c :: rest) = (likeItems rest).map (.literal c :: ·) := by
  conv_lhs => unfold likeItems
  split <;> simp_all

/-- An escaped text reads as its characters, each standing for itself. -/
theorem likeItems_escapedChars (text rest : List Char) :
    likeItems (escapedChars text ++ rest) = (likeItems rest).map (text.map .literal ++ ·) := by
  induction text with
  | nil => simp [escapedChars]
  | cons c more ih =>
    have step : escapedChars (c :: more) ++ rest =
        (if c == '%' || c == '_' || c == '\\' then ['\\', c] else [c]) ++ (escapedChars more ++ rest) := by
      simp [escapedChars]
    rw [step]
    by_cases special : (c == '%' || c == '_' || c == '\\') = true
    · rw [if_pos special, List.cons_append, List.cons_append, List.nil_append, likeItems, ih]
      simp [Option.map_map, Function.comp_def]
    · simp only [Bool.or_eq_true, beq_iff_eq, not_or] at special
      rw [if_neg (by simpa using special), List.cons_append, List.nil_append,
        likeItems_plain special.1.1 special.1.2 special.2, ih]
      simp [Option.map_map, Function.comp_def]

/-- The elements of an escaped text between optional runs. -/
theorem likeItems_around (before after : Bool) (text : String) :
    likeItems ((if before then "%" else "") ++ escapeLike text ++ (if after then "%" else "")).toList =
      some ((if before then [.anyRun] else []) ++
        (text.toList.map .literal ++ (if after then [.anyRun] else []))) := by
  have tail : likeItems (if after then "%" else "").toList = some (if after then [.anyRun] else []) := by
    cases after <;> simp [likeItems]
  have body := likeItems_escapedChars text.toList (if after then "%" else "").toList
  rw [tail] at body
  cases before <;> simp [escapeLike_toList, body, likeItems]

namespace LikeItem

theorem matchAll_nil (text : List Char) : matchAll [] text = true ↔ text = [] := by
  simp [matchAll]

/-- A run matches where the rest of the pattern matches some suffix of the text. -/
theorem matchAll_anyRun (items : List LikeItem) (text : List Char) :
    matchAll (.anyRun :: items) text = true ↔ ∃ pre rest, text = pre ++ rest ∧ matchAll items rest = true := by
  simp only [matchAll, List.any_eq_true, List.mem_tails]
  constructor
  · rintro ⟨rest, ⟨pre, rfl⟩, matched⟩
    exact ⟨pre, rest, rfl, matched⟩
  · rintro ⟨pre, rest, rfl, matched⟩
    exact ⟨rest, ⟨pre, rfl⟩, matched⟩

theorem matchAll_anyRun_nil (text : List Char) : matchAll [.anyRun] text = true :=
  (matchAll_anyRun [] text).mpr ⟨text, [], by simp, rfl⟩

/-- Literal characters match exactly themselves at the front of the text. -/
theorem matchAll_literals (text : List Char) (items : List LikeItem) (s : List Char) :
    matchAll (text.map .literal ++ items) s = true ↔ ∃ rest, s = text ++ rest ∧ matchAll items rest = true := by
  induction text generalizing s with
  | nil => simp
  | cons c more ih =>
    cases s with
    | nil => simp [matchAll]
    | cons d s =>
      simp only [List.map_cons, List.cons_append, matchAll, Bool.and_eq_true, beq_iff_eq, ih, List.cons.injEq]
      constructor
      · rintro ⟨rfl, rest, rfl, matched⟩
        exact ⟨rest, ⟨rfl, rfl⟩, matched⟩
      · rintro ⟨rest, ⟨rfl, rfl⟩, matched⟩
        exact ⟨rfl, rest, rfl, matched⟩

end LikeItem

open LikeItem

theorem likeMatches_of_likeItems {pattern : String} {items : List LikeItem}
    (read : likeItems pattern.toList = some items) (s : String) : likeMatches pattern s = matchAll items s.toList := by
  rw [likeMatches, read]

theorem likeMatches_startsWith (text s : String) :
    likeMatches (escapeLike text ++ "%") s ↔ text.toList <+: s.toList := by
  have items := likeItems_around false true text
  simp only [Bool.false_eq_true, if_false, if_true, String.empty_append, List.nil_append] at items
  rw [likeMatches_of_likeItems items, matchAll_literals]
  simp only [matchAll_anyRun_nil, and_true]
  exact ⟨fun ⟨rest, split⟩ => ⟨rest, split.symm⟩, fun ⟨rest, split⟩ => ⟨rest, split.symm⟩⟩

theorem likeMatches_endsWith (text s : String) :
    likeMatches ("%" ++ escapeLike text) s ↔ text.toList <:+ s.toList := by
  have items := likeItems_around true false text
  simp only [Bool.false_eq_true, if_false, if_true, String.append_empty, List.singleton_append] at items
  rw [likeMatches_of_likeItems items, matchAll_anyRun]
  simp only [matchAll_literals, matchAll_nil]
  constructor
  · rintro ⟨pre, rest, split, after, rfl, rfl⟩
    exact ⟨pre, by rw [split, List.append_nil]⟩
  · rintro ⟨pre, split⟩
    exact ⟨pre, text.toList, split.symm, [], (List.append_nil _).symm, rfl⟩

theorem likeMatches_contains (text s : String) :
    likeMatches ("%" ++ escapeLike text ++ "%") s ↔ text.toList <:+: s.toList := by
  have items := likeItems_around true true text
  simp only [if_true, List.singleton_append] at items
  rw [likeMatches_of_likeItems items, matchAll_anyRun]
  simp only [matchAll_literals, matchAll_anyRun_nil, and_true]
  constructor
  · rintro ⟨pre, rest, split, after, rfl⟩
    exact ⟨pre, after, by rw [split, List.append_assoc]⟩
  · rintro ⟨pre, after, split⟩
    exact ⟨pre, text.toList ++ after, by rw [← split, List.append_assoc], after, rfl⟩

theorem likeMatches_escapeLike (text s : String) : likeMatches (escapeLike text) s ↔ s = text := by
  have items := likeItems_around false false text
  simp only [Bool.false_eq_true, if_false, String.empty_append, String.append_empty, List.nil_append,
    List.append_nil] at items
  have literals := matchAll_literals text.toList [] s.toList
  rw [List.append_nil] at literals
  rw [likeMatches_of_likeItems items, literals]
  simp only [matchAll_nil, exists_eq_right, List.append_nil]
  exact String.toList_inj

/-- The text patterns of an attribute of text match what their names promise: the pattern of
`starts_with t` matches the texts that start with `t`, that of `ends_with t` those that end with
it and that of `contains t` those that contain it; and `t` escaped matches only `t`. -/
theorem text_patterns_match_exactly (attr : AttributeAt) (t s : String) :
    (∃ pattern, attr.condition .text .startsWith [.string t] = .ok (.like attr.path pattern) ∧
      (likeMatches pattern s ↔ t.toList <+: s.toList)) ∧
    (∃ pattern, attr.condition .text .endsWith [.string t] = .ok (.like attr.path pattern) ∧
      (likeMatches pattern s ↔ t.toList <:+ s.toList)) ∧
    (∃ pattern, attr.condition .text .contains [.string t] = .ok (.like attr.path pattern) ∧
      (likeMatches pattern s ↔ t.toList <:+: s.toList)) ∧
    (likeMatches (escapeLike t) s ↔ s = t) :=
  ⟨⟨_, rfl, likeMatches_startsWith t s⟩, ⟨_, rfl, likeMatches_endsWith t s⟩,
    ⟨_, rfl, likeMatches_contains t s⟩, likeMatches_escapeLike t s⟩

/-! ### Negation -/

/-- A bound computation that succeeds ran its first part to a value, then the rest. -/
theorem except_bind_eq_ok {ε α β : Type} {e : Except ε α} {f : α → Except ε β} {b : β}
    (ran : e >>= f = .ok b) : ∃ a, e = .ok a ∧ f a = .ok b := by
  cases e with
  | error _ => cases ran
  | ok a => exact ⟨a, rfl, ran⟩

namespace Predicate

/-- A single condition: no conjunction, disjunction or negation. -/
def isLeaf : Predicate → Bool
  | .all _ | .any _ | .not _ => false
  | _ => true

/-- The forms that negation turns around instead of wrapping: a negation and the null tests. -/
def turnsAround : Predicate → Bool
  | .not _ | .isNull _ | .isNotNull _ => true
  | _ => false

mutual

/-- Every negation inside wraps a predicate that negation would not turn around. -/
def negationsReduced : Predicate → Bool
  | .all conditions | .any conditions => negationsReducedEach conditions
  | .not inner => !inner.turnsAround && inner.negationsReduced
  | _ => true

/-- Every predicate of a list has its negations reduced. -/
def negationsReducedEach : List Predicate → Bool
  | [] => true
  | p :: more => p.negationsReduced && negationsReducedEach more

end

/-- The predicates an application builds: conditions that attributes make, combined by
conjunction and disjunction of lists, by `andAlso`, `orElse` and by negation. -/
inductive Built : Predicate → Prop
  | condition {attr : AttributeAt} {kind : ValueKind} {method : Method} {args : List Json.Value}
      {p : Predicate} : attr.condition kind method args = .ok p → Built p
  | all {conditions : List Predicate} : (∀ p ∈ conditions, Built p) → Built (.all conditions)
  | any {conditions : List Predicate} : (∀ p ∈ conditions, Built p) → Built (.any conditions)
  | andAlso {p q : Predicate} : Built p → Built q → Built (p.andAlso q)
  | orElse {p q : Predicate} : Built p → Built q → Built (p.orElse q)
  | negate {p : Predicate} : Built p → Built p.negate

theorem negationsReducedEach_iff (conditions : List Predicate) :
    negationsReducedEach conditions = true ↔ ∀ p ∈ conditions, p.negationsReduced = true := by
  induction conditions with
  | nil => simp [negationsReducedEach]
  | cons p more ih => simp [negationsReducedEach, ih]

theorem negationsReduced_of_isLeaf {p : Predicate} (leaf : p.isLeaf = true) : p.negationsReduced = true := by
  cases p <;> simp_all [isLeaf, negationsReduced]

/-- Negating a predicate that negation does not turn around wraps it. -/
theorem negate_of_turnsAround_false {p : Predicate} (wraps : p.turnsAround = false) : p.negate = .not p := by
  cases p <;> simp_all [turnsAround, negate]

theorem negationsReduced_negate {p : Predicate} (reduced : p.negationsReduced = true) :
    p.negate.negationsReduced = true := by
  cases p with
  | not inner =>
    simp only [negationsReduced, Bool.and_eq_true] at reduced
    exact reduced.2
  | isNull path => rfl
  | isNotNull path => rfl
  | compare | between | isIn | like => rfl
  | all | any =>
    rw [negate_of_turnsAround_false rfl]
    simp only [negationsReduced, turnsAround, Bool.not_false, Bool.true_and]
    exact reduced

/-- On predicates whose negations are reduced, negating twice gives the predicate back. -/
theorem negate_negate {p : Predicate} (reduced : p.negationsReduced = true) : p.negate.negate = p := by
  cases p with
  | not inner =>
    simp only [negationsReduced, Bool.and_eq_true, Bool.not_eq_true'] at reduced
    exact negate_of_turnsAround_false reduced.1
  | isNull path => rfl
  | isNotNull path => rfl
  | compare | between | isIn | like | all | any => rfl

theorem negationsReduced_andAlso {p q : Predicate} (first : p.negationsReduced = true)
    (second : q.negationsReduced = true) : (p.andAlso q).negationsReduced = true := by
  unfold andAlso
  split
  · simp only [negationsReduced, negationsReducedEach_iff, List.mem_append, List.mem_singleton] at first ⊢
    rintro r (inside | rfl)
    · exact first r inside
    · exact second
  · simp [negationsReduced, negationsReducedEach, first, second]

theorem negationsReduced_orElse {p q : Predicate} (first : p.negationsReduced = true)
    (second : q.negationsReduced = true) : (p.orElse q).negationsReduced = true := by
  unfold orElse
  split
  · simp only [negationsReduced, negationsReducedEach_iff, List.mem_append, List.mem_singleton] at first ⊢
    rintro r (inside | rfl)
    · exact first r inside
    · exact second
  · simp [negationsReduced, negationsReducedEach, first, second]

end Predicate

/-- A condition an attribute makes is a single condition. -/
theorem condition_isLeaf {attr : AttributeAt} {kind : ValueKind} {method : Method}
    {args : List Json.Value} {p : Predicate} (made : attr.condition kind method args = .ok p) :
    p.isLeaf = true := by
  unfold AttributeAt.condition at made
  split at made
  · cases made
  -- Each method reads its arguments, if any, and makes one condition from them.
  cases method
  case isNull | isNotNull | isTrue | isFalse =>
    cases made
    rfl
  case between =>
    obtain ⟨low, -, made⟩ := except_bind_eq_ok made
    obtain ⟨high, -, made⟩ := except_bind_eq_ok made
    cases made
    rfl
  all_goals
    obtain ⟨value, -, made⟩ := except_bind_eq_ok made
    cases made
    rfl

namespace Predicate

/-- Every predicate an application builds has its negations reduced. -/
theorem Built.negationsReduced {p : Predicate} (built : p.Built) : p.negationsReduced = true := by
  induction built with
  | condition made => exact negationsReduced_of_isLeaf (condition_isLeaf made)
  | all _ ih => exact (negationsReducedEach_iff _).mpr ih
  | any _ ih => exact (negationsReducedEach_iff _).mpr ih
  | andAlso _ _ first second => exact negationsReduced_andAlso first second
  | orElse _ _ first second => exact negationsReduced_orElse first second
  | negate _ ih => exact negationsReduced_negate ih

theorem pathsEach_append (first second : List Predicate) :
    pathsEach (first ++ second) = pathsEach first ++ pathsEach second := by
  induction first with
  | nil => rfl
  | cons p more ih => simp [pathsEach, ih]

theorem paths_negate (p : Predicate) : p.negate.paths = p.paths := by
  cases p <;> rfl

theorem paths_andAlso (p q : Predicate) : (p.andAlso q).paths = p.paths ++ q.paths := by
  unfold andAlso
  split <;> simp [paths, pathsEach, pathsEach_append]

theorem paths_orElse (p q : Predicate) : (p.orElse q).paths = p.paths ++ q.paths := by
  unfold orElse
  split <;> simp [paths, pathsEach, pathsEach_append]

end Predicate

open Predicate in
/-- Negation is an involution on the predicates an application builds: they never have a
negation around a negation or a null test, and negating one twice gives it back. Negation keeps
the paths a predicate mentions, and `andAlso` and `orElse` mention the paths of their parts in
order. -/
theorem built_negation_involutive {p : Predicate} (built : p.Built) :
    p.negationsReduced = true ∧ p.negate.negate = p ∧ p.negate.paths = p.paths ∧
      ∀ q, (p.andAlso q).paths = p.paths ++ q.paths ∧ (p.orElse q).paths = p.paths ++ q.paths :=
  ⟨built.negationsReduced, negate_negate built.negationsReduced, paths_negate p,
    fun q => ⟨paths_andAlso p q, paths_orElse p q⟩⟩

/-- `Book.title`, an attribute of text. -/
def bookTitle : AttributeAt := ⟨(NavPath.atRoot "Book").get "title"⟩

/-- "The title starts with `Dune` or is null", negated: built through the attribute, so negating
it twice gives it back. -/
theorem bookTitle_negation_involutive :
    let p := ((Predicate.like bookTitle.path "Dune%").orElse (.isNull bookTitle.path)).negate
    p.Built ∧ p.negationsReduced = true ∧ p.negate.negate = p ∧ p.negate.paths = p.paths ∧
      ∀ q, (p.andAlso q).paths = p.paths ++ q.paths ∧ (p.orElse q).paths = p.paths ++ q.paths := by
  intro p
  have startsWith : bookTitle.condition .text .startsWith [.string "Dune"] = .ok (.like bookTitle.path "Dune%") :=
    rfl
  have isNull : bookTitle.condition .text .isNull [] = .ok (.isNull bookTitle.path) := rfl
  have built : p.Built := .negate (.orElse (.condition startsWith) (.condition isNull))
  exact ⟨built, built_negation_involutive built⟩

end Metamodel.Query
