import Mathlib
import Metamodel.Json.Decode
import Metamodel.Proofs.Naming

/-!
JSON text read back.

A struct is written as compact JSON text with its fields in declaration order (`Value.written`).
Such text reads back as the value it was written from, provided the value is one the text
keeps exactly: no floats, integers within 64 bits, and no object with a repeated key, since
reading keeps only the last of them. The reader refuses containers nested more than 127 deep,
so the value must nest no deeper.

Reading is followed character by character: a number's digits, a string's escapes, and then
arrays and objects item by item and field by field, by recursion over the value, its items
and its fields.
-/

namespace Metamodel.Json

/-! ### Numbers -/

theorem digitChar_toNat {d : Nat} (small : d < 10) : (Nat.digitChar d).toNat = 48 + d := by
  interval_cases d <;> rfl

theorem digit_of_mem_toDigits {n : Nat} {c : Char} (inside : c ∈ Nat.toDigits 10 n) :
    ('0' ≤ c && c ≤ '9') = true :=
  Text.isAsciiDigit_of_mem_toString (by rwa [Nat.toString_eq_ofList_toDigits, String.toList_ofList])

theorem foldl_digits_le (ds : List Char) (acc : Nat) :
    acc ≤ ds.foldl (fun a d => a * 10 + (d.toNat - 48)) acc := by
  induction ds generalizing acc with
  | nil => exact Nat.le_refl acc
  | cons d ds ih => exact Nat.le_trans (by dsimp only; omega) (ih _)

theorem foldl_toDigits (n : Nat) :
    (Nat.toDigits 10 n).foldl (fun a d => a * 10 + (d.toNat - 48)) 0 = n := by
  induction n using Nat.strong_induction_on with
  | _ n ih =>
    by_cases small : n < 10
    · rw [Nat.toDigits_of_lt_base small]
      simp [digitChar_toNat small]
    · rw [Nat.toDigits_of_base_le (by decide) (by omega), List.foldl_append, ih (n / 10) (by omega)]
      simp only [List.foldl_cons, List.foldl_nil, digitChar_toNat (Nat.mod_lt n (by decide))]
      omega

theorem takeSignificand_of_lt (ds : List Char) (acc : Nat)
    (fits : ds.foldl (fun a d => a * 10 + (d.toNat - 48)) acc < Nat.pow 2 64) :
    takeSignificand acc ds = (ds.foldl (fun a d => a * 10 + (d.toNat - 48)) acc, []) := by
  induction ds generalizing acc with
  | nil => rfl
  | cons d ds ih =>
    have next : acc * 10 + (d.toNat - 48) < Nat.pow 2 64 :=
      Nat.lt_of_le_of_lt (foldl_digits_le ds _) fits
    rw [takeSignificand, if_pos next]
    exact ih _ fits

theorem head_toDigits_ne_zero : ∀ {n : Nat}, 0 < n → (Nat.toDigits 10 n).head? ≠ some '0'
  | n, positive => by
    by_cases small : n < 10
    · rw [Nat.toDigits_of_lt_base small]
      interval_cases n <;> decide
    · rw [Nat.toDigits_of_base_le (by decide) (by omega), List.head?_append_of_ne_nil _ Nat.toDigits_ne_nil]
      exact head_toDigits_ne_zero (n := n / 10) (by omega)

theorem toDigits_single_of_zero_head {n : Nat} {more : List Char}
    (starts : Nat.toDigits 10 n = '0' :: more) : more = [] := by
  rcases Nat.eq_zero_or_pos n with rfl | positive
  · simpa using starts
  · exact absurd (by rw [starts]; rfl) (head_toDigits_ne_zero positive)

/-- What may follow a value in written text: nothing, or the comma or bracket that ends it. -/
def EndsValue (rest : List Char) : Prop :=
  ∀ c ∈ rest.head?, c = ',' ∨ c = ']' ∨ c = '\x7d'

theorem spanDigits_toDigits (n : Nat) {rest : List Char} (ends : EndsValue rest) :
    spanDigits (Nat.toDigits 10 n ++ rest) = (Nat.toDigits 10 n, rest) := by
  have digits : ∀ c ∈ Nat.toDigits 10 n, ('0' ≤ c && c ≤ '9') = true := fun _ => digit_of_mem_toDigits
  unfold spanDigits
  rw [List.takeWhile_append_of_pos digits, List.dropWhile_append_of_pos digits]
  cases rest with
  | nil => simp
  | cons c more =>
    rcases ends c rfl with rfl | rfl | rfl <;> simp

theorem readSign_of_ne {c : Char} (plain : c ≠ '-') (rest : List Char) (k : Nat) :
    readSign ⟨c :: rest, k⟩ = (false, ⟨c :: rest, k⟩) := by
  unfold readSign
  split
  · next tail same => exact absurd (List.cons.inj same).1 plain
  · rfl

theorem readFraction_of_ends {rest : List Char} (ends : EndsValue rest) (afterInt : Cursor) :
    readFraction rest afterInt = ([], afterInt, false) := by
  cases rest with
  | nil => rfl
  | cons c more => rcases ends c rfl with rfl | rfl | rfl <;> rfl

theorem finishNumber_of_ends {rest : List Char} (ends : EndsValue rest) (negative hasFrac : Bool)
    (significand : Nat) (startExp : Int) (k : Nat) :
    finishNumber negative hasFrac significand startExp ⟨rest, k⟩ =
      finishPlain negative hasFrac significand startExp ⟨rest, k⟩ := by
  cases rest with
  | nil => rfl
  | cons c more => rcases ends c rfl with rfl | rfl | rfl <;> rfl

/-- The digits of a number that fits 64 bits, read after its sign, give the number with no
fraction and no exponent. -/
theorem readNumber_digits {cur : Cursor} {negative : Bool} {m : Nat} {rest : List Char} {k : Nat}
    (sign : readSign cur = (negative, ⟨(toString m).toList ++ rest, k⟩)) (fits : m < Nat.pow 2 64)
    (ends : EndsValue rest) :
    readNumber cur = finishPlain negative false m 0 ⟨rest, k + (toString m).length⟩ := by
  rw [Nat.toString_eq_repr, Nat.toList_repr] at sign
  rw [Nat.toString_eq_repr]
  obtain ⟨first, more, digits⟩ : ∃ first more, Nat.toDigits 10 m = first :: more := by
    cases h : Nat.toDigits 10 m with
    | nil => exact absurd h Nat.toDigits_ne_nil
    | cons first more => exact ⟨first, more, rfl⟩
  have span := spanDigits_toDigits m ends
  have noLeadingZero : (first == '0' && !more.isEmpty) = false := by
    cases h : first == '0' with
    | false => rfl
    | true => simp [toDigits_single_of_zero_head (digits.trans (by rw [beq_iff_eq.mp h]))]
  have value := takeSignificand_of_lt (Nat.toDigits 10 m) 0 (by rw [foldl_toDigits]; exact fits)
  have len : m.repr.length = (first :: more).length := by
    rw [← String.length_toList, Nat.toList_repr, digits]
  have skipped : Cursor.advance ⟨first :: more ++ rest, k⟩ (first :: more).length =
      ⟨rest, k + (first :: more).length⟩ := by
    simp [Cursor.advance]
  rw [foldl_toDigits, digits] at value
  rw [digits] at span sign
  unfold readNumber
  rw [sign]
  simp only [span, noLeadingZero, skipped, readFraction_of_ends ends, value, finishNumber_of_ends ends]
  simp [takeSignificand, len]

theorem readNumber_nat {n : Nat} (fits : n < Nat.pow 2 64) {rest : List Char} (ends : EndsValue rest)
    (k : Nat) : readNumber ⟨(toString n).toList ++ rest, k⟩ = .ok (.nat n, ⟨rest, k + (toString n).length⟩) := by
  obtain ⟨first, more, digits⟩ : ∃ first more, (toString n).toList = first :: more := by
    cases h : (toString n).toList with
    | nil => exact absurd h (by simp)
    | cons first more => exact ⟨first, more, rfl⟩
  have notMinus : first ≠ '-' := by
    have := digit_of_mem_toDigits (n := n) (c := first) (by rw [← Nat.toList_repr, ← Nat.toString_eq_repr, digits]; exact List.mem_cons_self)
    rintro rfl
    exact absurd this (by decide)
  have sign : readSign ⟨(toString n).toList ++ rest, k⟩ = (false, ⟨(toString n).toList ++ rest, k⟩) := by
    rw [digits, List.cons_append]
    exact readSign_of_ne notMinus _ k
  rw [readNumber_digits sign fits ends]
  simp [finishPlain]

theorem readNumber_neg {n : Int} (negative : n < 0) (fits : -Int.pow 2 63 ≤ n) {rest : List Char}
    (ends : EndsValue rest) (k : Nat) :
    readNumber ⟨(toString n).toList ++ rest, k⟩ = .ok (.neg n, ⟨rest, k + (toString n).length⟩) := by
  cases n with
  | ofNat m => exact absurd negative (by simp)
  | negSucc m =>
    have text : toString (Int.negSucc m) = "-" ++ toString (m + 1) := rfl
    have small : m < 9223372036854775808 := by
      have bound : Int.pow 2 63 = 9223372036854775808 := by decide
      rw [bound, Int.negSucc_eq] at fits
      omega
    have fitsAbs : m + 1 < Nat.pow 2 64 := by
      have bound : Nat.pow 2 64 = 18446744073709551616 := by decide
      omega
    have sign : readSign ⟨(toString (Int.negSucc m)).toList ++ rest, k⟩ =
        (true, ⟨(toString (m + 1)).toList ++ rest, k + 1⟩) := by
      rw [text, String.toList_append]
      rfl
    have len : (toString (Int.negSucc m)).length = 1 + (toString (m + 1)).length := by
      rw [text, String.length_append]
      rfl
    rw [readNumber_digits sign fitsAbs ends, len, ← Nat.add_assoc]
    simp only [finishPlain]
    simp [small, Int.negSucc_eq]

/-! ### Strings -/

theorem hexValue_hexDigit : ∀ d, d < 16 → hexValue (hexDigit d) = some d := by
  decide

theorem readStringChars_escapeChar (c : Char) (more : List Char) (fuel : Nat) (acc : List Char)
    (k : Nat) :
    readStringChars (fuel + 1) acc ⟨(escapeChar c).toList ++ more, k⟩ =
      readStringChars fuel (c :: acc) ⟨more, k + (escapeChar c).length⟩ := by
  unfold escapeChar
  split
  · rfl
  · rfl
  · rfl
  · rfl
  · rfl
  · next notQuote notBackslash notNewline notReturn notTab =>
    split_ifs with backspace formFeed control
    · have same : Char.ofNat 8 = c := by rw [← beq_iff_eq.mp backspace, Char.ofNat_toNat]
      subst same
      rfl
    · have same : Char.ofNat 12 = c := by rw [← beq_iff_eq.mp formFeed, Char.ofNat_toNat]
      subst same
      rfl
    · have high := hexValue_hexDigit (c.toNat / 16) (by omega)
      have low := hexValue_hexDigit (c.toNat % 16) (by omega)
      have code : ((0 * 16 + 0) * 16 + c.toNat / 16) * 16 + c.toNat % 16 = c.toNat := by omega
      simp only [String.toList_ofList, List.cons_append, List.nil_append, String.length_ofList]
      rw [readStringChars]
      have zero : hexValue '0' = some 0 := rfl
      simp only [Cursor.advance, List.drop, readHex4, high, low, zero, code]
      have notHigh : (decide (55296 ≤ c.toNat) && decide (c.toNat < 56320)) = false := by
        simp only [Bool.and_eq_false_iff, decide_eq_false_iff_not]; omega
      have notLow : (decide (56320 ≤ c.toNat) && decide (c.toNat < 57344)) = false := by
        simp only [Bool.and_eq_false_iff, decide_eq_false_iff_not]; omega
      simp [notHigh, notLow, Char.ofNat_toNat]
    · simp only [String.toList_singleton, List.singleton_append, String.length_singleton]
      rw [readStringChars]
      split
      · next same => cases same
      · next same => exact absurd (List.cons.inj same).1 notQuote
      · next same => exact absurd (List.cons.inj same).1 notBackslash
      · next same =>
        obtain ⟨rfl, rfl⟩ := List.cons.inj same
        rw [if_neg control]
        rfl

/-- The escaped characters of a string, up to its closing quote, read back as the string. -/
theorem readStringChars_escaped (more : List Char) :
    ∀ (cs acc : List Char) (k fuel : Nat), cs.length < fuel →
      readStringChars fuel acc ⟨(String.join (cs.map escapeChar)).toList ++ '"' :: more, k⟩ =
        .ok (String.ofList (acc.reverse ++ cs), ⟨more, k + (String.join (cs.map escapeChar)).length + 1⟩)
  | [], acc, k, fuel + 1, _ => by simp [readStringChars, Cursor.advance]
  | c :: cs, acc, k, fuel + 1, enough => by
    rw [List.map_cons, String.join_cons, String.toList_append, List.append_assoc,
      readStringChars_escapeChar, readStringChars_escaped more cs (c :: acc) _ fuel (by simpa using enough)]
    simp only [List.reverse_cons, List.append_assoc, List.singleton_append, String.length_append]
    congr 3
    omega

/-! ### Written text -/

namespace Value

@[simp] theorem written_array (items : List Value) :
    (Value.array items).written = "[" ++ ",".intercalate (items.map Value.written) ++ "]" := by
  rw [Value.written]

@[simp] theorem written_object (fields : List (String × Value)) :
    (Value.object fields).written =
      "\x7b" ++ ",".intercalate (fields.map fun field => quote field.1 ++ ":" ++ field.2.written) ++ "\x7d" := by
  rw [Value.written]

@[simp] theorem written_null : Value.null.written = "null" := by
  simp [Value.written, Value.compact]

@[simp] theorem written_bool (b : Bool) : (Value.bool b).written = if b then "true" else "false" := by
  simp [Value.written, Value.compact]

@[simp] theorem written_number (n : Number) : (Value.number n).written = n.text := by
  simp [Value.written, Value.compact]

@[simp] theorem written_string (s : String) : (Value.string s).written = quote s := by
  simp [Value.written, Value.compact]

end Value

/-- A character that opens the text of a value. -/
def OpensValue (c : Char) : Prop :=
  c = 'n' ∨ c = 't' ∨ c = 'f' ∨ c = '"' ∨ c = '-' ∨ ('0' ≤ c && c ≤ '9') = true ∨ c = '[' ∨ c = '\x7b'

theorem OpensValue.not_blank {c : Char} (opens : OpensValue c) :
    (c == ' ' || c == '\n' || c == '\t' || c == '\r') = false := by
  rcases opens with rfl | rfl | rfl | rfl | rfl | digit | rfl | rfl
  all_goals first | rfl | skip
  simp only [Bool.or_eq_false_iff, beq_eq_false_iff_ne]
  refine ⟨⟨⟨?_, ?_⟩, ?_⟩, ?_⟩ <;> rintro rfl <;> revert digit <;> decide

theorem OpensValue.ne_close {c : Char} (opens : OpensValue c) : c ≠ ']' := by
  rcases opens with rfl | rfl | rfl | rfl | rfl | digit | rfl | rfl
  all_goals first | decide | (rintro rfl; revert digit; decide)

theorem skipBlanks_cons {c : Char} (solid : (c == ' ' || c == '\n' || c == '\t' || c == '\r') = false)
    (cs : List Char) (k : Nat) : Cursor.skipBlanks ⟨c :: cs, k⟩ = ⟨c :: cs, k⟩ := by
  rw [Cursor.skipBlanks, if_neg (by rw [solid]; decide)]

theorem skipBlanks_of_opens {c : Char} (opens : OpensValue c) (cs : List Char) (k : Nat) :
    Cursor.skipBlanks ⟨c :: cs, k⟩ = ⟨c :: cs, k⟩ :=
  skipBlanks_cons opens.not_blank cs k

/-! ### One value -/

/-- A literal word, read where it stands. -/
theorem readWord_self (word : String) (value : Value) (rest : List Char) (k : Nat) :
    readWord word value ⟨word.toList ++ rest, k⟩ = .ok (value, ⟨rest, k + word.length⟩) := by
  have matched : ∀ w : List Char, ((w.zip (w ++ rest)).takeWhile fun pair => pair.1 == pair.2).length = w.length := by
    intro w
    induction w with
    | nil => rfl
    | cons c w ih => simp [ih]
  simp [readWord, matched, Cursor.advance, String.length_toList]

theorem readValue_null (fuel depth : Nat) (rest : List Char) (k : Nat) :
    readValue (fuel + 1) depth ⟨Value.null.written.toList ++ rest, k⟩ = .ok (.null, ⟨rest, k + Value.null.written.length⟩) := by
  have word := readWord_self "null" .null rest k
  simp only [Value.written_null] at word ⊢
  unfold readValue
  simpa [Cursor.skipBlanks] using word

theorem readValue_bool (b : Bool) (fuel depth : Nat) (rest : List Char) (k : Nat) :
    readValue (fuel + 1) depth ⟨(Value.bool b).written.toList ++ rest, k⟩ =
      .ok (.bool b, ⟨rest, k + (Value.bool b).written.length⟩) := by
  cases b with
  | true =>
    have word := readWord_self "true" (.bool true) rest k
    simp only [Value.written_bool, if_true] at word ⊢
    unfold readValue
    simpa [Cursor.skipBlanks] using word
  | false =>
    have word := readWord_self "false" (.bool false) rest k
    simp only [Value.written_bool] at word ⊢
    unfold readValue
    simpa [Cursor.skipBlanks] using word

/-- A text that starts with a minus or a digit is read as a number. -/
theorem readValue_of_number {c : Char} {cs : List Char} {k : Nat} {n : Number} {after : Cursor}
    (starts : c = '-' ∨ ('0' ≤ c && c ≤ '9') = true) (read : readNumber ⟨c :: cs, k⟩ = .ok (n, after))
    (fuel depth : Nat) : readValue (fuel + 1) depth ⟨c :: cs, k⟩ = .ok (.number n, after) := by
  have opens : OpensValue c := by
    rcases starts with rfl | digit
    · exact .inr (.inr (.inr (.inr (.inl rfl))))
    · exact .inr (.inr (.inr (.inr (.inr (.inl digit)))))
  have notWord : (c == 'n') = false ∧ (c == 't') = false ∧ (c == 'f') = false ∧ (c == '"') = false := by
    simp only [beq_eq_false_iff_ne]
    rcases starts with rfl | digit
    · decide
    · refine ⟨?_, ?_, ?_, ?_⟩ <;> rintro rfl <;> revert digit <;> decide
  have number : (c == '-' || ('0' ≤ c && c ≤ '9')) = true := by
    rcases starts with rfl | digit
    · rfl
    · simp [digit]
  unfold readValue
  rw [skipBlanks_of_opens opens]
  simp only [notWord, number, read, Bool.false_eq_true, if_false, if_true]

theorem escapeChar_length_pos (c : Char) : 0 < (escapeChar c).length := by
  unfold escapeChar
  split
  all_goals try split_ifs
  all_goals first | decide | simp

theorem length_le_escaped (cs : List Char) : cs.length ≤ (String.join (cs.map escapeChar)).length := by
  induction cs with
  | nil => simp
  | cons c cs ih =>
    have := escapeChar_length_pos c
    simp only [List.map_cons, String.join_cons, String.length_append, List.length_cons]
    omega

theorem quote_length (s : String) : (quote s).length = (String.join (s.toList.map escapeChar)).length + 2 := by
  simp only [quote, String.length_append]
  have quoteLength : "\"".length = 1 := rfl
  omega

theorem quote_toList (s : String) :
    (quote s).toList = '"' :: ((String.join (s.toList.map escapeChar)).toList ++ ['"']) := by
  simp [quote]

/-- A quoted text, read from after its opening quote. -/
theorem readStringChars_quoted (s : String) (tail : List Char) (k fuel : Nat)
    (enough : (String.join (s.toList.map escapeChar)).length < fuel) :
    readStringChars fuel [] ⟨(String.join (s.toList.map escapeChar)).toList ++ '"' :: tail, k + 1⟩ =
      .ok (s, ⟨tail, k + (quote s).length⟩) := by
  have short := length_le_escaped s.toList
  rw [String.length_toList] at short
  rw [readStringChars_escaped tail s.toList [] (k + 1) fuel (by rw [String.length_toList]; omega),
    quote_length]
  simp only [List.reverse_nil, List.nil_append, String.ofList_toList]
  congr 3
  omega

theorem readValue_string (s : String) (fuel depth : Nat) (rest : List Char) (k : Nat) :
    readValue (fuel + 1) depth ⟨(Value.string s).written.toList ++ rest, k⟩ =
      .ok (.string s, ⟨rest, k + (Value.string s).written.length⟩) := by
  simp only [Value.written_string]
  rw [quote_toList, List.cons_append, List.append_assoc, List.singleton_append]
  unfold readValue
  rw [skipBlanks_of_opens (.inr (.inr (.inr (.inl rfl))))]
  simp only [Cursor.advance, List.drop_succ_cons, List.drop_zero]
  rw [readStringChars_quoted s rest k _ (by simp only [List.length_cons, List.length_append, String.length_toList]; omega)]
  simp

theorem readValue_array_nil (fuel depth : Nat) (rest : List Char) (k : Nat) :
    readValue (fuel + 1) (depth + 1) ⟨(Value.array []).written.toList ++ rest, k⟩ =
      .ok (.array [], ⟨rest, k + (Value.array []).written.length⟩) := by
  unfold readValue
  simp [Cursor.skipBlanks, Cursor.advance]
  rfl

theorem readValue_array_open {c : Char} {more : List Char} (first : more.head? = some c) (opens : OpensValue c)
    (fuel depth k : Nat) :
    readValue (fuel + 1) (depth + 1) ⟨'[' :: more, k⟩ = readItems fuel depth [] ⟨more, k + 1⟩ := by
  obtain ⟨cs, rfl⟩ := List.head?_eq_some_iff.mp first
  unfold readValue
  rw [skipBlanks_of_opens (.inr (.inr (.inr (.inr (.inr (.inr (.inl rfl)))))))]
  simp only [Cursor.advance, List.drop_succ_cons, List.drop_zero]
  rw [skipBlanks_of_opens opens]
  simp only [Char.reduceBEq, Char.reduceLE, decide_true, decide_false, Bool.and_false, Bool.or_false,
    Bool.false_eq_true, ↓reduceIte]
  split
  · next tail same => exact absurd (List.cons.inj same).1 opens.ne_close
  · next same => cases same
  · rfl

theorem readValue_object_nil (fuel depth : Nat) (rest : List Char) (k : Nat) :
    readValue (fuel + 1) (depth + 1) ⟨(Value.object []).written.toList ++ rest, k⟩ =
      .ok (.object [], ⟨rest, k + (Value.object []).written.length⟩) := by
  unfold readValue
  simp [Cursor.skipBlanks, Cursor.advance]
  rfl

theorem readValue_object_open (cs : List Char) (fuel depth k : Nat) :
    readValue (fuel + 1) (depth + 1) ⟨'\x7b' :: '"' :: cs, k⟩ = readFields fuel depth [] ⟨'"' :: cs, k + 1⟩ := by
  unfold readValue
  rw [skipBlanks_of_opens (.inr (.inr (.inr (.inr (.inr (.inr (.inr rfl)))))))]
  simp only [Cursor.advance, List.drop_succ_cons, List.drop_zero]
  rw [skipBlanks_of_opens (.inr (.inr (.inr (.inl rfl))))]
  simp only [Char.reduceBEq, Char.reduceLE, decide_true, decide_false, Bool.and_false, Bool.or_false,
    Bool.false_eq_true, ↓reduceIte]
  rfl

/-! ### Items and fields -/

/-- The last item of an array, read up to its closing bracket. -/
theorem readItems_last {fuel depth k : Nat} {acc : List Value} {cur : Cursor} {item : Value}
    {rest : List Char} (read : readValue fuel depth cur = .ok (item, ⟨']' :: rest, k⟩)) :
    readItems (fuel + 1) depth acc cur = .ok (.array (item :: acc).reverse, ⟨rest, k + 1⟩) := by
  unfold readItems
  rw [read]
  dsimp only
  rw [skipBlanks_cons rfl]
  simp [Cursor.advance]

/-- An item of an array followed by a comma and another item. -/
theorem readItems_next {fuel depth k : Nat} {acc : List Value} {cur : Cursor} {item : Value} {c : Char}
    {more : List Char} (first : more.head? = some c) (opens : OpensValue c)
    (read : readValue fuel depth cur = .ok (item, ⟨',' :: more, k⟩)) :
    readItems (fuel + 1) depth acc cur = readItems fuel depth (item :: acc) ⟨more, k + 1⟩ := by
  obtain ⟨cs, rfl⟩ := List.head?_eq_some_iff.mp first
  conv_lhs => unfold readItems
  rw [read]
  dsimp only
  rw [skipBlanks_cons rfl]
  simp only [Cursor.advance, List.drop_succ_cons, List.drop_zero]
  rw [skipBlanks_of_opens opens]
  split
  · next tail same => exact absurd (List.cons.inj same).1 opens.ne_close
  · rfl

/-- The last field of an object, read up to its closing brace. -/
theorem readFields_last {fuel depth k k' : Nat} {acc : List (String × Value)} {key : String}
    {tail rest : List Char} {value : Value} (fresh : ∀ field ∈ acc, field.1 ≠ key)
    (read : readValue fuel depth ⟨tail, k + (quote key).length + 1⟩ = .ok (value, ⟨'\x7d' :: rest, k'⟩)) :
    readFields (fuel + 1) depth acc ⟨(quote key).toList ++ ':' :: tail, k⟩ =
      .ok (.object ((key, value) :: acc).reverse, ⟨rest, k' + 1⟩) := by
  have kept : (acc.filter fun field => field.1 != key) = acc :=
    List.filter_eq_self.mpr fun field inside => by simpa using fresh field inside
  conv_lhs => unfold readFields
  rw [quote_toList, List.cons_append, List.append_assoc, List.singleton_append,
    skipBlanks_of_opens (.inr (.inr (.inr (.inl rfl))))]
  dsimp only
  simp only [Cursor.advance, List.drop_succ_cons, List.drop_zero]
  rw [readStringChars_quoted key _ k _ (by simp only [List.length_cons, List.length_append, String.length_toList]; omega)]
  dsimp only
  rw [skipBlanks_cons rfl]
  dsimp only
  split
  · next rest' same =>
    cases same
    simp only [List.drop_succ_cons, List.drop_zero]
    rw [read]
    dsimp only
    rw [skipBlanks_cons rfl, kept]
    rfl
  · next same => cases same
  · next _ notColon _ => exact absurd rfl (notColon tail)

/-- A field of an object followed by a comma and another field. -/
theorem readFields_next {fuel depth k k' : Nat} {acc : List (String × Value)} {key : String}
    {tail more : List Char} {value : Value} (fresh : ∀ field ∈ acc, field.1 ≠ key)
    (read : readValue fuel depth ⟨tail, k + (quote key).length + 1⟩ = .ok (value, ⟨',' :: '"' :: more, k'⟩)) :
    readFields (fuel + 1) depth acc ⟨(quote key).toList ++ ':' :: tail, k⟩ =
      readFields fuel depth ((key, value) :: acc) ⟨'"' :: more, k' + 1⟩ := by
  have kept : (acc.filter fun field => field.1 != key) = acc :=
    List.filter_eq_self.mpr fun field inside => by simpa using fresh field inside
  conv_lhs => unfold readFields
  rw [quote_toList, List.cons_append, List.append_assoc, List.singleton_append,
    skipBlanks_of_opens (.inr (.inr (.inr (.inl rfl))))]
  dsimp only
  simp only [Cursor.advance, List.drop_succ_cons, List.drop_zero]
  rw [readStringChars_quoted key _ k _ (by simp only [List.length_cons, List.length_append, String.length_toList]; omega)]
  dsimp only
  rw [skipBlanks_cons rfl]
  dsimp only
  split
  · next rest' same =>
    cases same
    simp only [List.drop_succ_cons, List.drop_zero]
    rw [read]
    dsimp only
    rw [skipBlanks_cons rfl, kept]
    simp only [List.drop_succ_cons, List.drop_zero]
    rw [skipBlanks_of_opens (.inr (.inr (.inr (.inl rfl))))]
    rfl
  · next same => cases same
  · next _ notColon _ => exact absurd rfl (notColon tail)

/-! ### Values the text keeps -/

namespace Value

/-- A value that its written text keeps exactly: no floats, each integer within the range of its
kind, and no object with a repeated key (reading keeps only the last of them). -/
inductive Exact : Value → Prop
  | null : Exact .null
  | bool (b : Bool) : Exact (.bool b)
  | nat {n : Nat} (fits : n < Nat.pow 2 64) : Exact (.number (.nat n))
  | neg {n : Int} (negative : n < 0) (fits : -Int.pow 2 63 ≤ n) : Exact (.number (.neg n))
  | string (s : String) : Exact (.string s)
  | array {items : List Value} (each : ∀ v ∈ items, Exact v) : Exact (.array items)
  | object {fields : List (String × Value)} (distinct : (fields.map (·.1)).Nodup)
      (each : ∀ field ∈ fields, Exact field.2) : Exact (.object fields)

end Value

/-- The text of a value that its written text keeps starts with a character that opens a value. -/
theorem Value.Exact.opens {v : Value} (exact : v.Exact) :
    ∃ c, v.written.toList.head? = some c ∧ OpensValue c := by
  cases exact with
  | null => exact ⟨'n', by simp, .inl rfl⟩
  | bool b => cases b <;> simp [OpensValue]
  | @nat n fits =>
    cases digits : Nat.toDigits 10 n with
    | nil => exact absurd digits Nat.toDigits_ne_nil
    | cons first more =>
      refine ⟨first, by simp [Number.text, digits], .inr (.inr (.inr (.inr (.inr (.inl ?_)))))⟩
      exact digit_of_mem_toDigits (by rw [digits]; exact List.mem_cons_self)
  | @neg n negative fits =>
    cases n with
    | ofNat m => exact absurd negative (by simp)
    | negSucc m =>
      have text : toString (Int.negSucc m) = "-" ++ toString (m + 1) := rfl
      exact ⟨'-', by simp [Number.text, text], .inr (.inr (.inr (.inr (.inl rfl))))⟩
  | string s => exact ⟨'"', by simp [quote_toList], .inr (.inr (.inr (.inl rfl)))⟩
  | array each => exact ⟨'[', by simp, .inr (.inr (.inr (.inr (.inr (.inr (.inl rfl))))))⟩
  | object distinct each => exact ⟨'\x7b', by simp, .inr (.inr (.inr (.inr (.inr (.inr (.inr rfl))))))⟩

theorem Value.Exact.written_length_pos {v : Value} (exact : v.Exact) : 0 < v.written.length := by
  obtain ⟨c, first, -⟩ := exact.opens
  obtain ⟨cs, text⟩ := List.head?_eq_some_iff.mp first
  rw [← String.length_toList, text]
  exact Nat.zero_lt_succ _

theorem readValue_nat {n : Nat} (fits : n < Nat.pow 2 64) (fuel depth : Nat) {rest : List Char}
    (ends : EndsValue rest) (k : Nat) :
    readValue (fuel + 1) depth ⟨(Value.number (.nat n)).written.toList ++ rest, k⟩ =
      .ok (.number (.nat n), ⟨rest, k + (Value.number (.nat n)).written.length⟩) := by
  simp only [Value.written_number, Number.text]
  have read := readNumber_nat fits ends k
  rw [Nat.toString_eq_repr, Nat.toList_repr] at read ⊢
  cases digits : Nat.toDigits 10 n with
  | nil => exact absurd digits Nat.toDigits_ne_nil
  | cons first more =>
    rw [digits, List.cons_append] at read
    rw [List.cons_append]
    exact readValue_of_number (.inr (digit_of_mem_toDigits (by rw [digits]; exact List.mem_cons_self))) read fuel depth

theorem readValue_neg {n : Int} (negative : n < 0) (fits : -Int.pow 2 63 ≤ n) (fuel depth : Nat)
    {rest : List Char} (ends : EndsValue rest) (k : Nat) :
    readValue (fuel + 1) depth ⟨(Value.number (.neg n)).written.toList ++ rest, k⟩ =
      .ok (.number (.neg n), ⟨rest, k + (Value.number (.neg n)).written.length⟩) := by
  simp only [Value.written_number, Number.text]
  have read := readNumber_neg negative fits ends k
  cases n with
  | ofNat m => exact absurd negative (by simp)
  | negSucc m =>
    have text : toString (Int.negSucc m) = "-" ++ toString (m + 1) := rfl
    rw [text, String.toList_append] at read ⊢
    exact readValue_of_number (.inl rfl) read fuel depth

/-- Text of items joined by commas: the first item's text, then the rest. -/
theorem intercalate_toList_cons (a : String) (l : List String) :
    ∃ tail, (",".intercalate (a :: l)).toList = a.toList ++ tail := by
  cases l with
  | nil => exact ⟨[], by simp [String.intercalate_singleton]⟩
  | cons b l =>
    exact ⟨_, by rw [String.intercalate_cons_cons, String.toList_append, String.toList_append, List.append_assoc]⟩

theorem head?_intercalate {a : String} {c : Char} (l : List String) (first : a.toList.head? = some c) (rest : List Char) :
    ((",".intercalate (a :: l)).toList ++ rest).head? = some c := by
  obtain ⟨tail, text⟩ := intercalate_toList_cons a l
  obtain ⟨cs, starts⟩ := List.head?_eq_some_iff.mp first
  rw [text, starts]
  rfl

/-- The text of fields joined by commas. -/
abbrev fieldsText (fields : List (String × Value)) : String :=
  ",".intercalate (fields.map fun field => quote field.1 ++ ":" ++ field.2.written)

theorem written_array_toList (items : List Value) :
    (Value.array items).written.toList = '[' :: ((",".intercalate (items.map Value.written)).toList ++ [']']) := by
  simp only [Value.written_array, String.toList_append]
  rfl

theorem written_array_length (items : List Value) :
    (Value.array items).written.length = (",".intercalate (items.map Value.written)).length + 2 := by
  rw [← String.length_toList, written_array_toList, List.length_cons, List.length_append, String.length_toList]
  rfl

theorem head?_fieldsText (field : String × Value) (fields : List (String × Value)) (rest : List Char) :
    ((fieldsText (field :: fields)).toList ++ rest).head? = some '"' := by
  rw [fieldsText, List.map_cons]
  exact head?_intercalate _ (by simp [quote_toList]) rest

theorem written_object_toList (fields : List (String × Value)) :
    (Value.object fields).written.toList = '\x7b' :: ((fieldsText fields).toList ++ ['\x7d']) := by
  simp only [Value.written_object, String.toList_append]
  rfl

theorem written_object_length (fields : List (String × Value)) :
    (Value.object fields).written.length = (fieldsText fields).length + 2 := by
  rw [← String.length_toList, written_object_toList, List.length_cons, List.length_append, String.length_toList]
  rfl

mutual

/-- Written text reads back as the value it was written from, when the value's nesting stays
within the depth allowed and the fuel covers the text; what follows is left unread. -/
theorem readValue_written : ∀ (v : Value), v.Exact → ∀ (fuel depth : Nat) (rest : List Char) (k : Nat),
    v.depth ≤ depth → v.written.length ≤ fuel → EndsValue rest →
      readValue fuel depth ⟨v.written.toList ++ rest, k⟩ = .ok (v, ⟨rest, k + v.written.length⟩)
  -- each container read spends one of the depth and one of the fuel, and its text is longer
  -- than the text of what it holds
  | v, exact, 0, _, _, _, _, enough, _ => absurd enough (by have := exact.written_length_pos; omega)
  | .null, _, fuel + 1, depth, rest, k, _, _, _ => readValue_null fuel depth rest k
  | .bool b, _, fuel + 1, depth, rest, k, _, _, _ => readValue_bool b fuel depth rest k
  | .number (.nat _), .nat fits, fuel + 1, depth, _, k, _, _, ends => readValue_nat fits fuel depth ends k
  | .number (.neg _), .neg negative fits, fuel + 1, depth, _, k, _, _, ends =>
    readValue_neg negative fits fuel depth ends k
  | .string s, _, fuel + 1, depth, rest, k, _, _, _ => readValue_string s fuel depth rest k
  | .array _, _, _ + 1, 0, _, _, deep, _, _ => absurd deep (by simp [Value.depth])
  | .array [], _, fuel + 1, depth + 1, rest, k, _, _, _ => readValue_array_nil fuel depth rest k
  | .array (x :: xs), .array each, fuel + 1, depth + 1, rest, k, deep, enough, _ => by
    obtain ⟨c, first, opens⟩ := (each x List.mem_cons_self).opens
    rw [written_array_length] at enough ⊢
    have items := readItems_written (x :: xs) (List.cons_ne_nil x xs) each fuel depth [] rest (k + 1)
      (by simpa [Value.depth] using deep) (by omega)
    have opened := readValue_array_open (head?_intercalate (xs.map Value.written) first (']' :: rest)) opens fuel depth k
    rw [← List.map_cons] at opened
    rw [written_array_toList, List.cons_append, List.append_assoc, List.singleton_append, opened, items]
    simp only [List.reverse_nil, List.nil_append]
    congr 3
    omega
  | .object _, _, _ + 1, 0, _, _, deep, _, _ => absurd deep (by simp [Value.depth])
  | .object [], _, fuel + 1, depth + 1, rest, k, _, _, _ => readValue_object_nil fuel depth rest k
  | .object (f :: fs), .object distinct each, fuel + 1, depth + 1, rest, k, deep, enough, _ => by
    rw [written_object_length] at enough ⊢
    have fields := readFields_written (f :: fs) (List.cons_ne_nil f fs) each fuel depth [] rest (k + 1)
      (by simpa using distinct) (by simpa [Value.depth] using deep) (by omega)
    obtain ⟨cs, text⟩ := List.head?_eq_some_iff.mp (head?_fieldsText f fs ('\x7d' :: rest))
    rw [written_object_toList, List.cons_append, List.append_assoc, List.singleton_append, text,
      readValue_object_open, ← text, fields]
    simp only [List.reverse_nil, List.nil_append]
    congr 3
    omega

/-- Items joined by commas read back up to the closing bracket, after those already read. -/
theorem readItems_written : ∀ (items : List Value), items ≠ [] → (∀ v ∈ items, v.Exact) →
    ∀ (fuel depth : Nat) (acc : List Value) (rest : List Char) (k : Nat),
    Value.depthOfItems items ≤ depth → (",".intercalate (items.map Value.written)).length + 1 ≤ fuel →
      readItems fuel depth acc ⟨(",".intercalate (items.map Value.written)).toList ++ ']' :: rest, k⟩ =
        .ok (.array (acc.reverse ++ items), ⟨rest, k + (",".intercalate (items.map Value.written)).length + 1⟩)
  | [], nonempty, _, _, _, _, _, _, _, _ => absurd rfl nonempty
  | _ :: _, _, _, 0, _, _, _, _, _, enough => absurd enough (by omega)
  | [x], _, each, fuel + 1, depth, acc, rest, k, deep, enough => by
    have read := readValue_written x (each x List.mem_cons_self) fuel depth (']' :: rest) k
      (by simpa [Value.depthOfItems] using deep) (by simp at enough; omega) (fun c first => by cases first; simp)
    simp only [List.map_cons, List.map_nil, String.intercalate_singleton]
    rw [readItems_last read]
    simp
  | x :: y :: ys, _, each, fuel + 1, depth, acc, rest, k, deep, enough => by
    have joined : (",".intercalate ((x :: y :: ys).map Value.written)).toList =
        x.written.toList ++ ',' :: (",".intercalate ((y :: ys).map Value.written)).toList := by
      rw [List.map_cons, List.map_cons, String.intercalate_cons_cons, String.toList_append, String.toList_append,
        ← List.map_cons, List.append_assoc]
      rfl
    have length : (",".intercalate ((x :: y :: ys).map Value.written)).length =
        x.written.length + 1 + (",".intercalate ((y :: ys).map Value.written)).length := by
      rw [← String.length_toList, joined, List.length_append, List.length_cons, String.length_toList,
        String.length_toList]
      omega
    simp only [Value.depthOfItems, Nat.max_le] at deep
    obtain ⟨c, first, opens⟩ := (each y (List.mem_cons_of_mem x List.mem_cons_self)).opens
    have read := readValue_written x (each x List.mem_cons_self) fuel depth
      (',' :: ((",".intercalate ((y :: ys).map Value.written)).toList ++ ']' :: rest)) k deep.1 (by omega)
      (fun c first => by cases first; simp)
    have more := readItems_written (y :: ys) (List.cons_ne_nil y ys)
      (fun v inside => each v (List.mem_cons_of_mem x inside)) fuel depth (x :: acc) rest (k + x.written.length + 1)
      (by simpa [Value.depthOfItems] using deep.2) (by omega)
    rw [joined, List.append_assoc, List.cons_append,
      readItems_next (head?_intercalate ((ys).map Value.written) first _) opens read]
    rw [List.map_cons] at more
    rw [more, length]
    simp only [List.reverse_cons, List.append_assoc, List.singleton_append, List.map_cons]
    congr 3
    omega

/-- Fields joined by commas read back up to the closing brace, after those already read. -/
theorem readFields_written : ∀ (fields : List (String × Value)), fields ≠ [] → (∀ field ∈ fields, field.2.Exact) →
    ∀ (fuel depth : Nat) (acc : List (String × Value)) (rest : List Char) (k : Nat),
    ((acc.reverse ++ fields).map (·.1)).Nodup → Value.depthOfFields fields ≤ depth →
    (fieldsText fields).length + 1 ≤ fuel →
      readFields fuel depth acc ⟨(fieldsText fields).toList ++ '\x7d' :: rest, k⟩ =
        .ok (.object (acc.reverse ++ fields), ⟨rest, k + (fieldsText fields).length + 1⟩)
  | [], nonempty, _, _, _, _, _, _, _, _, _ => absurd rfl nonempty
  | _ :: _, _, _, 0, _, _, _, _, _, _, enough => absurd enough (by omega)
  | (key, value) :: fs, _, each, fuel + 1, depth, acc, rest, k, distinct, deep, enough => by
    have fresh : ∀ field ∈ acc, field.1 ≠ key := by
      intro field inside same
      rw [List.map_append, List.nodup_append] at distinct
      exact distinct.2.2 field.1 (List.mem_map.mpr ⟨field, List.mem_reverse.mpr inside, rfl⟩) key
        (List.mem_map.mpr ⟨(key, value), List.mem_cons_self, rfl⟩) same
    have field : (quote key ++ ":" ++ value.written).toList = (quote key).toList ++ ':' :: value.written.toList := by
      rw [String.toList_append, String.toList_append, List.append_assoc]
      rfl
    simp only [Value.depthOfFields, Nat.max_le] at deep
    cases fs with
    | nil =>
      have read := readValue_written value (each _ List.mem_cons_self) fuel depth ('\x7d' :: rest)
        (k + (quote key).length + 1) deep.1 (by simp [fieldsText] at enough; omega) (fun c first => by cases first; simp)
      simp only [fieldsText, List.map_cons, List.map_nil, String.intercalate_singleton] at enough ⊢
      rw [field, List.append_assoc, List.cons_append, readFields_last fresh read]
      simp only [List.reverse_cons, String.length_append]
      congr 3
      have : ":".length = 1 := rfl
      omega
    | cons next fs =>
      have joined : (fieldsText ((key, value) :: next :: fs)).toList =
          (quote key).toList ++ ':' :: (value.written.toList ++ ',' :: (fieldsText (next :: fs)).toList) := by
        simp only [fieldsText, List.map_cons]
        rw [String.intercalate_cons_cons, String.toList_append, String.toList_append, field]
        simp only [List.append_assoc, List.cons_append]
        rfl
      have length : (fieldsText ((key, value) :: next :: fs)).length =
          (quote key).length + 1 + value.written.length + 1 + (fieldsText (next :: fs)).length := by
        rw [← String.length_toList, joined]
        simp only [List.length_append, List.length_cons, String.length_toList]
        omega
      obtain ⟨cs, text⟩ := List.head?_eq_some_iff.mp (head?_fieldsText next fs ('\x7d' :: rest))
      have read := readValue_written value (each _ List.mem_cons_self) fuel depth
        (',' :: ((fieldsText (next :: fs)).toList ++ '\x7d' :: rest)) (k + (quote key).length + 1) deep.1
        (by omega) (fun c first => by cases first; simp)
      rw [text] at read
      have more := readFields_written (next :: fs) (List.cons_ne_nil next fs)
        (fun field inside => each field (List.mem_cons_of_mem _ inside)) fuel depth ((key, value) :: acc) rest
        (k + (quote key).length + 1 + value.written.length + 1) (by simpa using distinct)
        (by simpa [Value.depthOfFields] using deep.2) (by omega)
      rw [joined, List.append_assoc, List.cons_append, List.append_assoc, List.cons_append, text,
        readFields_next fresh read, ← text, more, length]
      simp only [List.reverse_cons, List.append_assoc, List.singleton_append]
      congr 3
      omega

end

/-- The written text of a value that its text keeps exactly, nested at most 127 deep, reads
back as the value. -/
theorem Value.read_written {v : Value} (exact : v.Exact) (shallow : v.depth ≤ 127) :
    Value.read v.written = .ok v := by
  have read := readValue_written v exact (2 * v.written.toList.length + 2) 127 [] 0 shallow
    (by rw [String.length_toList]; omega) (fun c first => by cases first)
  rw [List.append_nil] at read
  unfold Value.read
  dsimp only
  rw [read]
  simp [Cursor.skipBlanks]

end Metamodel.Json
