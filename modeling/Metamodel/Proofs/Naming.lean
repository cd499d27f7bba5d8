import Mathlib
import Metamodel.Proofs.Unnamable

/-!
The unit names of a batch are distinct.

A root's unit is named from a base: its simple name, or its module path and simple name when
the plain module names clash. When the base's module or accessor name is taken, the bases
`stem2`, `stem3`, … are tried. Snake case writes a suffix of digits as it is, so the bases tried
have distinct module names, and distinct accessor names; a module name (`…_model`) is never an
accessor name (`…Model`). So among as many bases as names are taken, and two more, one is free,
and the search, bounded by that many tries, always finds one. Every root thus gets a module
and an accessor name that no root before it has.
-/

namespace Metamodel

namespace Text

/-- A code point below every range of a table lies in none of them. -/
theorem inRanges_eq_false_of_lt {ranges : Array (Nat × Nat)} {code : Nat}
    (below : ∀ r ∈ ranges.toList, code < r.1) : inRanges ranges code = false := by
  rw [inRanges, ← Array.any_toList, List.any_eq_false]
  intro r inside within
  have lower := below r inside
  simp only [Bool.and_eq_true, decide_eq_true_eq] at within
  omega

theorem toNat_le_of_isAsciiDigit {c : Char} (digit : isAsciiDigit c = true) : c.toNat ≤ 57 := by
  simp only [isAsciiDigit, Bool.and_eq_true, decide_eq_true_eq] at digit
  exact Fin.mk_le_mk.mp digit.2

/-- No ASCII digit is an uppercase letter. -/
theorem isUpper_of_isAsciiDigit {c : Char} (digit : isAsciiDigit c = true) : isUpper c = false := by
  have table : ∀ r ∈ CaseTable.uppercase.toList, 65 ≤ r.1 := by decide +kernel
  exact inRanges_eq_false_of_lt fun r inside => by
    have := table r inside
    have := toNat_le_of_isAsciiDigit digit
    omega

/-- No ASCII digit is a lowercase letter. -/
theorem isLower_of_isAsciiDigit {c : Char} (digit : isAsciiDigit c = true) : isLower c = false := by
  have table : ∀ r ∈ CaseTable.lowercase.toList, 97 ≤ r.1 := by decide +kernel
  exact inRanges_eq_false_of_lt fun r inside => by
    have := table r inside
    have := toNat_le_of_isAsciiDigit digit
    omega

/-- The decimal digits of a number are ASCII digits. -/
theorem isAsciiDigit_of_mem_toString {n : Nat} {c : Char} (inside : c ∈ (toString n).toList) :
    isAsciiDigit c = true := by
  rw [Nat.toString_eq_ofList_toDigits, String.toList_ofList] at inside
  have digit := Nat.isDigit_of_mem_toDigits (by decide) (by decide) inside
  simp only [Char.isDigit, Bool.and_eq_true, decide_eq_true_eq] at digit
  simp only [isAsciiDigit, Bool.and_eq_true, decide_eq_true_eq]
  exact digit

end Text

/-- Whether snake case writes an underscore before an uppercase letter, from the characters
before and after it: after a lowercase letter or a digit, or after an uppercase letter when a
lowercase one follows. -/
def upperBoundary (prev next : Option Char) : Bool :=
  match prev with
  | some p =>
    if Text.isLower p || Text.isAsciiDigit p then true
    else if Text.isUpper p then (next.map Text.isLower).getD false
    else false
  | none => false

/-- One character of snake case, with the boundary before an uppercase letter read off the
characters around it. -/
theorem snakeCaseChars_cons (prev : Option Char) (c : Char) (rest acc : List Char) :
    snakeCaseChars prev (c :: rest) acc =
      if Text.isUpper c then
        snakeCaseChars (some c) rest ((Text.toLower c).reverse ++
          if upperBoundary prev rest.head? && acc.head? != some '_' then '_' :: acc else acc)
      else snakeCaseChars (some c) rest (c :: acc) := by
  rw [snakeCaseChars.eq_def]
  cases prev <;> cases rest <;> simp only [upperBoundary, List.head?_cons, List.head?_nil, Option.map_some,
    Option.map_none, Option.getD_some, Option.getD_none]
  -- The conditions agree now, but not the instances deciding them, so each side is split.
  all_goals split_ifs <;> simp_all

/-- Characters other than uppercase letters are written as they are. -/
theorem snakeCaseChars_of_not_upper : ∀ {prev : Option Char} {cs acc : List Char},
    (∀ c ∈ cs, Text.isUpper c = false) → snakeCaseChars prev cs acc = acc.reverse ++ cs
  | _, [], acc, _ => by simp [snakeCaseChars]
  | _, c :: rest, acc, plain => by
    have upper : Text.isUpper c = false := plain c List.mem_cons_self
    rw [snakeCaseChars_cons, if_neg (by simp [upper]),
      snakeCaseChars_of_not_upper fun d inside => plain d (List.mem_cons_of_mem c inside)]
    simp

/-- Text with no uppercase letter, whose first character is no lowercase letter either, is
written after what comes before it unchanged, and changes nothing before it. -/
theorem snakeCaseChars_append {ds : List Char} (plain : ∀ d ∈ ds, Text.isUpper d = false)
    (start : ∀ d ∈ ds.head?, Text.isLower d = false) :
    ∀ {prev : Option Char} {cs acc : List Char},
      snakeCaseChars prev (cs ++ ds) acc = snakeCaseChars prev cs acc ++ ds
  | _, [], acc => by rw [List.nil_append, snakeCaseChars_of_not_upper plain, snakeCaseChars]
  | prev, c :: rest, acc => by
    -- An uppercase letter looks at the character after it, which `ds` gives only when `rest`
    -- is empty; a character that is no lowercase letter makes no boundary, as the end does not.
    have next : upperBoundary prev (rest ++ ds).head? = upperBoundary prev rest.head? := by
      cases rest with
      | cons n more => rfl
      | nil =>
        cases ds with
        | nil => rfl
        | cons d more => simp [upperBoundary, start d rfl]
    rw [List.cons_append, snakeCaseChars_cons, snakeCaseChars_cons, next]
    split <;> exact snakeCaseChars_append plain start

/-- A number written after a name is written after its snake case. -/
theorem snakeCase_append_toString (stem : String) (n : Nat) :
    snakeCase (stem ++ toString n) = snakeCase stem ++ toString n := by
  have digits : ∀ d ∈ (toString n).toList, Text.isAsciiDigit d = true := fun d inside =>
    Text.isAsciiDigit_of_mem_toString inside
  rw [snakeCase, snakeCase, String.toList_append,
    snakeCaseChars_append (fun d inside => Text.isUpper_of_isAsciiDigit (digits d inside))
      (fun d inside => Text.isLower_of_isAsciiDigit (digits d (List.mem_of_mem_head? inside))),
    String.ofList_append, String.ofList_toList]

/-- The base tried at a counter: the stem itself first, then the stem with the counter. -/
def candidateBase (stem : String) (counter : Nat) : String :=
  if counter == 1 then stem else stem ++ toString counter

/-- A base is free when neither its module nor its accessor name is taken. -/
def FreeBase (taken : List String) (base : String) : Prop :=
  moduleName base ∉ taken ∧ accessorName base ∉ taken

theorem freeBase_succ (taken : List String) (stem : String) (fuel counter : Nat) :
    freeBase taken stem (fuel + 1) counter =
      if taken.contains (moduleName (candidateBase stem counter)) ||
          taken.contains (accessorName (candidateBase stem counter)) then
        freeBase taken stem fuel (counter + 1)
      else candidateBase stem counter := rfl

/-- The search finds a free base when one of the bases it tries is free. -/
theorem freeBase_free {taken : List String} {stem : String} :
    ∀ {fuel counter : Nat}, (∃ j < fuel, FreeBase taken (candidateBase stem (counter + j))) →
      FreeBase taken (freeBase taken stem fuel counter)
  | 0, _, ⟨j, beyond, _⟩ => absurd beyond (Nat.not_lt_zero j)
  | fuel + 1, counter, ⟨j, within, free⟩ => by
    rw [freeBase_succ]
    split
    · next blocked =>
      -- The base at `counter` is taken, so the free one comes later.
      cases j with
      | zero =>
        simp only [Nat.add_zero] at free
        simp [free.1, free.2] at blocked
      | succ j =>
        refine freeBase_free ⟨j, by omega, ?_⟩
        rwa [show counter + 1 + j = counter + (j + 1) by omega]
    · next unblocked =>
      simpa [FreeBase] using unblocked

theorem moduleName_candidateBase_of_ne {stem : String} {counter : Nat} (later : counter ≠ 1) :
    moduleName (candidateBase stem counter) = snakeCase stem ++ toString counter ++ "_model" := by
  rw [candidateBase, if_neg (by simpa using later), moduleName, snakeCase_append_toString]

/-- Distinct counters give bases of distinct module names. -/
theorem moduleName_candidateBase_injective {stem : String} {m n : Nat}
    (same : moduleName (candidateBase stem m) = moduleName (candidateBase stem n)) : m = n := by
  -- The stem's module name is shorter than any with a number written after the stem.
  have shorter : ∀ k, k ≠ 1 → moduleName (candidateBase stem 1) ≠ moduleName (candidateBase stem k) := by
    intro k later equal
    rw [moduleName_candidateBase_of_ne later] at equal
    have lengths := congrArg String.length equal
    simp only [candidateBase, beq_self_eq_true, if_true, moduleName, String.length_append] at lengths
    have written : (toString k).length ≠ 0 := by
      simp [String.length_eq_zero_iff, Nat.repr_ne_empty]
    omega
  by_cases first : m = 1 <;> by_cases second : n = 1
  · omega
  · exact absurd (first ▸ same) (shorter n second)
  · exact absurd (second ▸ same).symm (shorter m first)
  · rw [moduleName_candidateBase_of_ne first, moduleName_candidateBase_of_ne second,
      String.append_left_inj, String.append_right_inj, Nat.toString_eq_repr, Nat.toString_eq_repr] at same
    exact Nat.repr_inj.mp same

/-- Distinct counters give bases of distinct accessor names. -/
theorem accessorName_candidateBase_injective {stem : String} {m n : Nat}
    (same : accessorName (candidateBase stem m) = accessorName (candidateBase stem n)) : m = n := by
  rw [accessorName, accessorName, String.append_left_inj] at same
  by_cases first : m = 1 <;> by_cases second : n = 1
  · omega
  · rw [candidateBase, candidateBase, if_pos (by simpa using first), if_neg (by simpa using second)] at same
    have lengths := congrArg String.length same
    have written : (toString n).length ≠ 0 := by
      simp [String.length_eq_zero_iff, Nat.repr_ne_empty]
    simp only [String.length_append] at lengths
    omega
  · rw [candidateBase, candidateBase, if_neg (by simpa using first), if_pos (by simpa using second)] at same
    have lengths := congrArg String.length same
    have written : (toString m).length ≠ 0 := by
      simp [String.length_eq_zero_iff, Nat.repr_ne_empty]
    simp only [String.length_append] at lengths
    omega
  · rw [candidateBase, candidateBase, if_neg (by simpa using first), if_neg (by simpa using second),
      String.append_right_inj, Nat.toString_eq_repr, Nat.toString_eq_repr] at same
    exact Nat.repr_inj.mp same

/-- A module name, ending in `_model`, is no accessor name, ending in `Model`. -/
theorem moduleName_ne_accessorName (a b : String) : moduleName a ≠ accessorName b := by
  intro same
  have reversed := congrArg (fun s : String => s.toList.reverse) same
  simp [moduleName, accessorName] at reversed

/-- Among as many bases as names are taken, and two more, one is free: each taken name is the
module name of at most one base tried, or the accessor name of at most one, never both. -/
theorem exists_freeBase (taken : List String) (stem : String) :
    ∃ j < taken.length + 2, FreeBase taken (candidateBase stem (1 + j)) := by
  by_contra none
  have blocked : ∀ j < taken.length + 2, ¬FreeBase taken (candidateBase stem (1 + j)) :=
    fun j within free => none ⟨j, within, free⟩
  -- The name that blocks each base tried: its module name if taken, else its accessor name.
  let blocking : Nat → String := fun j =>
    if moduleName (candidateBase stem (1 + j)) ∈ taken then moduleName (candidateBase stem (1 + j))
    else accessorName (candidateBase stem (1 + j))
  have taken_of : ∀ j < taken.length + 2, blocking j ∈ taken := by
    intro j within
    have notFree := blocked j within
    simp only [FreeBase, not_and, not_not] at notFree
    by_cases module : moduleName (candidateBase stem (1 + j)) ∈ taken
    · simp [blocking, module]
    · simpa [blocking, module] using notFree module
  have injective : Set.InjOn blocking (Finset.range (taken.length + 2) : Set Nat) := by
    intro j _ k _ same
    simp only [blocking] at same
    split_ifs at same with first second second
    · have := moduleName_candidateBase_injective same
      omega
    · exact absurd same (moduleName_ne_accessorName _ _)
    · exact absurd same.symm (moduleName_ne_accessorName _ _)
    · have := accessorName_candidateBase_injective same
      omega
  have maps : Set.MapsTo blocking (Finset.range (taken.length + 2) : Set Nat) (taken.toFinset : Set String) :=
    fun j inside => by simpa using taken_of j (by simpa using inside)
  have counted := Finset.card_le_card_of_injOn blocking maps injective
  rw [Finset.card_range] at counted
  have := List.toFinset_card_le taken
  omega

/-- The search for a base, as naming runs it, gives a free base. -/
theorem freeBase_naming_free (taken : List String) (stem : String) :
    FreeBase taken (freeBase taken stem (taken.length + 2) 1) :=
  freeBase_free (exists_freeBase taken stem)

/-- One root's naming as a batch runs it: the stem, the first free base from it, and the names
the base takes. -/
def nameStep (plainModules : List String) (acc : List String × List (QualifiedName × UnitName))
    (root : QualifiedName) : List String × List (QualifiedName × UnitName) :=
  let stem := if plainModules.count (moduleName root.simpleName) > 1 then disambiguatedName root
    else root.simpleName
  let base := freeBase acc.1 stem (acc.1.length + 2) 1
  (accessorName base :: moduleName base :: acc.1, acc.2 ++ [(root, ⟨moduleName base, accessorName base⟩)])

theorem unitNames_eq (roots : List QualifiedName) :
    unitNames roots = ((sortedRoots roots).foldl
      (nameStep ((sortedRoots roots).map fun root => moduleName root.simpleName)) ([], [])).2 := rfl

/-- A root is named from a free base, whose names are then taken. -/
theorem nameStep_eq (plainModules : List String) (acc : List String × List (QualifiedName × UnitName))
    (root : QualifiedName) : ∃ base, FreeBase acc.1 base ∧ nameStep plainModules acc root =
      (accessorName base :: moduleName base :: acc.1, acc.2 ++ [(root, ⟨moduleName base, accessorName base⟩)]) :=
  ⟨_, freeBase_naming_free _ _, rfl⟩

/-- What naming keeps of the names given: each unit is named from a base, its names are taken,
and no two units share a module or an accessor name. -/
structure NamesTaken (acc : List String × List (QualifiedName × UnitName)) : Prop where
  based : ∀ p ∈ acc.2, ∃ base, p.2 = ⟨moduleName base, accessorName base⟩
  taken : ∀ p ∈ acc.2, p.2.module ∈ acc.1 ∧ p.2.accessor ∈ acc.1
  modules : (acc.2.map (·.2.module)).Nodup
  accessors : (acc.2.map (·.2.accessor)).Nodup

theorem NamesTaken.start : NamesTaken ([], []) :=
  ⟨nofun, nofun, List.nodup_nil, List.nodup_nil⟩

/-- Naming one more root keeps the names distinct: its base is free. -/
theorem NamesTaken.step {acc : List String × List (QualifiedName × UnitName)} (named : NamesTaken acc)
    (plainModules : List String) (root : QualifiedName) : NamesTaken (nameStep plainModules acc root) := by
  obtain ⟨base, ⟨moduleFree, accessorFree⟩, stepped⟩ := nameStep_eq plainModules acc root
  rw [stepped]
  refine ⟨fun p inside => ?_, fun p inside => ?_, ?_, ?_⟩
  · rcases List.mem_append.mp inside with old | new
    · exact named.based p old
    · exact ⟨base, by rw [List.mem_singleton.mp new]⟩
  · rcases List.mem_append.mp inside with old | new
    · obtain ⟨module, accessor⟩ := named.taken p old
      exact ⟨List.mem_cons_of_mem _ (List.mem_cons_of_mem _ module),
        List.mem_cons_of_mem _ (List.mem_cons_of_mem _ accessor)⟩
    · rw [List.mem_singleton.mp new]
      exact ⟨List.mem_cons_of_mem _ List.mem_cons_self, List.mem_cons_self⟩
  · rw [List.map_append, List.nodup_append]
    refine ⟨named.modules, List.nodup_singleton _, fun m old m' new same => ?_⟩
    obtain ⟨p, inside, rfl⟩ := List.mem_map.mp old
    rw [List.map_singleton, List.mem_singleton] at new
    rw [new] at same
    have taken := (named.taken p inside).1
    rw [same] at taken
    exact moduleFree taken
  · rw [List.map_append, List.nodup_append]
    refine ⟨named.accessors, List.nodup_singleton _, fun a old a' new same => ?_⟩
    obtain ⟨p, inside, rfl⟩ := List.mem_map.mp old
    rw [List.map_singleton, List.mem_singleton] at new
    rw [new] at same
    have taken := (named.taken p inside).2
    rw [same] at taken
    exact accessorFree taken

/-- Naming roots in turn keeps the names distinct, and names the roots in their order. -/
theorem foldl_nameStep (plainModules : List String) : ∀ (l : List QualifiedName)
    {acc : List String × List (QualifiedName × UnitName)}, NamesTaken acc →
      NamesTaken (l.foldl (nameStep plainModules) acc) ∧
        (l.foldl (nameStep plainModules) acc).2.map (·.1) = acc.2.map (·.1) ++ l
  | [], _, named => ⟨named, by simp⟩
  | root :: l, acc, named => by
    obtain ⟨later, order⟩ := foldl_nameStep plainModules l (named.step plainModules root)
    refine ⟨later, ?_⟩
    obtain ⟨base, -, stepped⟩ := nameStep_eq plainModules acc root
    rw [List.foldl_cons, order, stepped]
    simp

/-- Naming roots names each of them once, in sorted order, from a base, with a module and an
accessor name no other root has. -/
theorem unitNames_spec (roots : List QualifiedName) :
    (unitNames roots).map (·.1) = sortedRoots roots ∧ ((unitNames roots).map (·.2.module)).Nodup ∧
      ((unitNames roots).map (·.2.accessor)).Nodup ∧
      ∀ p ∈ unitNames roots, ∃ base, p.2 = ⟨moduleName base, accessorName base⟩ := by
  obtain ⟨named, order⟩ := foldl_nameStep ((sortedRoots roots).map fun root => moduleName root.simpleName)
    (sortedRoots roots) NamesTaken.start
  rw [unitNames_eq]
  exact ⟨by simpa using order, named.modules, named.accessors, named.based⟩

/-- Names with the same text are the same. -/
theorem QualifiedName.eq_of_text {a b : QualifiedName} (same : a.text = b.text) : a = b := by
  cases a
  cases b
  cases same
  rfl

/-- Roots strictly in order of name are sorted already, and without repetitions. -/
theorem sortedRoots_of_sorted {roots : List QualifiedName} (sorted : roots.Pairwise (·.text < ·.text)) :
    sortedRoots roots = roots := by
  have kept : roots.mergeSort (fun a b => decide (a.text ≤ b.text)) = roots :=
    List.mergeSort_of_pairwise (sorted.imp fun before => decide_eq_true (le_of_lt before))
  rw [sortedRoots, kept]
  clear kept
  -- Dropping a name equal to the next one drops nothing from a strictly increasing list.
  induction roots with
  | nil => rfl
  | cons name more ih =>
    rw [List.foldr_cons, ih (List.pairwise_cons.mp sorted).2]
    cases more with
    | nil => rfl
    | cons next rest =>
      have before : name.text < next.text := (List.pairwise_cons.mp sorted).1 next List.mem_cons_self
      have differ : (next.text == name.text) = false := beq_false_of_ne (ne_of_gt before)
      simp only [differ, Bool.false_eq_true, if_false]

/-- A name of a sorted list, kept unless the name after it is the same. -/
def dropRepeat (name : QualifiedName) (acc : List QualifiedName) : List QualifiedName :=
  match acc with
  | next :: _ => if next.text == name.text then acc else name :: acc
  | [] => [name]

theorem sortedRoots_eq (roots : List QualifiedName) :
    sortedRoots roots = (roots.mergeSort fun a b => decide (a.text ≤ b.text)).foldr dropRepeat [] := rfl

theorem mem_dropRepeat {name x : QualifiedName} {acc : List QualifiedName} :
    x ∈ dropRepeat name acc ↔ x = name ∨ x ∈ acc := by
  cases acc with
  | nil => simp [dropRepeat]
  | cons next rest =>
    by_cases same : next.text = name.text
    · -- The name dropped is the one kept after it.
      obtain rfl : next = name := QualifiedName.eq_of_text same
      simp [dropRepeat]
    · simp [dropRepeat, same]

/-- Dropping repeated names keeps every name. -/
theorem mem_foldr_dropRepeat {x : QualifiedName} :
    ∀ {l : List QualifiedName}, x ∈ l.foldr dropRepeat [] ↔ x ∈ l
  | [] => by simp
  | name :: more => by rw [List.foldr_cons, mem_dropRepeat, mem_foldr_dropRepeat, List.mem_cons]

/-- Dropping repeated names from a sorted list leaves it strictly sorted. -/
theorem pairwise_foldr_dropRepeat :
    ∀ {l : List QualifiedName}, l.Pairwise (·.text ≤ ·.text) → (l.foldr dropRepeat []).Pairwise (·.text < ·.text)
  | [], _ => List.Pairwise.nil
  | name :: more, sorted => by
    obtain ⟨below, rest⟩ := List.pairwise_cons.mp sorted
    have kept := pairwise_foldr_dropRepeat rest
    have member : ∀ y, y ∈ more.foldr dropRepeat [] → name.text ≤ y.text :=
      fun y inside => below y (mem_foldr_dropRepeat.mp inside)
    rw [List.foldr_cons]
    cases dropped : more.foldr dropRepeat [] with
    | nil => simp [dropRepeat]
    | cons next after =>
      rw [dropped] at kept member
      by_cases same : next.text = name.text
      · simpa [dropRepeat, same] using kept
      · simp only [dropRepeat, beq_iff_eq, same, if_false]
        refine List.pairwise_cons.mpr ⟨fun y inside => ?_, kept⟩
        rcases List.mem_cons.mp inside with rfl | later
        · exact lt_of_le_of_ne (member y inside) (Ne.symm same)
        · -- A later name comes after the next one, which comes after this one.
          exact lt_of_le_of_lt (member next List.mem_cons_self) ((List.pairwise_cons.mp kept).1 y later)

/-- The roots are named in strict order of name. -/
theorem sortedRoots_pairwise (roots : List QualifiedName) :
    (sortedRoots roots).Pairwise (·.text < ·.text) := by
  have sorted := List.pairwise_mergeSort
    (fun a b c (first : decide (a.text ≤ b.text) = true) (second : decide (b.text ≤ c.text) = true) =>
      decide_eq_true (le_trans (of_decide_eq_true first) (of_decide_eq_true second)))
    (fun a b => by simpa using le_total a.text b.text) roots
  rw [sortedRoots_eq]
  exact pairwise_foldr_dropRepeat (sorted.imp of_decide_eq_true)

/-- Every root is named. -/
theorem mem_sortedRoots {roots : List QualifiedName} {x : QualifiedName} : x ∈ sortedRoots roots ↔ x ∈ roots := by
  rw [sortedRoots_eq, mem_foldr_dropRepeat]
  exact (List.mergeSort_perm _ _).mem_iff

/-- A name given is given to the root it is found for. -/
theorem mem_of_unitNameOf {names : List (QualifiedName × UnitName)} {name : QualifiedName} {unit : UnitName}
    (found : unitNameOf names name = some unit) : (name, unit) ∈ names := by
  obtain ⟨⟨root, given⟩, first, rfl⟩ := Option.map_eq_some_iff.mp found
  have same : root = name := QualifiedName.eq_of_text (by simpa using List.find?_some first)
  rw [← same]
  exact List.mem_of_find?_eq_some first

/-- Among names given once per root, a root's name is found for it. -/
theorem unitNameOf_of_mem {names : List (QualifiedName × UnitName)} (distinct : (names.map (·.1)).Nodup)
    {root : QualifiedName} {unit : UnitName} (inside : (root, unit) ∈ names) :
    unitNameOf names root = some unit := by
  induction names with
  | nil => cases inside
  | cons p more ih =>
    obtain ⟨fresh, distinct⟩ := List.nodup_cons.mp distinct
    unfold unitNameOf
    rw [List.find?_cons]
    by_cases here : p.1 = root
    · -- The root's only name is this one, since it is not named again further on.
      have named : p = (root, unit) := by
        rcases List.mem_cons.mp inside with first | later
        · exact first.symm
        · have again : root ∈ more.map (·.1) := List.mem_map.mpr ⟨_, later, rfl⟩
          rw [← here] at again
          exact absurd again fresh
      rw [named]
      simp
    · have later : (root, unit) ∈ more := by
        rcases List.mem_cons.mp inside with first | later
        · exact absurd (by rw [← first]) here
        · exact later
      have differ : (p.1.text == root.text) = false :=
        beq_false_of_ne fun same => here (QualifiedName.eq_of_text same)
      rw [differ]
      exact ih distinct later

/-- The file of a unit, named after its module, is never the index file. -/
theorem moduleName_file_ne_index (base : String) : moduleName base ++ ".rs" ≠ indexFileName := by
  intro same
  have lengths := congrArg String.length same
  simp only [moduleName, indexFileName, String.length_append] at lengths
  have : "_model".length = 6 := rfl
  have : ".rs".length = 3 := rfl
  have : "mod.rs".length = 6 := rfl
  omega

/-- A base a root may be named from: its stem, which is its simple name or its disambiguated
name, alone or followed by a counter from 2 on. -/
def NamedFromStem (root : QualifiedName) (base : String) : Prop :=
  ∃ stem, (stem = root.simpleName ∨ stem = disambiguatedName root) ∧
    (base = stem ∨ ∃ counter, 2 ≤ counter ∧ base = stem ++ toString counter)

/-- The search for a base from a positive counter gives a base tried from a positive counter. -/
theorem freeBase_candidate (taken : List String) (stem : String) :
    ∀ {fuel counter : Nat}, 1 ≤ counter → ∃ k, 1 ≤ k ∧ freeBase taken stem fuel counter = candidateBase stem k
  | 0, _, _ => ⟨1, le_refl 1, by simp [freeBase, candidateBase]⟩
  | fuel + 1, counter, positive => by
    rw [freeBase_succ]
    split
    · exact freeBase_candidate taken stem (by omega)
    · exact ⟨counter, positive, rfl⟩

/-- A base tried from a positive counter is the stem, or the stem and a counter from 2 on. -/
theorem candidateBase_of_pos (stem : String) {counter : Nat} (positive : 1 ≤ counter) :
    candidateBase stem counter = stem ∨
      ∃ k, 2 ≤ k ∧ candidateBase stem counter = stem ++ toString k := by
  by_cases first : counter = 1
  · exact .inl (by simp [candidateBase, first])
  · exact .inr ⟨counter, by omega, by simp [candidateBase, first]⟩

/-- Each root named so far is named from its stem. -/
def StemsNamed (named : List (QualifiedName × UnitName)) : Prop :=
  ∀ p ∈ named, ∃ base, p.2 = ⟨moduleName base, accessorName base⟩ ∧ NamedFromStem p.1 base

/-- Naming one more root names it from its stem. -/
theorem StemsNamed.step {acc : List String × List (QualifiedName × UnitName)} (named : StemsNamed acc.2)
    (plainModules : List String) (root : QualifiedName) : StemsNamed (nameStep plainModules acc root).2 := by
  intro p inside
  rcases List.mem_append.mp inside with old | new
  · exact named p old
  · rw [List.mem_singleton.mp new]
    -- The stem is the disambiguated name when plain module names clash, else the simple name.
    let stem := if plainModules.count (moduleName root.simpleName) > 1 then disambiguatedName root
      else root.simpleName
    have chosen : stem = root.simpleName ∨ stem = disambiguatedName root := by
      by_cases clashes : plainModules.count (moduleName root.simpleName) > 1
      · exact .inr (if_pos clashes)
      · exact .inl (if_neg clashes)
    obtain ⟨k, positive, found⟩ := @freeBase_candidate acc.1 stem (acc.1.length + 2) 1 (le_refl 1)
    refine ⟨_, rfl, stem, chosen, ?_⟩
    rw [found]
    rcases candidateBase_of_pos stem positive with plain | ⟨counter, atLeast, numbered⟩
    · exact .inl plain
    · exact .inr ⟨counter, atLeast, numbered⟩

theorem StemsNamed.foldl (plainModules : List String) : ∀ (l : List QualifiedName)
    {acc : List String × List (QualifiedName × UnitName)}, StemsNamed acc.2 →
      StemsNamed (l.foldl (nameStep plainModules) acc).2
  | [], _, named => named
  | root :: l, _, named => StemsNamed.foldl plainModules l (named.step plainModules root)

/-- Naming the roots of a set gives each of them a unit named from its stem, simple or
disambiguated, alone or followed by a counter from 2 on; no two units share a module name, and
none shares an accessor name. The search for a free base stops within its bound
(`freeBase_naming_free`), at the first free base. -/
theorem unit_names_injective (roots : List QualifiedName) :
    (∀ root ∈ roots, ∃ base, unitNameOf (unitNames roots) root = some ⟨moduleName base, accessorName base⟩ ∧
      NamedFromStem root base) ∧
    ((unitNames roots).map (·.2.module)).Nodup ∧ ((unitNames roots).map (·.2.accessor)).Nodup := by
  obtain ⟨order, modules, accessors, -⟩ := unitNames_spec roots
  have stems : StemsNamed (unitNames roots) := by
    rw [unitNames_eq]
    exact @StemsNamed.foldl _ (sortedRoots roots) ([], []) nofun
  -- Each root is named once: the roots are named in strict order.
  have once : ((unitNames roots).map (·.1)).Nodup := by
    rw [order]
    refine (sortedRoots_pairwise roots).imp fun {a b} before => ?_
    rintro rfl
    exact lt_irrefl _ before
  refine ⟨fun root inside => ?_, modules, accessors⟩
  have listed : root ∈ (unitNames roots).map (·.1) := by
    rw [order]
    exact mem_sortedRoots.mpr inside
  obtain ⟨p, named, rfl⟩ := List.mem_map.mp listed
  obtain ⟨base, unit, fromStem⟩ := stems p named
  refine ⟨base, ?_, fromStem⟩
  rw [← unit]
  exact unitNameOf_of_mem once named

end Metamodel
