import Metamodel.Proofs.Lexing

/-!
What a file's first item is read from.

A reading is described by a partial-correctness triple (`Triple`): from a state satisfying the
precondition, a reading that does not fail ends in a result and a state satisfying the
postcondition. The primitive readings, and those built from them, only move forward in their
group (`Shrinks`). Attributes are read from the front of the tokens left, so every name in the
list of an attribute, such as the names of a `derive`, is a name of the tokens (`NamesWithin`).
Only the struct branch of an item builds a struct, with the attributes read before it, and its
fields in braces are all named.
-/

namespace Metamodel.Source

/-- The fields of a struct with braces all have names. -/
def Fields.Named : Fields → Prop
  | .named fields => ∀ f ∈ fields, f.ident.isSome
  | _ => True

/-- A struct item read after the outer attributes `attrs` carries them, and its fields in braces
all have names. -/
def Item.StructAfter (attrs : List Attribute) : Item → Prop
  | .struct a _ _ fields => a = attrs ∧ fields.Named
  | _ => True

namespace Read

variable {α β : Type}

theorem run_bind_ok {m : Read α} {f : α → Read β} {st st' : ReadState} {b : β}
    (ran : (m >>= f).run st = .ok (b, st')) : ∃ a s, m.run st = .ok (a, s) ∧ (f a).run s = .ok (b, st') := by
  rw [StateT.run_bind] at ran
  cases stepped : m.run st with
  | error e => rw [stepped] at ran; cases ran
  | ok p => rw [stepped] at ran; exact ⟨p.1, p.2, rfl, ran⟩

/-- A reading started in a state satisfying `pre` that does not fail ends with a result and a
state satisfying `post`. -/
def Triple (pre : ReadState → Prop) (r : Read α) (post : α → ReadState → Prop) : Prop :=
  ∀ st a st', pre st → r.run st = .ok (a, st') → post a st'

namespace Triple

variable {pre : ReadState → Prop} {post : β → ReadState → Prop}

theorem pure {b : β} (holds : ∀ st, pre st → post b st) : Triple pre (Pure.pure b : Read β) post := by
  intro st a st' before ran
  cases ran
  exact holds st before

theorem bind {m : Read α} {f : α → Read β} {mid : α → ReadState → Prop} (first : Triple pre m mid)
    (next : ∀ a, Triple (mid a) (f a) post) : Triple pre (m >>= f) post := by
  intro st b st' before ran
  obtain ⟨a, s, stepped, rest⟩ := run_bind_ok ran
  exact next a s b st' (first st a s before stepped) rest

theorem get : Triple pre (MonadState.get : Read ReadState) fun s st => pre st ∧ s = st := by
  intro st a st' before ran
  cases ran
  exact ⟨before, rfl⟩

theorem throw (e : String) : Triple pre (MonadExcept.throw e : Read β) post := by
  intro st a st' _ ran
  cases ran

/-- What holds of every result, whatever the state. -/
theorem anything (r : Read α) : Triple pre r fun _ _ => True := fun _ _ _ _ _ => trivial

/-- A fact known before a reading still holds after it. -/
theorem frame {fact : Prop} (known : ∀ st, pre st → fact) (r : Read α) : Triple pre r fun _ _ => fact :=
  fun st _ _ before _ => known st before

theorem fail (message : String) : Triple pre (Read.fail message : Read β) post :=
  bind (anything _) fun _ => by split <;> exact throw _

theorem failPlain (message : String) : Triple pre (Read.failPlain message : Read β) post := throw _

theorem failExpecting (names : List String) : Triple pre (Read.failExpecting names : Read β) post := by
  unfold Read.failExpecting
  split
  · exact fail _
  · exact bind (anything _) fun _ => by split <;> exact throw _

/-- A reading keeps a fact that does not depend on the state. -/
theorem with_fact {r : Read β} {fact : Prop} (holds : Triple pre r post) :
    Triple (fun st => pre st ∧ fact) r fun a st => post a st ∧ fact :=
  fun st a st' ⟨before, known⟩ ran => ⟨holds st a st' before ran, known⟩

theorem weaken {pre' : ReadState → Prop} {r : Read β} (stronger : ∀ st, pre' st → pre st)
    (holds : Triple pre r post) : Triple pre' r post :=
  fun st a st' before ran => holds st a st' (stronger st before) ran

theorem conseq {post' : β → ReadState → Prop} {r : Read β} (holds : Triple pre r post)
    (weaker : ∀ a st, post a st → post' a st) : Triple pre r post' :=
  fun st a st' before ran => weaker a st' (holds st a st' before ran)

end Triple

/-- A reading that only moves forward in its group: the tokens it leaves are a suffix of those
it was given. -/
def Shrinks (r : Read α) : Prop :=
  ∀ l, Triple (fun st => st.rest <:+ l) r fun _ st => st.rest <:+ l

namespace Shrinks

theorem pure (a : α) : Shrinks (Pure.pure a : Read α) := fun _ => Triple.pure fun _ inside => inside

theorem bind {m : Read α} {f : α → Read β} (first : Shrinks m) (next : ∀ a, Shrinks (f a)) :
    Shrinks (m >>= f) := fun l => Triple.bind (first l) fun a => next a l

theorem get : Shrinks (MonadState.get : Read ReadState) :=
  fun _ => Triple.conseq Triple.get fun _ _ kept => kept.1

theorem throw (e : String) : Shrinks (MonadExcept.throw e : Read α) := fun _ => Triple.throw e

theorem fail (message : String) : Shrinks (Read.fail message : Read α) := fun _ => Triple.fail message

theorem failPlain (message : String) : Shrinks (Read.failPlain message : Read α) := fun _ => Triple.throw _

theorem modify {f : ReadState → ReadState} (smaller : ∀ s, (f s).rest <:+ s.rest) :
    Shrinks (modify f : Read PUnit) := by
  intro l st a st' inside ran
  cases ran
  exact (smaller st).trans inside

end Shrinks

theorem shrinks_skipN (n : Nat) : Shrinks (skipN n) := Shrinks.modify fun s => List.drop_suffix n s.rest

theorem shrinks_skip : Shrinks skip := Shrinks.modify fun s => List.drop_suffix 1 s.rest

theorem shrinks_peekToken : Shrinks peekToken := Shrinks.bind .get fun _ => .pure _

theorem shrinks_peekPunct (text : String) : Shrinks (peekPunct text) := Shrinks.bind .get fun _ => .pure _

theorem shrinks_peekPunctAt (n : Nat) (text : String) : Shrinks (peekPunctAt n text) :=
  Shrinks.bind .get fun _ => .pure _

theorem shrinks_peekKeyword (kw : String) : Shrinks (peekKeyword kw) :=
  Shrinks.bind .get fun _ => by split <;> exact .pure _

theorem shrinks_peekIdent : Shrinks peekIdent := Shrinks.bind .get fun _ => by split <;> exact .pure _

theorem shrinks_atEnd : Shrinks atEnd := Shrinks.bind .get fun _ => .pure _

theorem shrinks_rest : Shrinks rest := Shrinks.bind .get fun _ => .pure _

theorem shrinks_optPunct (text : String) : Shrinks (optPunct text) :=
  Shrinks.bind .get fun _ => by
    split
    · exact Shrinks.bind (shrinks_skipN _) fun _ => .pure _
    · exact .pure _

theorem shrinks_expectPunct (text : String) : Shrinks (expectPunct text) :=
  Shrinks.bind .get fun _ => by
    split
    · exact shrinks_skipN _
    · exact .throw _

theorem shrinks_anyIdent : Shrinks anyIdent :=
  Shrinks.bind .get fun _ => by
    split
    · exact Shrinks.bind shrinks_skip fun _ => .pure _
    · exact .fail _

theorem shrinks_ident : Shrinks ident :=
  Shrinks.bind .get fun _ => by
    split
    · split
      · exact Shrinks.bind shrinks_skip fun _ => .pure _
      · exact .fail _
    · exact .fail _

theorem shrinks_modStyleSegments : ∀ (fuel : Nat) (acc : List Ident), Shrinks (modStyleSegments fuel acc)
  | 0, _ => by
    unfold modStyleSegments
    exact .pure _
  | fuel + 1, acc => by
    unfold modStyleSegments
    refine Shrinks.bind shrinks_peekIdent fun _ => Shrinks.bind (shrinks_peekKeyword _) fun _ =>
      Shrinks.bind (shrinks_peekKeyword _) fun _ => Shrinks.bind (shrinks_peekKeyword _) fun _ =>
      Shrinks.bind (shrinks_peekKeyword _) fun _ => ?_
    split
    · exact .pure _
    · refine Shrinks.bind shrinks_anyIdent fun i => Shrinks.bind (shrinks_peekPunct _) fun _ => ?_
      split
      · exact .pure _
      · exact Shrinks.bind (shrinks_skipN 2) fun _ => shrinks_modStyleSegments fuel (i :: acc)

theorem shrinks_readModStylePath : Shrinks readModStylePath := by
  unfold readModStylePath
  refine Shrinks.bind (shrinks_optPunct _) fun _ => Shrinks.bind shrinks_rest fun _ =>
    Shrinks.bind (shrinks_modStyleSegments _ _) fun (idents, trailing) => ?_
  dsimp only
  -- Both checks only fail; the path is built from what was read.
  split
  · refine Shrinks.bind shrinks_ident fun _ => Shrinks.bind (.failPlain _) fun _ => ?_
    split
    · exact Shrinks.bind (.fail _) fun _ => .pure _
    · exact .pure _
  · split
    · exact Shrinks.bind (.fail _) fun _ => .pure _
    · exact .pure _


theorem peekToken_triple (l : List Token) :
    Triple (fun st => st.rest <:+ l) peekToken fun t st => st.rest <:+ l ∧ t = st.rest.head? :=
  Triple.bind Triple.get fun _ => Triple.pure fun _ ⟨inside, same⟩ => ⟨inside, by rw [same]⟩

theorem inGroup_run {α : Type} {d : Delimiter} {inner : Read α} {whatFor : String} {st st' : ReadState} {a : α}
    (ran : (inGroup d inner whatFor).run st = .ok (a, st')) :
    ∃ stream, st.rest = .group d stream :: st'.rest ∧ ∃ s, inner.run ⟨stream, st.leftover⟩ = .ok (a, s) := by
  simp [inGroup] at ran
  split at ran
  · next d' stream after opened =>
    split at ran
    · next same =>
      subst same
      cases readInner : inner.run ⟨stream, st.leftover⟩ with
      | error e =>
        simp [readInner, Functor.map] at ran
        cases ran
      | ok p =>
        simp [readInner, Functor.map] at ran
        obtain ⟨rfl, rfl⟩ := ran
        exact ⟨stream, opened, p.2, readInner⟩
    · exact absurd ran (by simp [fail]; split <;> exact nofun)
  · exact absurd ran (by simp [fail]; split <;> exact nofun)

/-- Every list an attribute's content holds is a group of the tokens `l`. -/
def ListedIn (l : List Token) (m : Meta) : Prop :=
  ∀ p d ts, m = .list p d ts → .group d ts ∈ l

theorem readMeta_listedIn (l : List Token) :
    ∀ fuel, Triple (fun st => st.rest <:+ l) (readMeta fuel) fun m _ => ListedIn l m
  | 0 => Triple.failPlain _
  | fuel + 1 => by
    rw [readMeta]
    dsimp only
    refine Triple.bind (shrinks_peekKeyword _ l) fun _ => ?_
    -- The path, then what follows it: a group is the list, anything else is no list.
    split
    all_goals first
      | refine Triple.bind (shrinks_skip l) fun _ => Triple.bind (Shrinks.pure _ l) fun path => ?_
      | refine Triple.bind (shrinks_readModStylePath l) fun path => ?_
    all_goals
      refine Triple.bind (peekToken_triple l) fun token => ?_
      split
      · next d stream =>
        split
        · refine Triple.bind (Triple.frame (fun st ⟨inside, head⟩ => inside.subset
            (List.mem_of_mem_head? head.symm)) skip) fun _ => Triple.pure fun _ listed => ?_
          rintro p d' ts ⟨⟩
          exact listed
        · exact Triple.pure fun _ _ => nofun
      · repeat' first
          | exact Triple.pure fun _ _ => nofun
          | exact Triple.fail _
          | refine Triple.bind (Triple.anything _) fun _ => ?_
          | split


/-- Every name in a list an attribute's content holds is a name in the tokens `l`. -/
def NamesWithin (l : List Token) (m : Meta) : Prop :=
  ∀ p d ts, m = .list p d ts → ∀ name, (Token.group d ts).Names name → ∃ t ∈ l, t.Names name

theorem inGroup_readMeta (l : List Token) (fuel : Nat) (whatFor : String) :
    Triple (fun st => st.rest <:+ l) (inGroup .bracket (readMeta fuel) whatFor)
      fun m st => st.rest <:+ l ∧ NamesWithin l m := by
  intro st m st' inside ran
  obtain ⟨stream, opened, _, inner⟩ := inGroup_run ran
  rw [opened] at inside
  refine ⟨(List.suffix_cons _ _).trans inside, fun p d ts listed name named => ?_⟩
  have held := readMeta_listedIn stream fuel _ _ _ (List.suffix_refl _) inner p d ts listed
  exact ⟨.group .bracket stream, inside.subset (List.mem_cons_self ..), .group held named⟩

theorem readAttribute_names (l : List Token) :
    ∀ fuel style, Triple (fun st => st.rest <:+ l) (readAttribute fuel style)
      fun a st => st.rest <:+ l ∧ NamesWithin l a.content
  | 0, _ => Triple.failPlain _
  | fuel + 1, style => by
    rw [readAttribute]
    refine Triple.bind (shrinks_expectPunct _ l) fun _ => ?_
    dsimp only
    -- An inner attribute has its `!` before the brackets.
    split
    all_goals first | refine Triple.bind (shrinks_expectPunct _ l) fun _ => ?_ | skip
    all_goals exact Triple.bind (inGroup_readMeta l fuel _) fun content => Triple.pure fun _ read => read

theorem shrinks_readAttribute (fuel : Nat) (style : AttrStyle) : Shrinks (readAttribute fuel style) :=
  fun l => (readAttribute_names l fuel style).conseq fun _ _ read => read.1

theorem readOuterAttrs_names (l : List Token) :
    ∀ fuel, Triple (fun st => st.rest <:+ l) (readOuterAttrs fuel)
      fun attrs st => st.rest <:+ l ∧ ∀ a ∈ attrs, NamesWithin l a.content
  | 0 => Triple.failPlain _
  | fuel + 1 => by
    rw [readOuterAttrs]
    refine Triple.bind (shrinks_peekPunct _ l) fun _ => ?_
    split
    · exact Triple.pure fun _ inside => ⟨inside, nofun⟩
    · refine Triple.bind (readAttribute_names l fuel _) fun a => Triple.bind
        ((readOuterAttrs_names l fuel).with_fact) fun attrs => Triple.pure ?_
      rintro st ⟨⟨inside, rest⟩, first⟩
      exact ⟨inside, List.forall_mem_cons.mpr ⟨first, rest⟩⟩

theorem shrinks_readInnerAttrs : ∀ fuel, Shrinks (readInnerAttrs fuel)
  | 0 => Shrinks.failPlain _
  | fuel + 1 => by
    rw [readInnerAttrs]
    refine Shrinks.bind (shrinks_peekPunct _) fun _ => Shrinks.bind (shrinks_peekPunctAt _ _) fun _ => ?_
    split
    · exact Shrinks.pure _
    · exact Shrinks.bind (shrinks_readAttribute _ _) fun _ =>
        Shrinks.bind (shrinks_readInnerAttrs fuel) fun _ => Shrinks.pure _


theorem readNamedFields_named : ∀ fuel,
    Triple (fun _ => True) (readNamedFields fuel) fun fields _ => ∀ f ∈ fields, f.ident.isSome
  | 0 => Triple.failPlain _
  | fuel + 1 => by
    rw [readNamedFields]
    dsimp only
    -- Every field is built with the name read before its colon.
    repeat' first
      | exact Triple.pure fun _ _ => by simp
      | exact Triple.bind (readNamedFields_named fuel) fun fields =>
          Triple.pure fun _ named => List.forall_mem_cons.mpr ⟨rfl, named⟩
      | refine Triple.bind (Triple.anything _) fun _ => ?_
      | split

/-- What a group's contents give, the group gives. -/
theorem Triple.inGroup {α : Type} {pre : ReadState → Prop} {P : α → Prop} {d : Delimiter} {inner : Read α}
    {whatFor : String} (holds : Triple (fun _ => True) inner fun a _ => P a) :
    Triple pre (Read.inGroup d inner whatFor) fun a _ => P a := by
  intro st a st' _ ran
  obtain ⟨_, _, _, inner⟩ := inGroup_run ran
  exact holds _ _ _ trivial inner

theorem readStructData_named : ∀ fuel,
    Triple (fun _ => True) (readStructData fuel) fun data _ => data.2.Named
  | 0 => Triple.failPlain _
  | fuel + 1 => by
    rw [readStructData]
    dsimp only
    repeat' first
      | exact Triple.pure fun _ _ => trivial
      | exact Triple.fail _
      | exact Triple.failExpecting _
      | exact Triple.bind (Triple.inGroup (readNamedFields_named fuel)) fun fields => Triple.pure fun _ named => named
      | refine Triple.bind (Triple.anything _) fun _ => ?_
      | split


theorem readItemUse_after (attrs : List Attribute) : ∀ fuel,
    Triple (fun _ => True) (readItemUse fuel) fun item _ => item.StructAfter attrs
  | 0 => Triple.failPlain _
  | fuel + 1 => by
    rw [readItemUse]
    repeat' first
      | exact Triple.pure fun _ _ => trivial
      | refine Triple.bind (Triple.anything _) fun _ => ?_
      | split

theorem readItemMod_after (attrs : List Attribute) : ∀ fuel,
    Triple (fun _ => True) (readItemMod fuel attrs) fun item _ => item.StructAfter attrs
  | 0 => Triple.failPlain _
  | fuel + 1 => by
    rw [readItemMod]
    dsimp only
    repeat' first
      | exact Triple.pure fun _ _ => trivial
      | exact Triple.failExpecting _
      | refine Triple.bind (Triple.anything _) fun _ => ?_
      | split

theorem readItemRest_after (attrs : List Attribute) : ∀ fuel,
    Triple (fun _ => True) (readItemRest fuel attrs) fun item _ => item.StructAfter attrs
  | 0 => Triple.failPlain _
  | fuel + 1 => by
    rw [readItemRest]
    dsimp only
    -- Only the struct branch builds a struct, from the attributes it was given.
    repeat' first
      | exact Triple.pure fun _ _ => trivial
      | exact Triple.fail _
      | exact Triple.failExpecting _
      | exact readItemUse_after attrs fuel
      | exact readItemMod_after attrs fuel
      | exact Triple.bind (readStructData_named fuel) fun (_, _) => Triple.pure fun _ named => ⟨rfl, named⟩
      | refine Triple.bind (Triple.anything _) fun _ => ?_
      | split


/-- An item is read after outer attributes whose lists name only names of the tokens `l`. -/
theorem readItem_after (l : List Token) : ∀ fuel,
    Triple (fun st => st.rest <:+ l) (readItem fuel)
      fun item _ => ∃ attrs, item.StructAfter attrs ∧ ∀ a ∈ attrs, NamesWithin l a.content
  | 0 => Triple.failPlain _
  | fuel + 1 => by
    rw [readItem]
    refine Triple.bind (readOuterAttrs_names l fuel) fun attrs => ?_
    exact Triple.conseq (Triple.weaken (fun _ read => ⟨trivial, read.2⟩) (readItemRest_after attrs fuel).with_fact)
      fun item _ ⟨after, named⟩ => ⟨attrs, after, named⟩

theorem readItems_first (l : List Token) : ∀ fuel,
    Triple (fun st => st.rest <:+ l) (readItems fuel) fun items _ =>
      ∀ item, items.head? = some item → ∃ attrs, item.StructAfter attrs ∧ ∀ a ∈ attrs, NamesWithin l a.content
  | 0 => Triple.failPlain _
  | fuel + 1 => by
    rw [readItems]
    refine Triple.bind (shrinks_atEnd l) fun _ => ?_
    split
    · exact Triple.pure fun _ _ => nofun
    · refine Triple.bind (readItem_after l fuel) fun first => Triple.bind (Triple.frame (fun _ read => read) _)
        fun _ => Triple.pure fun _ read => ?_
      rintro item ⟨⟩
      exact read

end Read

/-- The first item of a file that reads is read after outer attributes whose lists name only
names of the file's tokens. -/
theorem readFileItems_first {tokens : List Token} {inner : List Attribute} {item : Item} {more : List Item}
    (read : readFileItems tokens = .ok (inner, item :: more)) :
    ∃ attrs, item.StructAfter attrs ∧ ∀ a ∈ attrs, Read.NamesWithin tokens a.content := by
  unfold readFileItems Read.runAll at read
  split at read
  · cases read
  · next value final ran =>
    have whole : value = (inner, item :: more) := by
      split at read
      · cases read
      · split at read
        · exact Except.ok.inj read
        · cases read
    subst whole
    obtain ⟨attrs, s, readAttrs, rest⟩ := Read.run_bind_ok ran
    obtain ⟨items, s', readList, done⟩ := Read.run_bind_ok rest
    cases done
    have inside := Read.shrinks_readInnerAttrs _ tokens _ _ _ (List.suffix_refl _) readAttrs
    exact Read.readItems_first tokens _ _ _ _ inside readList item rfl

end Metamodel.Source

namespace Metamodel.Source

/-- The first item of a source file, when a struct: every identifier in the list of one of its
attributes, but `doc`, is written in the file, and its fields in braces all have names. -/
theorem readSourceFile_struct {text : String} {inner attrs : List Attribute} {ident : Ident}
    {generics : Generics} {fields : Fields} {more : List Item}
    (read : readSourceFile text = .ok (inner, .struct attrs ident generics fields :: more)) :
    (∀ attr ∈ attrs, ∀ p delimiter tokens, attr.content = .list p delimiter tokens →
      ∀ name raw, Token.ident name raw ∈ tokens → name ≠ "doc" → Text.contains text name = true) ∧
    fields.Named := by
  obtain ⟨tokens, fileRead, contained⟩ := readSourceFile_names read
  obtain ⟨attrs', ⟨rfl, named⟩, listed⟩ := readFileItems_first fileRead
  refine ⟨fun attr inside p delimiter ts content name raw mem other => ?_, named⟩
  obtain ⟨t, inTokens, names⟩ := listed attr inside p delimiter ts content name (.group mem (.ident raw))
  exact contained t inTokens name names other

end Metamodel.Source
