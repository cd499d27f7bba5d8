import Mathlib
import Metamodel.Query.Decode
import Metamodel.Proofs.JsonText

/-!
Paths and predicates through JSON text.

The JSON form of a path or a predicate decodes back to it. The decoders visit an object's
fields in key order, the last of repeated keys kept; the forms written here have distinct keys,
so that order is the one sorted list of their fields, and each tag, known field and nested form
is found where the decoder looks for it. A predicate descends one level per nested condition,
within the depth of its form.

With the text of values read back, writing a path as JSON text and reading it gives the same
path. The same holds for a predicate whose literals its text keeps exactly (no floats,
integers within 64 bits, no repeated keys) and whose form nests at most 127 deep.
-/

namespace Metamodel.Json

/-! ### Visiting order -/

/-- Keeping the last of repeated keys changes nothing when the keys are already distinct. -/
theorem foldl_keepLast_of_nodup (fields : List (String × Value)) :
    ∀ acc : List (String × Value), ((acc ++ fields).map (·.1)).Nodup →
      fields.foldl (fun acc field => (acc.filter fun f => f.1 != field.1) ++ [field]) acc =
        acc ++ fields := by
  induction fields with
  | nil => simp
  | cons field more ih =>
    intro acc distinct
    have fresh : ∀ f ∈ acc, f.1 ≠ field.1 := by
      intro f mem same
      have := List.inj_on_of_nodup_map distinct (List.mem_append_left _ mem)
        (List.mem_append_right _ List.mem_cons_self) same
      subst this
      simp only [List.map_append, List.map_cons, List.nodup_append, List.nodup_cons] at distinct
      exact distinct.2.2 _ (List.mem_map_of_mem mem) _ List.mem_cons_self rfl
    have kept : (acc.filter fun f => f.1 != field.1) = acc :=
      List.filter_eq_self.mpr fun f mem => by simpa using fresh f mem
    rw [List.foldl_cons, kept, ih (acc ++ [field]) (by simpa using distinct)]
    simp

/-- Fields of distinct keys are visited in key order: as the one list sorted by key that holds
them. -/
theorem visitOrder_eq {fields sorted : List (String × Value)} (perm : fields.Perm sorted)
    (ordered : (sorted.map (·.1)).Pairwise (· < ·)) : visitOrder fields = sorted := by
  have distinct : (fields.map (·.1)).Nodup := (perm.map _).nodup_iff.mpr (ordered.imp ne_of_lt)
  have kept := foldl_keepLast_of_nodup fields [] distinct
  rw [List.nil_append] at kept
  have trans : ∀ a b c : String × Value, decide (a.1 ≤ b.1) = true → decide (b.1 ≤ c.1) = true →
      decide (a.1 ≤ c.1) = true := by
    simp only [decide_eq_true_eq]
    exact fun _ _ _ => String.le_trans
  have total : ∀ a b : String × Value, (decide (a.1 ≤ b.1) || decide (b.1 ≤ a.1)) = true := by
    simp [String.le_total]
  -- two fields of the same key are the same field, since the keys are distinct
  have antisymm : ∀ a b : String × Value, a ∈ fields.mergeSort (fun a b => decide (a.1 ≤ b.1)) →
      b ∈ sorted → decide (a.1 ≤ b.1) = true → decide (b.1 ≤ a.1) = true → a = b := by
    intro a b memA memB ab ba
    simp only [decide_eq_true_eq] at ab ba
    exact List.inj_on_of_nodup_map distinct ((List.mergeSort_perm _ _).mem_iff.mp memA)
      (perm.mem_iff.mpr memB) (String.le_antisymm ab ba)
  unfold visitOrder
  rw [kept]
  exact List.Perm.eq_of_pairwise antisymm (List.pairwise_mergeSort trans total fields)
    ((List.pairwise_map.mp ordered).imp fun before => decide_eq_true (le_of_lt before))
    ((List.mergeSort_perm _ _).trans perm)

/-- A computation that succeeds passes its value on. -/
@[simp] theorem ok_bind {ε α β : Type} (a : α) (f : α → Except ε β) :
    (Except.ok a >>= f) = f a := rfl

/-- A tagged object names its variant by its tag field; the body is the rest, in visiting
order. -/
theorem taggedVariant_object {origin : Origin} {tag enumName name : String} {variants : List String}
    {fields sorted : List (String × Value)} (order : visitOrder fields = sorted)
    (tagged : sorted.lookup tag = some (.string name)) (known : name ∈ variants) :
    taggedVariant origin tag enumName variants (.object fields) =
      .ok (name, .named (sorted.filter fun f => f.1 != tag)) := by
  simp [taggedVariant, order, tagged, variantName, known]

/-- A list read item by item gives back the values whose forms it holds. -/
theorem Decoder.list_map {α : Type} {d : Decoder α} {f : α → Value} :
    ∀ (l : List α), (∀ x ∈ l, d (f x) = .ok x) → Decoder.list d (.array (l.map f)) = .ok l
  | [], _ => rfl
  | x :: more, each => by
    have rest := Decoder.list_map more fun y mem => each y (List.mem_cons_of_mem x mem)
    simp only [Decoder.list, List.map_cons, List.mapM_cons] at rest ⊢
    rw [each x List.mem_cons_self, rest]
    rfl

/-- Any values, read as they are. -/
theorem Decoder.list_any (values : List Value) :
    Decoder.list Decoder.any (.array values) = .ok values := by
  have read := Decoder.list_map values fun v (_ : v ∈ values) => (rfl : Decoder.any (id v) = .ok v)
  rwa [List.map_id] at read

end Metamodel.Json

namespace Metamodel.Navigation

open Json

/-! ### Paths -/

/-- Every step's form decodes back to the step, read in place or buffered. -/
theorem Step.decode_stepJson (origin : Origin) :
    ∀ s : Step, Step.decode origin (NavPath.stepJson s) = .ok s
  | .get name => by
    have order : visitOrder [("step", .string "get"), ("name", .string name)] =
        [("name", .string name), ("step", .string "get")] :=
      visitOrder_eq (.swap _ _ _) (by simp only [List.map_cons, List.map_nil]; decide)
    rw [Step.decode, NavPath.stepJson, taggedVariant_object order rfl (by decide)]
    rfl
  | .join name j => by
    have order : visitOrder [("step", .string "join"), ("name", .string name),
        ("join", .string j.jsonName)] =
        [("join", .string j.jsonName), ("name", .string name), ("step", .string "join")] :=
      visitOrder_eq (List.reverse_perm [_, _, _]) (by simp only [List.map_cons, List.map_nil]; decide)
    rw [Step.decode, NavPath.stepJson, taggedVariant_object order rfl (by decide)]
    cases j <;> rfl
  | .treat entity => by
    have order : visitOrder [("step", .string "treat"), ("entity", .string entity)] =
        [("entity", .string entity), ("step", .string "treat")] :=
      visitOrder_eq (.swap _ _ _) (by simp only [List.map_cons, List.map_nil]; decide)
    rw [Step.decode, NavPath.stepJson, taggedVariant_object order rfl (by decide)]
    rfl
  | .key => by
    have order : visitOrder [("step", .string "key")] = [("step", .string "key")] :=
      visitOrder_eq (.refl _) (by simp)
    rw [Step.decode, NavPath.stepJson, taggedVariant_object order rfl (by decide)]
    rfl

/-- A path's form decodes back to the path. -/
theorem NavPath.decode_json (origin : Origin) (p : NavPath) : NavPath.decode origin p.json = .ok p := by
  have order : visitOrder [("root", .string p.root), ("steps", .array (p.steps.map NavPath.stepJson))] =
      [("root", .string p.root), ("steps", .array (p.steps.map NavPath.stepJson))] :=
    visitOrder_eq (.refl _) (by simp only [List.map_cons, List.map_nil]; decide)
  have steps : Decoder.list (Step.decode origin) (.array (p.steps.map NavPath.stepJson)) = .ok p.steps :=
    Decoder.list_map p.steps fun s _ => Step.decode_stepJson origin s
  simp [NavPath.decode, NavPath.json, Body.ofValue, order, List.lookup, Body.checkKnown, Body.required,
    Decoder.check, Except.map, steps, Decoder.string]

theorem NavPath.stepJson_exact (s : Step) : (NavPath.stepJson s).Exact := by
  cases s <;> exact .object (by simp) (by simp [Value.Exact.string])

theorem NavPath.depth_stepJson (s : Step) : (NavPath.stepJson s).depth = 1 := by
  cases s <;> simp [NavPath.stepJson, Value.depth, Value.depthOfFields]

/-- A path's form is kept exactly by its text. -/
theorem NavPath.json_exact (p : NavPath) : p.json.Exact := by
  refine .object (by simp) ?_
  simp only [List.mem_cons, List.not_mem_nil, or_false, forall_eq_or_imp, forall_eq]
  refine ⟨.string _, .array ?_⟩
  simp only [List.mem_map]
  rintro _ ⟨s, -, rfl⟩
  exact NavPath.stepJson_exact s

theorem NavPath.depthOfItems_steps (steps : List Step) :
    Value.depthOfItems (steps.map NavPath.stepJson) ≤ 1 := by
  induction steps with
  | nil => simp [Value.depthOfItems]
  | cons s more ih =>
    simp only [List.map_cons, Value.depthOfItems, NavPath.depth_stepJson]
    omega

/-- A path's form nests three deep at most: the path, its steps and each step. -/
theorem NavPath.json_depth (p : NavPath) : p.json.depth ≤ 3 := by
  have steps := NavPath.depthOfItems_steps p.steps
  simp only [NavPath.json, Value.depth, Value.depthOfFields]
  omega

end Metamodel.Navigation

namespace Metamodel.Query

open Json Navigation

/-! ### Predicates -/

theorem Comparison.decode_jsonName (op : Comparison) :
    Comparison.decode (.string op.jsonName) = .ok op := by
  cases op <;> rfl

namespace Predicate

mutual

/-- A predicate's form decodes back to the predicate given more fuel than the form's depth:
each nested condition is read with one less. -/
theorem decodeWithin_json : ∀ (p : Predicate) (fuel : Nat) (origin : Origin), p.json.depth < fuel →
    decodeWithin fuel origin p.json = .ok p
  | _, 0, _, deep => absurd deep (Nat.not_lt_zero _)
  | .compare path op value, fuel + 1, origin, _ => by
    have order : visitOrder [("condition", .string "compare"), ("path", path.json),
        ("op", .string op.jsonName), ("value", value)] =
        [("condition", .string "compare"), ("op", .string op.jsonName), ("path", path.json),
          ("value", value)] :=
      visitOrder_eq (.cons _ (.swap _ _ _)) (by simp only [List.map_cons, List.map_nil]; decide)
    rw [json, decodeWithin, taggedVariant_object order rfl (by decide)]
    simp [List.lookup, Body.checkKnown, Body.required, Decoder.check, Except.map, threeFields,
      NavPath.decode_json, Comparison.decode_jsonName, Decoder.any]
  | .between path low high, fuel + 1, origin, _ => by
    have order : visitOrder [("condition", .string "between"), ("path", path.json), ("low", low),
        ("high", high)] =
        [("condition", .string "between"), ("high", high), ("low", low), ("path", path.json)] :=
      visitOrder_eq (.cons _ (List.reverse_perm [_, _, _]))
        (by simp only [List.map_cons, List.map_nil]; decide)
    rw [json, decodeWithin, taggedVariant_object order rfl (by decide)]
    simp [List.lookup, Body.checkKnown, Body.required, Decoder.check, Except.map, threeFields,
      NavPath.decode_json, Decoder.any]
  | .isIn path values, fuel + 1, origin, _ => by
    have order : visitOrder [("condition", .string "in"), ("path", path.json),
        ("values", .array values)] =
        [("condition", .string "in"), ("path", path.json), ("values", .array values)] :=
      visitOrder_eq (.refl _) (by simp only [List.map_cons, List.map_nil]; decide)
    rw [json, decodeWithin, taggedVariant_object order rfl (by decide)]
    simp [List.lookup, Body.checkKnown, Body.required, Decoder.check, Except.map, twoFields,
      NavPath.decode_json, Decoder.list_any]
  | .like path pattern, fuel + 1, origin, _ => by
    have order : visitOrder [("condition", .string "like"), ("path", path.json),
        ("pattern", .string pattern)] =
        [("condition", .string "like"), ("path", path.json), ("pattern", .string pattern)] :=
      visitOrder_eq (.refl _) (by simp only [List.map_cons, List.map_nil]; decide)
    rw [json, decodeWithin, taggedVariant_object order rfl (by decide)]
    simp [List.lookup, Body.checkKnown, Body.required, Decoder.check, Except.map, twoFields,
      NavPath.decode_json, Decoder.string]
  | .isNull path, fuel + 1, origin, _ => by
    have order : visitOrder [("condition", .string "is_null"), ("path", path.json)] =
        [("condition", .string "is_null"), ("path", path.json)] :=
      visitOrder_eq (.refl _) (by simp only [List.map_cons, List.map_nil]; decide)
    rw [json, decodeWithin, taggedVariant_object order rfl (by decide)]
    simp [List.lookup, Body.checkKnown, Body.required, Decoder.check, Except.map, oneField,
      NavPath.decode_json]
  | .isNotNull path, fuel + 1, origin, _ => by
    have order : visitOrder [("condition", .string "is_not_null"), ("path", path.json)] =
        [("condition", .string "is_not_null"), ("path", path.json)] :=
      visitOrder_eq (.refl _) (by simp only [List.map_cons, List.map_nil]; decide)
    rw [json, decodeWithin, taggedVariant_object order rfl (by decide)]
    simp [List.lookup, Body.checkKnown, Body.required, Decoder.check, Except.map, oneField,
      NavPath.decode_json]
  | .all cs, fuel + 1, origin, deep => by
    have order : visitOrder [("condition", .string "and"), ("all", .array (jsonEach cs))] =
        [("all", .array (jsonEach cs)), ("condition", .string "and")] :=
      visitOrder_eq (.swap _ _ _) (by simp only [List.map_cons, List.map_nil]; decide)
    have shallow : Value.depthOfItems (jsonEach cs) < fuel := by
      simp only [json, Value.depth, Value.depthOfFields] at deep
      omega
    rw [json, decodeWithin, taggedVariant_object order rfl (by decide)]
    simp [List.lookup, Body.checkKnown, Body.required, Decoder.check, Except.map, oneField,
      Decoder.list, decodeWithin_jsonEach cs fuel shallow]
  | .any cs, fuel + 1, origin, deep => by
    have order : visitOrder [("condition", .string "or"), ("any", .array (jsonEach cs))] =
        [("any", .array (jsonEach cs)), ("condition", .string "or")] :=
      visitOrder_eq (.swap _ _ _) (by simp only [List.map_cons, List.map_nil]; decide)
    have shallow : Value.depthOfItems (jsonEach cs) < fuel := by
      simp only [json, Value.depth, Value.depthOfFields] at deep
      omega
    rw [json, decodeWithin, taggedVariant_object order rfl (by decide)]
    simp [List.lookup, Body.checkKnown, Body.required, Decoder.check, Except.map, oneField,
      Decoder.list, decodeWithin_jsonEach cs fuel shallow]
  | .not inner, fuel + 1, origin, deep => by
    have order : visitOrder [("condition", .string "not"), ("inner", inner.json)] =
        [("condition", .string "not"), ("inner", inner.json)] :=
      visitOrder_eq (.refl _) (by simp only [List.map_cons, List.map_nil]; decide)
    have shallow : inner.json.depth < fuel := by
      simp only [json, Value.depth, Value.depthOfFields] at deep
      omega
    rw [json, decodeWithin, taggedVariant_object order rfl (by decide)]
    simp [List.lookup, Body.checkKnown, Body.required, Decoder.check, Except.map, oneField,
      decodeWithin_json inner fuel .buffered shallow]

/-- The forms of a list of predicates decode back to them, buffered, one by one. -/
theorem decodeWithin_jsonEach : ∀ (cs : List Predicate) (fuel : Nat),
    Value.depthOfItems (jsonEach cs) < fuel → (jsonEach cs).mapM (decodeWithin fuel .buffered) = .ok cs
  | [], _, _ => rfl
  | p :: more, fuel, deep => by
    simp only [jsonEach, Value.depthOfItems] at deep ⊢
    rw [List.mapM_cons, decodeWithin_json p fuel .buffered (by omega),
      decodeWithin_jsonEach more fuel (by omega)]
    rfl

end

/-- A predicate's form decodes back to the predicate. -/
theorem decode_json (p : Predicate) : Predicate.decode p.json = .ok p :=
  decodeWithin_json p _ .inPlace (Nat.lt_succ_self _)

mutual

/-- The JSON values a predicate holds: what it compares with, its bounds and the values it
lists. -/
def literals : Predicate → List Value
  | .compare _ _ value => [value]
  | .between _ low high => [low, high]
  | .isIn _ values => values
  | .like _ _ | .isNull _ | .isNotNull _ => []
  | .all conditions | .any conditions => literalsEach conditions
  | .not inner => inner.literals

/-- The JSON values a list of predicates holds, in order. -/
def literalsEach : List Predicate → List Value
  | [] => []
  | p :: more => p.literals ++ literalsEach more

end

mutual

/-- A predicate's form is kept exactly by its text when its literals are. -/
theorem json_exact : ∀ p : Predicate, (∀ v ∈ p.literals, v.Exact) → p.json.Exact
  | .compare path op value, exact =>
    .object (by simp) (by simp [path.json_exact, exact value (by simp [literals]), Value.Exact.string])
  | .between path low high, exact =>
    .object (by simp) (by
      simp [path.json_exact, exact low (by simp [literals]), exact high (by simp [literals]),
        Value.Exact.string])
  | .isIn path values, exact =>
    .object (by simp) (by simp [path.json_exact, Value.Exact.string]; exact .array exact)
  | .like path pattern, _ => .object (by simp) (by simp [path.json_exact, Value.Exact.string])
  | .isNull path, _ => .object (by simp) (by simp [path.json_exact, Value.Exact.string])
  | .isNotNull path, _ => .object (by simp) (by simp [path.json_exact, Value.Exact.string])
  | .all cs, exact =>
    .object (by simp) (by simp [Value.Exact.string]; exact .array (jsonEach_exact cs exact))
  | .any cs, exact =>
    .object (by simp) (by simp [Value.Exact.string]; exact .array (jsonEach_exact cs exact))
  | .not inner, exact =>
    .object (by simp) (by simp [Value.Exact.string]; exact json_exact inner exact)

theorem jsonEach_exact : ∀ cs : List Predicate, (∀ v ∈ literalsEach cs, v.Exact) →
    ∀ v ∈ jsonEach cs, v.Exact
  | [], _ => by simp [jsonEach]
  | p :: more, exact => by
    simp only [literalsEach, List.mem_append] at exact
    simp only [jsonEach, List.mem_cons, forall_eq_or_imp]
    exact ⟨json_exact p fun v mem => exact v (.inl mem),
      jsonEach_exact more fun v mem => exact v (.inr mem)⟩

end

end Predicate

/-! ### Through text -/

/-- Written as JSON text and read back, every path gives itself, and so does every predicate
whose literals the text keeps exactly and whose form nests at most 127 deep. -/
theorem json_round_trip :
    (∀ p : NavPath, Value.read p.json.written = .ok p.json ∧ NavPath.decode .inPlace p.json = .ok p) ∧
    ∀ q : Predicate, (∀ v ∈ q.literals, v.Exact) → q.json.depth ≤ 127 →
      Value.read q.json.written = .ok q.json ∧ Predicate.decode q.json = .ok q :=
  ⟨fun p => ⟨Value.read_written p.json_exact (Nat.le_trans p.json_depth (by decide)),
      p.decode_json .inPlace⟩,
    fun q exact shallow => ⟨Value.read_written (q.json_exact exact) shallow, q.decode_json⟩⟩

/-- The condition `Book.year > 2000`, through text. -/
theorem bookYear_json_round_trip :
    (∀ v ∈ (Predicate.compare ⟨"Book", [.get "year"]⟩ .gt (.number (.nat 2000))).literals, v.Exact) ∧
    (Predicate.compare ⟨"Book", [.get "year"]⟩ .gt (.number (.nat 2000))).json.depth ≤ 127 ∧
    Value.read (Predicate.compare ⟨"Book", [.get "year"]⟩ .gt (.number (.nat 2000))).json.written =
      .ok (Predicate.compare ⟨"Book", [.get "year"]⟩ .gt (.number (.nat 2000))).json ∧
    Predicate.decode (Predicate.compare ⟨"Book", [.get "year"]⟩ .gt (.number (.nat 2000))).json =
      .ok (Predicate.compare ⟨"Book", [.get "year"]⟩ .gt (.number (.nat 2000))) := by
  have exact : ∀ v ∈ (Predicate.compare ⟨"Book", [.get "year"]⟩ .gt (.number (.nat 2000))).literals,
      v.Exact := by
    simp only [Predicate.literals, List.mem_singleton, forall_eq]
    exact .nat (by decide)
  have shallow : (Predicate.compare ⟨"Book", [.get "year"]⟩ .gt (.number (.nat 2000))).json.depth ≤ 127 := by
    decide
  exact ⟨exact, shallow, json_round_trip.2 _ exact shallow⟩

end Metamodel.Query
